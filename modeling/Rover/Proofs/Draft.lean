import Rover.Atlas.Reader
import Rover.Breakdown
import Rover.Proofs.Bag
import Rover.Proofs.Fields

/-!
# What a map makes of a city

A map adds to its city record by record: a bare place, a street between places
that are there, or an item at such a place where nothing has its identifier
yet, each of a kind that a map can tell of.  What the empty city has and no
record spoils is had by every city from a map.
-/

namespace Rover.Atlas

namespace Draft

/-- What a record of a section makes of a draft. -/
inductive Grows (draft : Draft) : Part → Draft → Prop
  | place {place : Place} (bare : place.items = .empty) (writable : place.IsWritable)
      (numbered : draft.city.places.length < UInt64.size) :
      Grows draft .places (draft.addPlace place)
  | street {street : Street} (writable : street.IsWritable draft.city.places.length)
      (numbered : draft.city.streets.length < UInt64.size) :
      Grows draft .streets (draft.addStreet street)
  | item {place : PlaceId} {item : Item} (writable : item.IsWritable)
      (numbered : draft.itemCount < UInt64.size) (inside : place < draft.city.places.length)
      (free : ∀ found, draft.city.place? place = some found →
        found.items.contains item.id = false) :
      Grows draft .items (draft.addItem place item)

variable {draft next : Draft} {line : Nat} {fields : List Field}

theorem lt_of_inSequence {subject : Subject} {field : Field} {expected : Nat} {done : Unit}
    (sequenced : inSequence line subject field expected = .ok done) : expected < UInt64.size := by
  rcases bind_eq_ok_iff.mp sequenced with ⟨found, read, same⟩
  split at same
  · rename_i equal
    subst equal
    rw [index] at read
    split at read
    · rename_i number indexed
      cases read
      exact of_decide_eq_true (Option.filter_eq_some_iff.mp indexed).2
    · cases read
  · cases same

/-- What a record of a place tells is what is added. -/
theorem place_eq_ok (added : draft.place line fields = .ok next) :
    draft.city.places.length < UInt64.size ∧ ∃ word number name description ship,
      fields = [word, number, name, description, ship] ∧
        next = draft.addPlace
          { name := name.content
            description := description.description
            isSpaceship := ship.is "spaceShip"
            items := .empty } := by
  unfold Draft.place at added
  dsimp only at added
  split at added
  · rename_i word number name description ship
    split at added
    · cases added
    · rcases bind_eq_ok_iff.mp added with ⟨_, sequenced, numbered⟩
      have fits := lt_of_inSequence sequenced
      rw [length_numbers] at fits
      refine ⟨fits, word, number, name, description, ship, rfl, ?_⟩
      split at numbered
      · rename_i isSpaceship
        cases numbered
        rw [isSpaceship]
      · rename_i notSpaceship
        split at numbered
        · cases numbered
          rw [Bool.eq_false_iff.mpr notSpaceship]
        · cases numbered
  · cases added

theorem grows_place (quotable : ∀ field ∈ fields, IsQuotable field.content)
    (added : draft.place line fields = .ok next) : draft.Grows .places next := by
  rcases place_eq_ok added with
    ⟨numbered, word, number, name, description, ship, rfl, rfl⟩
  refine .place rfl ⟨quotable name (by simp), ?_⟩ numbered
  exact Field.isQuotable_description (quotable description (by simp))

theorem placeNumber_eq_ok {field : Field} {place : PlaceId}
    (found : draft.placeNumber line field = .ok place) :
    Text.index? field.text = some place ∧ place < draft.city.places.length := by
  rcases bind_eq_ok_iff.mp found with ⟨number, read, checked⟩
  rw [numbers_getElem?] at checked
  split at checked
  · rename_i known
    cases checked
    rcases Option.ite_none_right_eq_some.mp known with ⟨inside, ⟨⟩⟩
    refine ⟨?_, inside⟩
    unfold index at read
    split at read
    · rename_i indexed
      cases read
      exact indexed
    · cases read
  · cases checked

theorem code_of_doorAndCode? {record : StreetRecord} {isOpen : Bool} {code : String}
    (door : record.doorAndCode? = some (isOpen, code)) (opened : isOpen = true) : code = "" := by
  unfold StreetRecord.doorAndCode? at door
  split at door <;> split at door <;> cases door
  · rfl
  · cases opened

theorem isQuotable_of_doorAndCode? {record : StreetRecord} {isOpen : Bool} {code : String}
    (quotable : ∀ field ∈ record.code?, IsQuotable field.content)
    (door : record.doorAndCode? = some (isOpen, code)) : IsQuotable code := by
  unfold StreetRecord.doorAndCode? at door
  split at door <;> split at door <;> cases door
  · exact ⟨nofun, nofun⟩
  · rename_i field given closed
    exact quotable field given

theorem mem_of_ofFields? {record : StreetRecord}
    (read : StreetRecord.ofFields? fields = some record) :
    ∀ field ∈ record.code?, field ∈ fields := by
  unfold StreetRecord.ofFields? at read
  split at read
  · cases read
    exact nofun
  · cases read
    rintro field ⟨rfl⟩
    simp
  · cases read

/-- What the record of a street tells of the street. -/
structure StreetRecord.Tells (record : StreetRecord) (street : Street) : Prop where
  source : Text.index? record.source.text = some street.source
  direction : Direction.parse record.direction.text = street.direction
  target : Text.index? record.target.text = some street.target
  door : record.doorAndCode? = some (street.isOpen, street.code)

/-- What a record of a street tells is what is added. -/
theorem street_eq_ok (added : draft.street line fields = .ok next) :
    draft.city.streets.length < UInt64.size ∧ ∃ record street,
      StreetRecord.ofFields? fields = some record ∧ record.Tells street ∧
        street.source < draft.city.places.length ∧ street.target < draft.city.places.length ∧
        street.direction ≠ .unknown ∧
        next = draft.addStreet street := by
  unfold Draft.street at added
  dsimp only at added
  split at added
  · cases added
  · rename_i record read
    split at added
    · cases added
    · split at added
      · cases added
      · rename_i isOpen code door
        rcases bind_eq_ok_iff.mp added with ⟨_, sequenced, numbered⟩
        rcases bind_eq_ok_iff.mp numbered with ⟨source, sourceFound, sourced⟩
        rcases bind_eq_ok_iff.mp sourced with ⟨target, targetFound, targeted⟩
        have ⟨sourceTold, sourceInside⟩ := placeNumber_eq_ok sourceFound
        have ⟨targetTold, targetInside⟩ := placeNumber_eq_ok targetFound
        split at targeted
        · cases targeted
        · rename_i known
          cases targeted
          exact ⟨lt_of_inSequence sequenced, record, _, read, ⟨sourceTold, rfl, targetTold, door⟩,
            sourceInside, targetInside, known, rfl⟩

theorem grows_street (quotable : ∀ field ∈ fields, IsQuotable field.content)
    (added : draft.street line fields = .ok next) : draft.Grows .streets next := by
  rcases street_eq_ok added with
    ⟨numbered, record, street, read, tells, source, target, known, rfl⟩
  refine .street ⟨source, target, known, ?_, code_of_doorAndCode? tells.door⟩ numbered
  exact isQuotable_of_doorAndCode?
    (fun field given => quotable field (mem_of_ofFields? read field given)) tells.door

theorem grows_layItem {item : Item} {word number : Field} (writable : item.IsWritable)
    (numbered : draft.itemCount < UInt64.size)
    (added : draft.layItem line item word number = .ok next) : draft.Grows .items next := by
  unfold layItem at added
  dsimp only at added
  split at added
  · cases added
  · rcases bind_eq_ok_iff.mp added with ⟨place, found, checked⟩
    split at checked
    · cases checked
    · rename_i notThere
      cases checked
      refine .item writable numbered (placeNumber_eq_ok found).2 fun there present => ?_
      rw [present] at notThere
      exact Bool.eq_false_iff.mpr notThere

theorem isWritable_of_fields {id description : Field} (idQuotable : IsQuotable id.content)
    (quotable : IsQuotable description.content) (kind : ItemKind) (told : kind.IsWritable) :
    Item.IsWritable ⟨id.content, description.description, kind⟩ :=
  ⟨idQuotable, Field.isQuotable_description quotable, told⟩

theorem grows_item (quotable : ∀ field ∈ fields, IsQuotable field.content)
    (added : draft.item line fields = .ok next) : draft.Grows .items next := by
  unfold Draft.item at added
  dsimp only at added
  split at added
  · rename_i word number id description power times placeWord place
    have written := isWritable_of_fields (quotable id (by simp)) (quotable description (by simp))
    split at added
    · cases added
    · rcases bind_eq_ok_iff.mp added with ⟨_, sequenced, numbered⟩
      rcases bind_eq_ok_iff.mp numbered with ⟨power, -, powered⟩
      rcases bind_eq_ok_iff.mp powered with ⟨times, -, counted⟩
      exact grows_layItem (written (.fuel power times) trivial) (lt_of_inSequence sequenced) counted
  · rename_i word number id description detail placeWord place
    have written := isWritable_of_fields (quotable id (by simp)) (quotable description (by simp))
    split at added
    · rcases bind_eq_ok_iff.mp added with ⟨_, sequenced, numbered⟩
      rcases bind_eq_ok_iff.mp numbered with ⟨material, -, weighed⟩
      exact grows_layItem (written (.garbage material .one) rfl) (lt_of_inSequence sequenced)
        weighed
    · split at added
      · rcases bind_eq_ok_iff.mp added with ⟨_, sequenced, numbered⟩
        have code : IsQuotable detail.content := quotable detail (by simp)
        exact grows_layItem (written (.codeCard detail.content) code) (lt_of_inSequence sequenced)
          numbered
      · cases added
  · cases added

/-- Every record that is read from a line makes a place, a street or an item. -/
theorem grows_add {part : Part} {record : List Char} (lined : '\n' ∉ record)
    (added : draft.add part line record = .ok next) : draft.Grows part next := by
  unfold add at added
  split at added
  · cases added
  · rename_i fields read
    have quotable := Field.isQuotable_content lined read
    cases part with
    | places => exact grows_place quotable added
    | streets => exact grows_street quotable added
    | items => exact grows_item quotable added

end Draft

theorem not_mem_text_of_mem_recordsFrom {first : Nat} {lines : List (List Char)}
    (whole : ∀ line ∈ lines, '\n' ∉ line) :
    ∀ record ∈ recordsFrom first lines, '\n' ∉ record.text := by
  induction lines generalizing first with
  | nil => exact nofun
  | cons line rest ih =>
      have others : ∀ record ∈ recordsFrom (first + 1) rest, '\n' ∉ record.text :=
        ih fun other member => whole other (List.mem_cons_of_mem line member)
      rw [recordsFrom]
      split
      · exact others
      · intro record member
        rcases List.mem_cons.mp member with rfl | later
        · exact fun inside => whole line List.mem_cons_self (Text.mem_of_mem_trim inside)
        · exact others record later

/-- What holds of the draft and is kept by records holds of the draft in the end. -/
theorem readFrom_induction {property : Draft → Prop} {count : Nat} {position : Position}
    {draft : Draft} {records : List Record} {loaded : Loaded} (holds : property draft)
    (kept : ∀ (draft next : Draft) (part : Part), property draft → draft.Grows part next →
      property next)
    (lined : ∀ record ∈ records, '\n' ∉ record.text)
    (ran : readFrom count position draft records = .ok loaded) :
    loaded.start = 0 ∧ loaded.city.places ≠ [] ∧
      ∃ last, property last ∧ last.city = loaded.city := by
  induction records generalizing position draft with
  | nil =>
      rw [readFrom] at ran
      cases ran
  | cons record rest ih =>
      have restLined := fun other member => lined other (List.mem_cons_of_mem record member)
      cases position with
      | start =>
          rw [readFrom] at ran
          split at ran
          · exact ih holds restLined ran
          · cases ran
      | outside =>
          rw [readFrom] at ran
          split at ran
          · exact ih holds restLined ran
          · split at ran
            · rw [Draft.head?_numbers] at ran
              split at ran
              · cases ran
              · rename_i first
                rcases Option.ite_none_left_eq_some.mp first with ⟨inhabited, ⟨⟩⟩
                cases ran
                exact ⟨rfl, fun bare => inhabited (List.isEmpty_iff.mpr bare), draft, holds, rfl⟩
            · cases ran
      | inside part =>
          rw [readFrom] at ran
          split at ran
          · exact ih holds restLined ran
          · split at ran
            · cases ran
            · rename_i added
              have grows := Draft.grows_add (lined record List.mem_cons_self) added
              exact ih (kept _ _ _ holds grows) restLined ran

theorem load_induction {property : Draft → Prop} {map : String} {loaded : Loaded}
    (holds : property .empty)
    (kept : ∀ (draft next : Draft) (part : Part), property draft → draft.Grows part next →
      property next)
    (ran : load map = .ok loaded) :
    loaded.start = 0 ∧ loaded.city.places ≠ [] ∧
      ∃ last, property last ∧ last.city = loaded.city := by
  refine readFrom_induction holds kept ?_ ran
  apply not_mem_text_of_mem_recordsFrom
  exact fun line member => Text.not_mem_of_mem_lines member

theorem read_eq_ok_iff {map : String} {city : City} :
    read map = .ok city ↔ ∃ loaded, load map = .ok loaded ∧ loaded.city = city := by
  rw [read]
  cases load map <;> simp [Except.map]

/-- A robot starts at the first place of a city from a map. -/
theorem load_eq_ok_iff {map : String} {loaded : Loaded} :
    load map = .ok loaded ↔ read map = .ok loaded.city ∧ loaded.start = firstPlace := by
  have starts {other : Loaded} (ran : load map = .ok other) : other.start = firstPlace :=
    (@load_induction (fun _ => True) _ _ trivial (fun _ _ _ _ _ => trivial) ran).1
  constructor
  · intro ran
    exact ⟨read_eq_ok_iff.mpr ⟨loaded, ran, rfl⟩, starts ran⟩
  · rintro ⟨ran, start⟩
    rcases read_eq_ok_iff.mp ran with ⟨⟨city, other⟩, alsoRan, rfl⟩
    rcases loaded with ⟨_, _⟩
    cases start
    cases starts alsoRan
    exact alsoRan

theorem read_induction {property : Draft → Prop} {map : String} {city : City}
    (holds : property .empty)
    (kept : ∀ (draft next : Draft) (part : Part), property draft → draft.Grows part next →
      property next)
    (ran : read map = .ok city) :
    city.places ≠ [] ∧ ∃ last, property last ∧ last.city = city := by
  rcases read_eq_ok_iff.mp ran with ⟨loaded, alsoRan, rfl⟩
  exact (load_induction holds kept alsoRan).2

/-! ## Cities from maps -/

theorem length_places_addPlace (city : City) (place : Place) :
    (city.addPlace place).places.length = city.places.length + 1 :=
  List.length_append

theorem length_streets_addStreet (city : City) (street : Street) :
    (city.addStreet street).streets.length = city.streets.length + 1 :=
  List.length_append

theorem forall_places_addPlace {city : City} {property : Place → Prop} {place : Place}
    (holds : ∀ place ∈ city.places, property place) (added : property place) :
    ∀ other ∈ (city.addPlace place).places, property other :=
  List.forall_mem_append.mpr ⟨holds, List.forall_mem_singleton.mpr added⟩

theorem forall_streets_addStreet {city : City} {property : Street → Prop} {street : Street}
    (holds : ∀ street ∈ city.streets, property street) (added : property street) :
    ∀ other ∈ (city.addStreet street).streets, property other :=
  List.forall_mem_append.mpr ⟨holds, List.forall_mem_singleton.mpr added⟩

/-- What holds of all places, and of one with its items changed, holds of all after the change. -/
theorem forall_places_changeItems {city : City} {property : Place → Prop} {place : PlaceId}
    {change : Bag → Bag} (holds : ∀ place ∈ city.places, property place)
    (changed : ∀ found, city.place? place = some found →
      property { found with items := change found.items }) :
    ∀ other ∈ (city.changeItems place change).places, property other := by
  intro other member
  rcases List.getElem_of_mem member with ⟨index, within, rfl⟩
  rw [City.length_places_changeItems] at within
  simp only [City.changeItems, List.getElem_modify]
  split
  · rename_i here
    subst here
    exact changed _ (List.getElem?_eq_getElem within)
  · exact holds _ (List.getElem_mem within)

/-- Items are kept under their keys, and streets lead to places that are there. -/
structure IsSound (city : City) : Prop where
  keyed : ∀ place ∈ city.places, place.items.IsKeyed
  ends : ∀ street ∈ city.streets,
    street.source < city.places.length ∧ street.target < city.places.length

theorem IsSound.grows {draft next : Draft} {part : Part} (sound : IsSound draft.city)
    (grows : draft.Grows part next) : IsSound next.city := by
  cases grows with
  | @place place bare writable =>
      have keyed : place.items.IsKeyed := by
        rw [bare]
        exact Bag.isKeyed_empty
      refine ⟨forall_places_addPlace sound.keyed keyed, ?_⟩
      intro street member
      have ⟨source, target⟩ := sound.ends street member
      rw [Draft.addPlace, length_places_addPlace]
      exact ⟨Nat.lt_succ_of_lt source, Nat.lt_succ_of_lt target⟩
  | street writable =>
      exact ⟨sound.keyed, forall_streets_addStreet sound.ends ⟨writable.source, writable.target⟩⟩
  | item writable =>
      constructor
      · refine forall_places_changeItems sound.keyed ?_
        intro found present
        exact (sound.keyed found (List.mem_of_getElem? present)).add _
      · intro street member
        rw [Draft.addItem, City.length_places_changeItems]
        exact sound.ends street member

theorem read_isSound {map : String} {city : City} (ran : read map = .ok city) :
    IsSound city ∧ city.places ≠ [] := by
  have bare : IsSound Draft.empty.city := ⟨nofun, nofun⟩
  have kept : ∀ (draft next : Draft) (part : Part), IsSound draft.city →
      draft.Grows part next → IsSound next.city :=
    fun draft next part sound grows => sound.grows grows
  rcases @read_induction (fun draft => IsSound draft.city) _ _ bare kept ran with
    ⟨inhabited, last, sound, rfl⟩
  exact ⟨sound, inhabited⟩

end Rover.Atlas
