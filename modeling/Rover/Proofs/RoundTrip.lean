import Mathlib.Data.List.Basic
import Rover.Proofs.Writable
import Rover.Proofs.Written

/-!
# Cities read back

A map that writes a city makes the same city when it is read.  Each section adds
its records to the draft one after the other: first bare places, then streets
between them, then the items of each place by increasing key.  So a city is read
back exactly if it can be written, and every city from a map can be.
-/

namespace Rover.Atlas

/-! ## Sections -/

/-- Some records of a section make one draft of another, whatever lines they stand on. -/
inductive Builds (part : Part) : Draft → List (List Field) → Draft → Prop
  | nil (draft : Draft) : Builds part draft [] draft
  | cons {draft middle next : Draft} {record : List Field} {rest : List (List Field)}
      (told : IsRecordOf part record)
      (added : ∀ line, draft.add part line (Field.line record) = .ok middle)
      (onward : Builds part middle rest next) : Builds part draft (record :: rest) next

theorem Builds.append {part : Part} {draft middle next : Draft} {first second : List (List Field)}
    (begun : Builds part draft first middle) (ended : Builds part middle second next) :
    Builds part draft (first ++ second) next := by
  induction begun with
  | nil => exact ended
  | cons told added onward ih => exact .cons told added (ih ended)

theorem recordsFrom_cons {line : List Char} (trimmed : Text.IsTrim line) (first : Nat)
    (rest : List (List Char)) :
    recordsFrom first (line :: rest) = ⟨first, line⟩ :: recordsFrom (first + 1) rest := by
  have some : Text.trim line ≠ [] := by
    rw [trimmed.trim_eq]
    exact trimmed.ne_nil
  rw [recordsFrom_cons_of_ne_nil some, trimmed.trim_eq]

theorem Builds.readFrom {part : Part} {draft next : Draft} {records : List (List Field)}
    (builds : Builds part draft records next) (count first : Nat) (more : List (List Char)) :
    readFrom count (.inside part) draft
        (recordsFrom first (records.map Field.line ++ more)) =
      readFrom count (.inside part) next (recordsFrom (first + records.length) more) := by
  induction builds generalizing first with
  | nil => rfl
  | @cons draft middle next record rest told added onward ih =>
      have later := ih (first + 1)
      rw [List.map_cons, List.cons_append, recordsFrom_cons told.isTrim, Atlas.readFrom,
        if_neg (Bool.eq_false_iff.mp told.goesOn), added]
      dsimp only
      rw [later, List.length_cons, Nat.add_right_comm]
      rfl

/-- The lines of a section. -/
def sectionLines (part : Part) (records : List (List Field)) : List (List Char) :=
  part.opener.toList :: (records.map Field.line ++ [part.closer.toList])

theorem length_sectionLines (part : Part) (records : List (List Field)) :
    (sectionLines part records).length = records.length + 2 := by
  rw [sectionLines, List.length_cons, List.length_append, List.length_map]
  rfl

theorem isWritable_opener (part : Part) : (Field.word part.opener).IsWritable := by
  cases part <;> exact Field.isWritable_word (by decide) (by decide)

theorem isWritable_closer (part : Part) : (Field.word part.closer).IsWritable := by
  cases part <;> exact Field.isWritable_word (by decide) (by decide)

theorem begunBy?_opener (part : Part) : Part.begunBy? part.opener.toList = some part := by
  cases part <;> decide

theorem Builds.readFrom_section {part : Part} {draft next : Draft} {records : List (List Field)}
    (builds : Builds part draft records next) (count first : Nat) (more : List (List Char)) :
    Atlas.readFrom count .outside draft
        (recordsFrom first (sectionLines part records ++ more)) =
      Atlas.readFrom count .outside next
        (recordsFrom (first + (sectionLines part records).length) more) := by
  have opened : Text.IsTrim part.opener.toList := (isWritable_opener part).isTrim
  have closed : Text.IsTrim part.closer.toList := (isWritable_closer part).isTrim
  have closes : Text.isKeyword part.closer part.closer.toList = true := beq_self_eq_true _
  have later : first + (sectionLines part records).length = first + 1 + records.length + 1 := by
    rw [length_sectionLines]
    omega
  rw [later, sectionLines, List.cons_append, recordsFrom_cons opened, Atlas.readFrom,
    begunBy?_opener]
  dsimp only
  rw [List.append_assoc, builds.readFrom, List.singleton_append, recordsFrom_cons closed,
    Atlas.readFrom, if_pos closes]

theorem Builds.not_mem_line {part : Part} {draft next : Draft} {records : List (List Field)}
    (builds : Builds part draft records next) :
    ∀ line ∈ sectionLines part records, '\n' ∉ line := by
  have opened : '\n' ∉ part.opener.toList := (isWritable_opener part).not_mem_written
  have closed : '\n' ∉ part.closer.toList := (isWritable_closer part).not_mem_written
  rw [sectionLines, List.forall_mem_cons, List.forall_mem_append, List.forall_mem_singleton]
  refine ⟨opened, ?_, closed⟩
  induction builds with
  | nil => exact nofun
  | cons told added onward ih =>
      rw [List.map_cons, List.forall_mem_cons]
      exact ⟨Field.not_mem_line told.writable, ih⟩

/-! ## Building a city -/

/-- A draft of a city with a count of items; the numbers of its places go without saying. -/
def Draft.of (city : City) (itemCount : Nat) : Draft :=
  ⟨city, List.range city.places.length, itemCount, rfl⟩

/-- A place before anything is laid there. -/
def bare (place : Place) : Place :=
  { place with items := .empty }

/-- Records with the numbers that follow. -/
def numbered {α : Type} (record : α → Nat → List Field) (things : List α) (first : Nat) :
    List (List Field) :=
  (things.zipIdx first).map fun (thing, number) => record thing number

theorem numbered_cons {α : Type} (record : α → Nat → List Field) (thing : α) (rest : List α)
    (first : Nat) :
    numbered record (thing :: rest) first = record thing first :: numbered record rest (first + 1) := by
  rw [numbered, List.zipIdx_cons, List.map_cons]
  rfl

theorem numbered_append {α : Type} (record : α → Nat → List Field) (before after : List α)
    (first : Nat) :
    numbered record (before ++ after) first =
      numbered record before first ++ numbered record after (first + before.length) := by
  rw [numbered, List.zipIdx_append, List.map_append]
  rfl

theorem builds_places {draft : Draft} {places : List Place}
    (writable : ∀ place ∈ places, place.IsWritable)
    (fits : draft.city.places.length + places.length ≤ UInt64.size) :
    Builds .places draft (numbered placeRecord places draft.city.places.length)
      (.of { draft.city with places := draft.city.places ++ places.map bare } draft.itemCount) := by
  induction places generalizing draft with
  | nil =>
      have same : draft = .of { draft.city with places := draft.city.places ++ [] }
          draft.itemCount := by
        ext1
        · rw [List.append_nil]
          rfl
        · rfl
      exact same ▸ .nil draft
  | cons place rest ih =>
      have told := isRecordOf_placeRecord (writable place List.mem_cons_self)
        draft.city.places.length
      have others := fun other member => writable other (List.mem_cons_of_mem place member)
      have longer : (draft.addPlace (bare place)).city.places.length =
          draft.city.places.length + 1 :=
        length_places_addPlace _ _
      have all : (draft.addPlace (bare place)).city.places ++ rest.map bare =
          draft.city.places ++ (place :: rest).map bare :=
        List.append_assoc _ _ _
      rw [List.length_cons] at fits
      have onward := @ih (draft.addPlace (bare place)) others (by rw [longer]; omega)
      rw [longer, all] at onward
      rw [numbered_cons]
      refine .cons told (fun line => ?_) onward
      rw [Draft.add, Field.split_line told.writable]
      exact Draft.place_placeRecord place (by omega)

theorem builds_streets {draft : Draft} {streets : List Street}
    (writable : ∀ street ∈ streets, street.IsWritable draft.city.places.length)
    (placesFit : draft.city.places.length ≤ UInt64.size)
    (fits : draft.city.streets.length + streets.length ≤ UInt64.size) :
    Builds .streets draft (numbered streetRecord streets draft.city.streets.length)
      (.of { draft.city with streets := draft.city.streets ++ streets } draft.itemCount) := by
  induction streets generalizing draft with
  | nil =>
      have same : draft = .of { draft.city with streets := draft.city.streets ++ [] }
          draft.itemCount := by
        ext1
        · rw [List.append_nil]
          rfl
        · rfl
      exact same ▸ .nil draft
  | cons street rest ih =>
      have streetWritable := writable street List.mem_cons_self
      have told := isRecordOf_streetRecord streetWritable draft.city.streets.length
      have others := fun other member => writable other (List.mem_cons_of_mem street member)
      have longer : (draft.addStreet street).city.streets.length =
          draft.city.streets.length + 1 :=
        length_streets_addStreet _ _
      have all : (draft.addStreet street).city.streets ++ rest =
          draft.city.streets ++ street :: rest :=
        List.append_assoc _ _ _
      rw [List.length_cons] at fits
      have onward := @ih (draft.addStreet street) others placesFit (by rw [longer]; omega)
      rw [longer, all] at onward
      rw [numbered_cons]
      refine .cons told (fun line => ?_) onward
      rw [Draft.add, Field.split_line told.writable]
      exact Draft.street_streetRecord streetWritable placesFit (by omega)

/-- The record of an item where it lies. -/
def laidRecord (laid : PlaceId × Item) (number : Nat) : List Field :=
  itemRecord laid.1 laid.2 number

theorem modify_length_append {α : Type} (before : List α) (thing : α) (after : List α)
    (change : α → α) :
    (before ++ thing :: after).modify before.length change = before ++ change thing :: after := by
  induction before with
  | nil => rfl
  | cons first rest ih => exact congrArg (first :: ·) ih

theorem placed_of_below {key : String} {item : Item} {entries : List (String × Item)}
    (below : ∀ entry ∈ entries, entry.1 < key) :
    Bag.placed key item entries = entries ++ [(key, item)] := by
  induction entries with
  | nil => rfl
  | cons entry rest ih =>
      have first := below entry List.mem_cons_self
      have different : key ≠ entry.1 := by
        rintro rfl
        exact String.lt_irrefl _ first
      rw [Bag.placed, if_neg (String.lt_asymm first), if_neg different,
        ih fun other member => below other (List.mem_cons_of_mem entry member), List.cons_append]

theorem entries_add_of_below {bag : Bag} {item : Item}
    (below : ∀ entry ∈ bag.entries, entry.1 < item.key) :
    (bag.add item).entries = bag.entries ++ [(item.key, item)] :=
  placed_of_below below

theorem contains_of_below {bag : Bag} {item : Item}
    (below : ∀ entry ∈ bag.entries, entry.1 < item.key) : bag.contains item.id = false := by
  rw [Bag.contains_eq_false_iff, Bag.find?, Option.eq_none_iff_forall_ne_some]
  intro held found
  have present : (item.key, held) ∈ bag.entries :=
    (bag.mem_entries_iff_atKey? item.key held).mpr found
  exact String.lt_irrefl item.key (below (item.key, held) present)

/-- Nothing at a place has the identifier of an item, if all keys there are smaller. -/
theorem free_of_below {city : City} {before after : List Place} {place : Place} {item : Item}
    (here : city.places = before ++ place :: after)
    (below : ∀ entry ∈ place.items.entries, entry.1 < item.key) :
    ∀ found, city.place? before.length = some found →
      found.items.contains item.id = false := by
  intro found present
  rw [City.place?, here, List.getElem?_append_right (Nat.le_refl _), Nat.sub_self] at present
  cases present
  exact contains_of_below below

/--
The records of the items of a place lay them there, if nothing but those with smaller
keys lies there yet.
-/
theorem builds_items_of_place {draft : Draft} {before after : List Place} {place : Place}
    {bag : Bag} {rest : List (String × Item)}
    (here : draft.city.places = before ++ { place with items := bag } :: after)
    (whole : place.items.entries = bag.entries ++ rest)
    (writable : ∀ entry ∈ rest, entry.2.IsWritable ∧ entry.1 = entry.2.key)
    (placesFit : draft.city.places.length ≤ UInt64.size)
    (fits : draft.itemCount + rest.length ≤ UInt64.size) :
    Builds .items draft
      (numbered laidRecord (rest.map fun entry => (before.length, entry.2)) draft.itemCount)
      (.of { draft.city with places := before ++ place :: after }
        (draft.itemCount + rest.length)) := by
  -- The bag of the draft and the items to come make up the bag of the place.  They
  -- come by increasing key, so each is added at the end.
  induction rest generalizing draft bag with
  | nil =>
      have full : bag = place.items := by
        apply Bag.ext
        rw [whole, List.append_nil]
      rcases draft with ⟨⟨places, streets⟩, numbers, itemCount, rfl⟩
      cases here
      rw [full]
      exact .nil _
  | cons entry rest ih =>
      rcases entry with ⟨key, item⟩
      obtain ⟨itemWritable : item.IsWritable, rfl : key = item.key⟩ :=
        writable (key, item) List.mem_cons_self
      have others := fun other member => writable other (List.mem_cons_of_mem (item.key, item) member)
      have below : ∀ entry ∈ bag.entries, entry.1 < item.key := by
        have sorted := place.items.sorted
        rw [whole] at sorted
        intro entry member
        exact (List.pairwise_append.mp sorted).2.2 entry member (item.key, item) List.mem_cons_self
      have told : IsRecordOf .items (laidRecord (before.length, item) draft.itemCount) :=
        isRecordOf_itemRecord itemWritable before.length draft.itemCount
      have length : before.length < draft.city.places.length := by
        rw [here, List.length_append, List.length_cons]
        omega
      have free := free_of_below here below
      have laid : (draft.city.changeItems before.length fun items => items.add item).places =
          before ++ { place with items := bag.add item } :: after := by
        rw [City.changeItems, here, modify_length_append]
      have stillWhole : place.items.entries = (bag.add item).entries ++ rest := by
        rw [entries_add_of_below below, whole, List.append_assoc, List.singleton_append]
      have stillFits : draft.itemCount + 1 + rest.length ≤ UInt64.size := by
        rw [List.length_cons] at fits
        omega
      have onward := @ih (draft.addItem before.length item) (bag.add item) laid stillWhole others
        ((City.length_places_changeItems _ _ _).trans_le placesFit) stillFits
      rw [Draft.addItem, Nat.add_right_comm, Nat.add_assoc] at onward
      rw [List.map_cons, numbered_cons, List.length_cons]
      refine .cons told (fun line => ?_) onward
      rw [Draft.add, Field.split_line told.writable]
      exact Draft.item_itemRecord itemWritable (by rw [List.length_cons] at fits; omega) length
        placesFit free

/-- The records of the items of some places lay them there, if nothing lies there yet. -/
theorem builds_items {draft : Draft} {before rest : List Place}
    (here : draft.city.places = before ++ rest.map bare)
    (writable : ∀ place ∈ rest, ∀ entry ∈ place.items.entries,
      entry.2.IsWritable ∧ entry.1 = entry.2.key)
    (placesFit : draft.city.places.length ≤ UInt64.size)
    (fits : draft.itemCount + (laidFrom before.length rest).length ≤ UInt64.size) :
    Builds .items draft (numbered laidRecord (laidFrom before.length rest) draft.itemCount)
      (.of { draft.city with places := before ++ rest }
        (draft.itemCount + (laidFrom before.length rest).length)) := by
  induction rest generalizing draft before with
  | nil =>
      rcases draft with ⟨⟨places, streets⟩, numbers, itemCount, rfl⟩
      cases here
      exact .nil _
  | cons place rest ih =>
      have others := fun other member => writable other (List.mem_cons_of_mem place member)
      have laidHere : place.items.items.map (before.length, ·) =
          place.items.entries.map fun entry => (before.length, entry.2) := by
        rw [Bag.items, List.map_map]
        rfl
      rw [laidFrom_cons, laidHere] at fits ⊢
      rw [List.length_append, List.length_map] at fits
      have begun := builds_items_of_place here (List.nil_append _).symm
        (writable place List.mem_cons_self) placesFit (by omega)
      have alsoHere : before ++ place :: rest.map bare = (before ++ [place]) ++ rest.map bare := by
        rw [List.append_assoc, List.singleton_append]
      have alsoFits : (before ++ place :: rest.map bare).length ≤ UInt64.size := by
        rw [here, List.map_cons, List.length_append, List.length_cons] at placesFit
        rw [List.length_append, List.length_cons]
        exact placesFit
      have onward := @ih (.of { draft.city with places := before ++ place :: rest.map bare }
        (draft.itemCount + place.items.entries.length)) (before ++ [place]) alsoHere others alsoFits
        (by rw [List.length_append, List.length_singleton]; dsimp only [Draft.of]; omega)
      rw [List.length_append, List.length_singleton, List.append_assoc, List.singleton_append] at onward
      rw [numbered_append, List.length_append, List.length_map, ← Nat.add_assoc]
      exact begun.append onward

/-! ## Whole maps -/

/-- The lines of a map, section by section. -/
theorem renderLines_eq (city : City) :
    renderLines city = "BeginCity".toList ::
      (sectionLines .places (numbered placeRecord city.places 0) ++
        (sectionLines .streets (numbered streetRecord city.streets 0) ++
          (sectionLines .items (numbered laidRecord (laidItems city) 0) ++
            ["EndCity".toList]))) := by
  simp only [renderLines, sectionLines, numbered, List.map_map, Part.opener, Part.closer,
    List.cons_append, List.append_assoc, List.nil_append]
  rfl

theorem isWritable_beginCity : (Field.word "BeginCity").IsWritable :=
  Field.isWritable_word (by decide) (by decide)

theorem isWritable_endCity : (Field.word "EndCity").IsWritable :=
  Field.isWritable_word (by decide) (by decide)

theorem readFrom_end {draft : Draft} (inhabited : draft.city.places ≠ []) {line : List Char}
    (trimmed : Text.IsTrim line) (begins : Part.begunBy? line = none)
    (ends : Text.isKeyword "EndCity" line = true) (count first : Nat) :
    readFrom count .outside draft (recordsFrom first [line]) = .ok ⟨draft.city, 0⟩ := by
  have filled : draft.city.places.isEmpty = false := List.isEmpty_eq_false_iff.mpr inhabited
  rw [recordsFrom_cons trimmed, readFrom, begins]
  dsimp only
  rw [if_pos ends, Draft.head?_numbers, if_neg (Bool.eq_false_iff.mp filled)]

theorem readFrom_start {draft : Draft} {line : List Char} (trimmed : Text.IsTrim line)
    (begins : Text.isKeyword "BeginCity" line = true) (count first : Nat)
    (more : List (List Char)) :
    readFrom count .start draft (recordsFrom first (line :: more)) =
      readFrom count .outside draft (recordsFrom (first + 1) more) := by
  rw [recordsFrom_cons trimmed, readFrom, if_pos begins]

/-- Sections that make a city with places of nothing are read as that city. -/
theorem readFrom_sections {places streets items : List (List Field)} {first second last : Draft}
    (placesBuilt : Builds .places .empty places first)
    (streetsBuilt : Builds .streets first streets second)
    (itemsBuilt : Builds .items second items last) (inhabited : last.city.places ≠ [])
    (count : Nat) :
    readFrom count .start .empty
        (recordsFrom 1 ("BeginCity".toList :: (sectionLines .places places ++
          (sectionLines .streets streets ++ (sectionLines .items items ++
            ["EndCity".toList]))))) = .ok ⟨last.city, 0⟩ := by
  have trimmed : Text.IsTrim "BeginCity".toList := isWritable_beginCity.isTrim
  rw [readFrom_start trimmed (beq_self_eq_true _), placesBuilt.readFrom_section,
    streetsBuilt.readFrom_section, itemsBuilt.readFrom_section]
  exact readFrom_end inhabited isWritable_endCity.isTrim (by decide) (beq_self_eq_true _) _ _

/-- A city that can be written is read back, and a robot starts at its first place. -/
theorem load_render {city : City} (writable : city.IsWritable) :
    load (render city) = .ok ⟨city, 0⟩ := by
  have items := writable.items
  have itemsWritable : ∀ place ∈ city.places, place.items.All Item.IsWritable := by
    intro place member item inside
    rcases List.mem_map.mp inside with ⟨entry, within, rfl⟩
    exact (items place member entry within).1
  have itemCount := writable.itemCount
  have same := laidItems_eq_laidFrom itemsWritable
  rw [same] at itemCount
  have bareCount : (city.places.map bare).length = city.places.length := List.length_map bare
  have placesFit := bareCount.trans_le writable.placeCount
  have fromNothing : ∀ {count : Nat}, count ≤ UInt64.size → 0 + count ≤ UInt64.size := by
    intro count fits
    rw [Nat.zero_add]
    exact fits
  have placesBuilt := @builds_places .empty city.places writable.places
    (fromNothing writable.placeCount)
  have streetsBuilt := @builds_streets (.of ⟨city.places.map bare, []⟩ 0) city.streets
    (bareCount.symm ▸ writable.streets) placesFit (fromNothing writable.streetCount)
  have itemsBuilt := @builds_items (.of ⟨city.places.map bare, city.streets⟩ 0) [] city.places rfl
    items placesFit (fromNothing itemCount)
  have lined : ∀ line ∈ renderLines city, '\n' ∉ line := by
    rw [renderLines_eq, same]
    simp only [List.forall_mem_cons, List.forall_mem_append]
    exact ⟨isWritable_beginCity.not_mem_written, placesBuilt.not_mem_line,
      streetsBuilt.not_mem_line, itemsBuilt.not_mem_line, isWritable_endCity.not_mem_written, nofun⟩
  rw [load, render, String.toList_ofList, Text.lines_flatMap lined, renderLines_eq, same]
  exact readFrom_sections placesBuilt streetsBuilt itemsBuilt writable.nonempty _

/--
A city is read back from the map that writes it, with its place 0 to start from,
exactly if it can be written.  Every map that can be read makes such a city and
starts at its place 0; so to write it and read it again changes nothing.  The
bounds that writing puts on how many records there are hold of every city whose
things are counted by 64-bit numbers.
-/
theorem load_render_iff_isWritable :
    (∀ city : City, load (render city) = .ok ⟨city, 0⟩ ↔ city.IsWritable) ∧
      ∀ (map : String) (loaded : Loaded), load map = .ok loaded →
        loaded.city.IsWritable ∧ load (render loaded.city) = .ok loaded ∧
          loaded.start = 0 ∧ loaded.start < loaded.city.places.length := by
  constructor
  · intro city
    exact ⟨fun ran => isWritable_of_read (load_eq_ok_iff.mp ran).1, load_render⟩
  · rintro map ⟨city, start⟩ ran
    obtain ⟨read, rfl : start = 0⟩ := load_eq_ok_iff.mp ran
    have writable := isWritable_of_read read
    exact ⟨writable, load_render writable, rfl, List.length_pos_iff.mpr writable.nonempty⟩

/-- The lines of a map in the hand of a player, with the items before the streets. -/
def plazaLines : List String :=
  ["begincity", "BEGINPLACES", "  place +0 Sol Puerta_del_Sol noSpaceShip",
    "place 1 \"EndPlaces\" \"snake_case\" SPACESHIP", "EndPlaces", "", "BeginItems",
    "garbage 0 Can \"\" -5 place 1", "fuel 1 Battery to_go -30 3 place 0",
    "codecard 2 Card Key sesame place 0", "EndItems", "BeginStreets",
    "street 0 place 0 west place 1 closed sesame", "EndStreets", "EndCity", "and more"]

/-- The map of these lines. -/
def plazaMap : String :=
  String.ofList (plazaLines.flatMap fun line => line.toList ++ ['\n'])

/-- The city that it makes. -/
def plaza : City where
  places :=
    [⟨"Sol", "Puerta del Sol", false, .ofItems
        [⟨"Battery", "to go", .fuel ⟨-30, by decide, by decide⟩ ⟨3, by decide, by decide⟩⟩,
          ⟨"Card", "Key", .codeCard "sesame"⟩]⟩,
      ⟨"EndPlaces", "snake_case", true, .ofItems
        [⟨"Can", "", .garbage ⟨-5, by decide, by decide⟩ .one⟩]⟩]
  streets := [⟨0, .west, 1, false, "sesame"⟩]

/-- Its map in order, with all texts between quotes, makes the same city again. -/
theorem plaza_is_read_back :
    load plazaMap = .ok ⟨plaza, 0⟩ ∧ plaza.IsWritable ∧ load (render plaza) = .ok ⟨plaza, 0⟩ := by
  have ran : load plazaMap = .ok ⟨plaza, 0⟩ := by
    rw [load, plazaMap, String.toList_ofList]
    decide +kernel
  rcases load_render_iff_isWritable.2 plazaMap ⟨plaza, 0⟩ ran with ⟨writable, same, -, -⟩
  exact ⟨ran, writable, same⟩

end Rover.Atlas
