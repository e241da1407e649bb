import Rover.Proofs.Writable

/-!
# What a map tells and what its city has

A map is read in one pass, and every record of a section leaves its mark on the
city: the places and the streets are those of their records, one for one and in
the same order, and there are as many items as records of items.  Nothing after
the end of the city counts.

Beside that stands what a record is checked for, so that a city from a map is
well formed.
-/

namespace Rover.Atlas

/-! ## The records of a map -/

/-- The records up to the end of the city, each with the section that it stands in. -/
def entriesFrom : Position → List Record → List (Part × Record)
  | _, [] => []
  | .start, _ :: rest => entriesFrom .outside rest
  | .outside, record :: rest =>
      match Part.begunBy? record.text with
      | some part => entriesFrom (.inside part) rest
      | none => []
  | .inside part, record :: rest =>
      if Text.isKeyword part.closer record.text then
        entriesFrom .outside rest
      else
        (part, record) :: entriesFrom (.inside part) rest

/-- The records of a map up to the end of its city, each with its section. -/
def census (map : String) : List (Part × Record) :=
  entriesFrom .start (recordsFrom 1 (Text.lines map.toList))

/-- The records of a section, wherever it is taken up. -/
def recordsIn (part : Part) (entries : List (Part × Record)) : List Record :=
  (entries.filter fun entry => entry.1 = part).map Prod.snd

theorem recordsIn_append_same (part : Part) (entries : List (Part × Record)) (record : Record) :
    recordsIn part (entries ++ [(part, record)]) = recordsIn part entries ++ [record] := by
  simp [recordsIn]

theorem recordsIn_append_other {part other : Part} (different : other ≠ part)
    (entries : List (Part × Record)) (record : Record) :
    recordsIn part (entries ++ [(other, record)]) = recordsIn part entries := by
  simp [recordsIn, different]

/-! ## What records tell -/

/-- A record tells of a place, apart from its items. -/
def Record.TellsPlace (record : Record) (place : Place) : Prop :=
  ∃ word number name description ship,
    Field.split record.text = some [word, number, name, description, ship] ∧
      place.name = name.content ∧ place.description = description.description ∧
        place.isSpaceship = ship.is "spaceShip"

/-- A record tells of a street. -/
def Record.TellsStreet (record : Record) (street : Street) : Prop :=
  ∃ fields told, Field.split record.text = some fields ∧
    Draft.StreetRecord.ofFields? fields = some told ∧ told.Tells street

/-- A city is what some records tell. -/
structure IsToldBy (city : City) (entries : List (Part × Record)) : Prop where
  places : List.Forall₂ Record.TellsPlace (recordsIn .places entries) city.places
  streets : List.Forall₂ Record.TellsStreet (recordsIn .streets entries) city.streets
  items : city.stock.card = (recordsIn .items entries).length

theorem isToldBy_empty : IsToldBy .empty [] where
  places := .nil
  streets := .nil
  items := rfl

/-- What records tell of places is all in the plan. -/
theorem forall₂_tellsPlace_iff {records : List Record} {city : City} :
    List.Forall₂ Record.TellsPlace records city.plan.places ↔
      List.Forall₂ Record.TellsPlace records city.places :=
  List.forall₂_map_right_iff

variable {draft next : Draft} {entries : List (Part × Record)} {record : Record}

theorem IsToldBy.place (told : IsToldBy draft.city entries) {fields : List Field}
    (read : Field.split record.text = some fields)
    (added : draft.place record.line fields = .ok next) :
    IsToldBy next.city (entries ++ [(.places, record)]) := by
  rcases Draft.place_eq_ok added with ⟨-, word, number, name, description, ship, rfl, rfl⟩
  have tells : record.TellsPlace
      ⟨name.content, description.description, ship.is "spaceShip", .empty⟩ :=
    ⟨word, number, name, description, ship, read, rfl, rfl, rfl⟩
  constructor
  · rw [recordsIn_append_same]
    exact List.rel_append told.places (.cons tells .nil)
  · rw [recordsIn_append_other (by decide)]
    exact told.streets
  · rw [recordsIn_append_other (by decide), Draft.addPlace, stock_addPlace rfl]
    exact told.items

theorem IsToldBy.street (told : IsToldBy draft.city entries) {fields : List Field}
    (read : Field.split record.text = some fields)
    (added : draft.street record.line fields = .ok next) :
    IsToldBy next.city (entries ++ [(.streets, record)]) := by
  rcases Draft.street_eq_ok added with ⟨-, toldStreet, street, made, tells, -, -, -, rfl⟩
  constructor
  · rw [recordsIn_append_other (by decide)]
    exact told.places
  · rw [recordsIn_append_same]
    exact List.rel_append told.streets (.cons ⟨fields, toldStreet, read, made, tells⟩ .nil)
  · rw [recordsIn_append_other (by decide)]
    exact told.items

theorem IsToldBy.item (told : IsToldBy draft.city entries)
    (grows : draft.Grows .items next) :
    IsToldBy next.city (entries ++ [(.items, record)]) := by
  cases grows with
  | item writable numbered inside free =>
      constructor
      · rw [recordsIn_append_other (by decide), ← forall₂_tellsPlace_iff, Draft.addItem,
          City.plan_changeItems, forall₂_tellsPlace_iff]
        exact told.places
      · rw [recordsIn_append_other (by decide)]
        exact told.streets
      · rw [recordsIn_append_same, List.length_append, Draft.addItem,
          stock_changeItems inside free, Multiset.card_cons, told.items]
        rfl

theorem IsToldBy.add (told : IsToldBy draft.city entries) (lined : '\n' ∉ record.text)
    {part : Part} (added : draft.add part record.line record.text = .ok next) :
    IsToldBy next.city (entries ++ [(part, record)]) := by
  have grows := Draft.grows_add lined added
  unfold Draft.add at added
  split at added
  · cases added
  · rename_i fields read
    cases part with
    | places => exact told.place read added
    | streets => exact told.street read added
    | items => exact told.item grows

/-- A draft that some records have told becomes a city that these and the rest of them tell. -/
theorem IsToldBy.readFrom {count : Nat} {position : Position} {records : List Record}
    {loaded : Loaded} (told : IsToldBy draft.city entries)
    (lined : ∀ record ∈ records, '\n' ∉ record.text)
    (ran : readFrom count position draft records = .ok loaded) :
    IsToldBy loaded.city (entries ++ entriesFrom position records) := by
  induction records generalizing position draft entries with
  | nil =>
      rw [Atlas.readFrom] at ran
      cases ran
  | cons record rest ih =>
      have restLined := fun other member => lined other (List.mem_cons_of_mem record member)
      cases position with
      | start =>
          rw [Atlas.readFrom] at ran
          split at ran
          · exact ih told restLined ran
          · cases ran
      | outside =>
          rw [Atlas.readFrom] at ran
          rw [entriesFrom]
          cases begun : Part.begunBy? record.text with
          | some part =>
              rw [begun] at ran
              exact ih told restLined ran
          | none =>
              rw [begun] at ran
              dsimp only at ran ⊢
              rw [List.append_nil]
              split at ran
              · split at ran
                · cases ran
                · cases ran
                  exact told
              · cases ran
      | inside part =>
          rw [Atlas.readFrom] at ran
          rw [entriesFrom]
          split at ran
          · rename_i closed
            rw [if_pos closed]
            exact ih told restLined ran
          · rename_i goesOn
            rw [if_neg goesOn]
            split at ran
            · cases ran
            · rename_i added
              have longer := ih (told.add (lined record List.mem_cons_self) added) restLined ran
              rw [List.append_assoc] at longer
              exact longer

/-- A city from a map is what the records of the map tell. -/
theorem isToldBy_of_read {map : String} {city : City} (ran : read map = .ok city) :
    IsToldBy city (census map) := by
  rcases read_eq_ok_iff.mp ran with ⟨loaded, alsoRan, rfl⟩
  refine isToldBy_empty.readFrom ?_ alsoRan
  apply not_mem_text_of_mem_recordsFrom
  exact fun line member => Text.not_mem_of_mem_lines member

/-! ## Well-formed cities -/

end Rover.Atlas

namespace Rover

/-- A kind of item that a map gives: garbage from a map has a single use. -/
inductive ItemKind.IsGiven : ItemKind → Prop
  | fuel (power times : Quantity) : IsGiven (.fuel power times)
  | garbage (material : Quantity) : IsGiven (.garbage material .one)
  | codeCard (code : String) : IsGiven (.codeCard code)

/-- What everything relies on that works on a city. -/
structure City.IsWellFormed (city : City) : Prop where
  inhabited : city.places ≠ []
  /-- Streets lead from places to places, in a direction of the compass. -/
  streets : ∀ street ∈ city.streets, street.source < city.places.length ∧
    street.target < city.places.length ∧ street.direction ∈ Direction.cardinals
  /-- A door that has a code is shut. -/
  doors : ∀ street ∈ city.streets, street.isOpen = true → street.code = ""
  kinds : ∀ place ∈ city.places, ∀ item ∈ place.items.items, item.kind.IsGiven
  /-- Every item lies under its own identifier in small letters. -/
  keys : ∀ place ∈ city.places, ∀ entry ∈ place.items.entries,
    entry.1 = Text.lowercase entry.2.id

theorem ItemKind.IsWritable.isGiven {kind : ItemKind} (writable : kind.IsWritable) :
    kind.IsGiven := by
  cases kind with
  | fuel power times => exact .fuel power times
  | garbage material times =>
      cases writable
      exact .garbage material
  | codeCard code => exact .codeCard code
  | generic => cases writable

theorem Direction.mem_cardinals {direction : Direction} (known : direction ≠ .unknown) :
    direction ∈ cardinals := by
  cases direction with
  | unknown => exact absurd rfl known
  | _ => decide

theorem City.IsWritable.isWellFormed {city : City} (writable : city.IsWritable) :
    city.IsWellFormed where
  inhabited := writable.nonempty
  streets := fun street member =>
    have told := writable.streets street member
    ⟨told.source, told.target, Direction.mem_cardinals told.direction⟩
  doors := fun street member => (writable.streets street member).door
  kinds := by
    intro place member item inside
    rcases List.mem_map.mp inside with ⟨entry, within, rfl⟩
    exact (writable.items place member entry within).1.kind.isGiven
  keys := fun place member entry within => (writable.items place member entry within).2

theorem Atlas.isWellFormed_of_read {map : String} {city : City} (ran : read map = .ok city) :
    city.IsWellFormed :=
  (isWritable_of_read ran).isWellFormed

end Rover
