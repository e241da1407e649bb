import Mathlib.Data.List.Basic
import Rover.Proofs.Draft

/-!
# Records that are written

The record of a place, a street or an item, written under the number that is
next in its section, is read as what it tells of.  As a line it is split into
the same fields, has nothing to trim and does not end its section.
-/

namespace Rover.Atlas

/-! ## Fields of records -/

namespace Field

/-- A word in which one sees neither quotes nor blanks. -/
theorem isWritable_word {text : String} (some : text.toList ≠ [])
    (solid : (text.toList.all fun character =>
      character != '"' && !Text.isBlank character) = true) : (word text).IsWritable := by
  apply IsWritable.word some
  intro character member
  have both := List.all_eq_true.mp solid character member
  rw [Bool.and_eq_true, bne_iff_ne, Bool.not_eq_true'] at both
  exact both

theorem isWritable_quotation {text : String} (quotable : IsQuotable text) :
    (quotation text).IsWritable :=
  .quotation quotable.1 quotable.2

theorem solid_of_isDigit {character : Char} (digit : character.isDigit = true) :
    character ≠ '"' ∧ Text.isBlank character = false := by
  have within : 48 ≤ character.toNat ∧ character.toNat ≤ 57 := Char.isDigit_iff_toNat.mp digit
  constructor
  · rintro rfl
    cases digit
  · simp only [Text.isBlank, Bool.or_eq_false_iff, Bool.and_eq_false_iff, beq_eq_false_iff_ne,
      decide_eq_false_iff_not]
    omega

theorem isWritable_number (value : Nat) : (number value).IsWritable := by
  rw [number, word, Text.toList_toString]
  apply IsWritable.word Nat.toDigits_ne_nil
  exact fun character member => solid_of_isDigit (Text.isDigit_of_mem_toDigits member)

theorem isWritable_amount (quantity : Quantity) : (amount quantity).IsWritable := by
  rw [amount, word, Quantity.text, Int.toString_eq_repr, Int.repr_eq_if]
  split
  · have written := isWritable_number quantity.value.toNat
    rw [number, word, Nat.toString_eq_repr] at written
    exact written
  · rw [String.toList_append, Nat.toList_repr]
    apply IsWritable.word (List.cons_ne_nil '-' _)
    intro character member
    rcases List.mem_cons.mp member with rfl | digit
    · decide
    · exact solid_of_isDigit (Text.isDigit_of_mem_toDigits digit)

@[simp]
theorem is_word_self (keyword : String) : (word keyword).is keyword = true :=
  beq_self_eq_true _

@[simp]
theorem content_quotation (text : String) : (quotation text).content = text :=
  String.ofList_toList

@[simp]
theorem description_quotation (text : String) : (quotation text).description = text :=
  String.ofList_toList

end Field

namespace Draft

variable {draft : Draft} {line : Nat}

theorem index_number {subject : Subject} {value : Nat} (fits : value < UInt64.size) :
    index line subject (.number value) = .ok value := by
  rw [index, Field.number, Field.word, Text.index?_toString fits]

theorem quantity_amount {subject : Subject} (figure : Quantity) :
    quantity line subject (.amount figure) = .ok figure := by
  rw [quantity, Field.amount, Field.word, Quantity.text, Text.whole?_toString, Option.bind_some,
    Quantity.ofInt?_value]

theorem inSequence_number {subject : Subject} {value : Nat} (fits : value < UInt64.size) :
    inSequence line subject (.number value) value = .ok () := by
  rw [inSequence, index_number fits]
  exact if_pos rfl

theorem placeNumber_number {place : PlaceId} (inside : place < draft.city.places.length)
    (fits : draft.city.places.length ≤ UInt64.size) :
    draft.placeNumber line (.number place) = .ok place := by
  have known : draft.numbers[place]? = some place := by
    rw [numbers_getElem?, if_pos inside]
  simp only [placeNumber, index_number (Nat.lt_of_lt_of_le inside fits), bind, Except.bind, known]
  rfl

theorem place_placeRecord (place : Place) (fits : draft.city.places.length < UInt64.size) :
    draft.place line (placeRecord place draft.city.places.length) =
      .ok (draft.addPlace { place with items := .empty }) := by
  rcases place with ⟨name, description, isSpaceship, items⟩
  have otherWord : (Field.word "noSpaceShip").is "spaceShip" = false := by decide
  cases isSpaceship with
  | false =>
      simp [placeRecord, Draft.place, otherWord, inSequence_number fits, bind, Except.bind, pure,
        Except.pure]
  | true =>
      simp [placeRecord, Draft.place, inSequence_number fits, bind, Except.bind, pure, Except.pure]

theorem street_streetRecord {street : Street}
    (writable : street.IsWritable draft.city.places.length)
    (placesFit : draft.city.places.length ≤ UInt64.size)
    (fits : draft.city.streets.length < UInt64.size) :
    draft.street line (streetRecord street draft.city.streets.length) =
      .ok (draft.addStreet street) := by
  rcases street with ⟨source, direction, target, isOpen, code⟩
  rcases writable with ⟨inSource, inTarget, known, -, uncoded⟩
  have sourceRead : draft.placeNumber line (.number source) = .ok source :=
    placeNumber_number inSource placesFit
  have targetRead : draft.placeNumber line (.number target) = .ok target :=
    placeNumber_number inTarget placesFit
  have parsed : Direction.parse (Field.word direction.name).text = direction := by
    cases direction with
    | unknown => exact absurd rfl known
    | _ => decide
  cases isOpen with
  | false =>
      simp [streetRecord, doorFields, Draft.street, StreetRecord.ofFields?,
        StreetRecord.doorAndCode?, inSequence_number fits, sourceRead, targetRead, parsed, bind,
        Except.bind, pure, Except.pure]
  | true =>
      cases uncoded rfl
      simp [streetRecord, doorFields, Draft.street, StreetRecord.ofFields?,
        StreetRecord.doorAndCode?, inSequence_number fits, sourceRead, targetRead, parsed, bind,
        Except.bind, pure, Except.pure]

theorem layItem_number {place : PlaceId} {item : Item}
    (inside : place < draft.city.places.length)
    (placesFit : draft.city.places.length ≤ UInt64.size)
    (free : ∀ found, draft.city.place? place = some found →
      found.items.contains item.id = false) :
    draft.layItem line item (.word "place") (.number place) = .ok (draft.addItem place item) := by
  have placeRead : draft.placeNumber line (.number place) = .ok place :=
    placeNumber_number inside placesFit
  have present : draft.city.place? place = some draft.city.places[place] :=
    List.getElem?_eq_getElem inside
  simp [layItem, placeRead, present, free _ present, bind, Except.bind, pure, Except.pure]

theorem item_itemRecord {place : PlaceId} {item : Item} (writable : item.IsWritable)
    (fits : draft.itemCount < UInt64.size) (inside : place < draft.city.places.length)
    (placesFit : draft.city.places.length ≤ UInt64.size)
    (free : ∀ found, draft.city.place? place = some found →
      found.items.contains item.id = false) :
    draft.item line (itemRecord place item draft.itemCount) = .ok (draft.addItem place item) := by
  rcases item with ⟨id, description, kind⟩
  have laid := fun line => @layItem_number draft line place ⟨id, description, kind⟩ inside
    placesFit free
  cases kind with
  | fuel power times =>
      simp [itemRecord, useFields?, Draft.item, inSequence_number fits, quantity_amount, laid, bind,
        Except.bind]
  | garbage material times =>
      cases writable.kind
      simp [itemRecord, useFields?, Draft.item, inSequence_number fits, quantity_amount, laid, bind,
        Except.bind]
  | codeCard code =>
      have otherWord : (Field.word "codecard").is "garbage" = false := by decide
      simp [itemRecord, useFields?, Draft.item, otherWord, inSequence_number fits, laid, bind,
        Except.bind]
  | generic => cases writable.kind

end Draft

/-! ## Records as lines -/

/-- A record that can be written on a line of a section without ending it. -/
structure IsRecordOf (part : Part) (fields : List Field) : Prop where
  writable : ∀ field ∈ fields, field.IsWritable
  isTrim : Text.IsTrim (Field.line fields)
  goesOn : Text.isKeyword part.closer (Field.line fields) = false

/-- No line that begins with another letter than `E` ends a section. -/
theorem isKeyword_closer {part : Part} {line : List Char}
    (other : (line.map Char.toLower).head? ≠ some 'e') :
    Text.isKeyword part.closer line = false := by
  have begins : (part.closer.toList.map Char.toLower).head? = some 'e' := by
    cases part <;> decide
  rw [Text.isKeyword, Text.sameFolded, beq_eq_false_iff_ne]
  intro same
  rw [same] at begins
  exact other begins

theorem exists_line_cons (first : Field) (rest : List Field) :
    ∃ others, Field.line (first :: rest) = first.written ++ others := by
  cases rest with
  | nil => exact ⟨[], by rw [Field.line_singleton, List.append_nil]⟩
  | cons second rest => exact ⟨_, by rw [Field.line_cons_cons, List.append_assoc]⟩

theorem isRecordOf_of_word {part : Part} {text : String} {fields : List Field}
    (begins : fields.head? = some (.word text))
    (other : ∃ letter letters, text.toList = letter :: letters ∧ letter.toLower ≠ 'e')
    (writable : ∀ field ∈ fields, field.IsWritable) : IsRecordOf part fields := by
  cases fields with
  | nil => cases begins
  | cons first rest =>
      cases begins
      refine ⟨writable, Field.isTrim_line (List.cons_ne_nil _ _) writable, isKeyword_closer ?_⟩
      rcases other with ⟨letter, letters, spelled, different⟩
      rcases exists_line_cons (.word text) rest with ⟨others, written⟩
      have begun : Field.line (.word text :: rest) = letter :: (letters ++ others) := by
        rw [written, ← List.cons_append, ← spelled]
        rfl
      rw [begun, List.map_cons, List.head?_cons]
      exact fun same => different (Option.some.inj same)

theorem isRecordOf_placeRecord {place : Place} (writable : place.IsWritable) (number : Nat) :
    IsRecordOf .places (placeRecord place number) := by
  have ship : (Field.word (if place.isSpaceship then "spaceShip" else "noSpaceShip")).IsWritable := by
    split <;> exact Field.isWritable_word (by decide) (by decide)
  refine isRecordOf_of_word rfl ⟨_, _, rfl, by decide⟩ ?_
  simp only [placeRecord, List.forall_mem_cons]
  exact ⟨Field.isWritable_word (by decide) (by decide), Field.isWritable_number number,
    Field.isWritable_quotation writable.name, Field.isWritable_quotation writable.description,
    ship, nofun⟩

theorem isRecordOf_streetRecord {street : Street} {places : Nat}
    (writable : street.IsWritable places) (number : Nat) :
    IsRecordOf .streets (streetRecord street number) := by
  have direction : (Field.word street.direction.name).IsWritable := by
    cases street.direction <;> exact Field.isWritable_word (by decide) (by decide)
  have door : ∀ field ∈ doorFields street, field.IsWritable := by
    rw [doorFields]
    split
    · rw [List.forall_mem_singleton]
      exact Field.isWritable_word (by decide) (by decide)
    · simp only [List.forall_mem_cons]
      exact ⟨Field.isWritable_word (by decide) (by decide), Field.isWritable_quotation writable.code, nofun⟩
  refine isRecordOf_of_word rfl ⟨_, _, rfl, by decide⟩ ?_
  rw [streetRecord, List.forall_mem_append]
  simp only [List.forall_mem_cons]
  exact ⟨⟨Field.isWritable_word (by decide) (by decide), Field.isWritable_number number,
    Field.isWritable_word (by decide) (by decide), Field.isWritable_number _, direction,
    Field.isWritable_word (by decide) (by decide), Field.isWritable_number _, nofun⟩, door⟩

/-- The fields that tell of the use of an item can be written. -/
theorem exists_useFields? {kind : ItemKind} (writable : kind.IsWritable) :
    ∃ word figures, useFields? kind = some (word, figures) ∧ (Field.word word).IsWritable ∧
      (∃ letter letters, word.toList = letter :: letters ∧ letter.toLower ≠ 'e') ∧
        ∀ figure ∈ figures, figure.IsWritable := by
  cases kind with
  | fuel power times =>
      refine ⟨_, _, rfl, Field.isWritable_word (by decide) (by decide), ⟨_, _, rfl, by decide⟩, ?_⟩
      simp only [List.forall_mem_cons]
      exact ⟨Field.isWritable_amount power, Field.isWritable_amount times, nofun⟩
  | garbage material times =>
      refine ⟨_, _, rfl, Field.isWritable_word (by decide) (by decide), ⟨_, _, rfl, by decide⟩, ?_⟩
      rw [List.forall_mem_singleton]
      exact Field.isWritable_amount material
  | codeCard code =>
      refine ⟨_, _, rfl, Field.isWritable_word (by decide) (by decide), ⟨_, _, rfl, by decide⟩, ?_⟩
      rw [List.forall_mem_singleton]
      exact Field.isWritable_quotation writable
  | generic => cases writable

theorem isRecordOf_itemRecord {item : Item} (writable : item.IsWritable) (place : PlaceId)
    (number : Nat) : IsRecordOf .items (itemRecord place item number) := by
  rcases exists_useFields? writable.kind with ⟨word, figures, told, wordWritable, other, each⟩
  rw [itemRecord, told]
  refine isRecordOf_of_word rfl other ?_
  simp only [List.forall_mem_append, List.forall_mem_cons]
  exact ⟨⟨⟨wordWritable, Field.isWritable_number number, Field.isWritable_quotation writable.id,
    Field.isWritable_quotation writable.description, nofun⟩, each⟩,
    Field.isWritable_word (by decide) (by decide), Field.isWritable_number place, nofun⟩

end Rover.Atlas
