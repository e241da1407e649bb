import Mathlib.Data.List.Basic
import Rover.Atlas.Printer
import Rover.Proofs.Words

/-!
# Fields written and read

A line that writes some fields, with any blanks between one and the next, is
split into the same fields.  For that a word must have characters, none of them
a blank or a quote, and a quoted text may have any characters but quotes.  In
the other direction, no field that a line is split into has a quote, or a
character that the line has not.
-/

namespace Rover.Atlas

namespace Field

/-- A field that a line can hold. -/
inductive IsProper : Field → Prop
  | word {text : List Char} (nonempty : text ≠ [])
      (solid : ∀ character ∈ text, character ≠ '"' ∧ Text.isBlank character = false) :
      IsProper ⟨text, false⟩
  | quotation {text : List Char} (closed : '"' ∉ text) : IsProper ⟨text, true⟩

/-- A field that a line of a map can write. -/
inductive IsWritable : Field → Prop
  | word {text : List Char} (nonempty : text ≠ [])
      (solid : ∀ character ∈ text, character ≠ '"' ∧ Text.isBlank character = false) :
      IsWritable ⟨text, false⟩
  | quotation {text : List Char} (closed : '"' ∉ text) (lined : '\n' ∉ text) :
      IsWritable ⟨text, true⟩

theorem IsWritable.isProper {field : Field} (writable : field.IsWritable) : field.IsProper := by
  cases writable with
  | word nonempty solid => exact .word nonempty solid
  | quotation closed lined => exact .quotation closed

/-- A line writes some fields in order, with blanks, at least one, between one and the next. -/
inductive WritesApart : List Char → List Field → Prop
  | nothing : WritesApart [] []
  | last (field : Field) : WritesApart field.written [field]
  | more {field next : Field} {gap rest : List Char} {fields : List Field} (some : gap ≠ [])
      (blank : Text.IsGap gap) (further : WritesApart rest (next :: fields)) :
      WritesApart (field.written ++ (gap ++ rest)) (field :: next :: fields)

/-! ## Reading what is written -/

theorem splitFrom_quotation {text : List Char} (closed : '"' ∉ text) (reversed rest : List Char) :
    splitFrom (.quotation reversed) (text ++ '"' :: rest) =
      (splitFrom .nothing rest).map (⟨reversed.reverse ++ text, true⟩ :: ·) := by
  induction text generalizing reversed with
  | nil => rw [List.nil_append, splitFrom, if_pos rfl, List.append_nil]
  | cons character text ih =>
      rcases not_or.mp (mt List.mem_cons.mpr closed) with ⟨different, later⟩
      rw [List.cons_append, splitFrom, if_neg (Ne.symm different), ih later, List.reverse_cons,
        List.append_assoc, List.singleton_append]

/-- Nothing follows, or a blank does. -/
def IsApart (rest : List Char) : Prop :=
  ∀ character ∈ rest.head?, Text.isBlank character = true

theorem splitFrom_word_of_isApart {rest : List Char} (apart : IsApart rest)
    (reversed : List Char) :
    splitFrom (.word reversed) rest =
      (splitFrom .nothing rest).map (⟨reversed.reverse, false⟩ :: ·) := by
  cases rest with
  | nil => rfl
  | cons character rest =>
      have blank : Text.isBlank character = true := apart character rfl
      have unquoted : character ≠ '"' := by
        rintro rfl
        cases blank
      rw [splitFrom, if_neg unquoted, if_pos blank, splitFrom, if_neg unquoted, if_pos blank]

theorem splitFrom_word {text rest : List Char}
    (solid : ∀ character ∈ text, character ≠ '"' ∧ Text.isBlank character = false)
    (apart : IsApart rest) (reversed : List Char) :
    splitFrom (.word reversed) (text ++ rest) =
      (splitFrom .nothing rest).map (⟨reversed.reverse ++ text, false⟩ :: ·) := by
  induction text generalizing reversed with
  | nil => rw [List.nil_append, splitFrom_word_of_isApart apart, List.append_nil]
  | cons character text ih =>
      have ⟨unquoted, inside⟩ := solid character List.mem_cons_self
      rw [List.cons_append, splitFrom, if_neg unquoted, if_neg (Bool.eq_false_iff.mp inside),
        ih fun other member => solid other (List.mem_cons_of_mem character member),
        List.reverse_cons, List.append_assoc, List.singleton_append]

/-- A field that is written is read as it was, and nothing else is. -/
theorem splitFrom_written {field : Field} (proper : field.IsProper) {rest : List Char}
    (apart : IsApart rest) :
    splitFrom .nothing (field.written ++ rest) =
      (splitFrom .nothing rest).map (field :: ·) := by
  cases proper with
  | @word text nonempty solid =>
      cases text with
      | nil => exact absurd rfl nonempty
      | cons character text =>
          have ⟨unquoted, inside⟩ := solid character List.mem_cons_self
          show splitFrom .nothing (character :: (text ++ rest)) = _
          rw [splitFrom, if_neg unquoted, if_neg (Bool.eq_false_iff.mp inside),
            splitFrom_word (fun other member => solid other (List.mem_cons_of_mem character member))
              apart]
          rfl
  | @quotation text closed =>
      show splitFrom .nothing ('"' :: (text ++ ['"'] ++ rest)) = _
      rw [splitFrom, if_pos rfl, List.append_assoc, List.singleton_append,
        splitFrom_quotation closed]
      rfl

theorem ne_quote_of_isBlank {character : Char} (blank : Text.isBlank character = true) :
    character ≠ '"' := by
  rintro rfl
  cases blank

theorem splitFrom_nothing_gap {gap : List Char} (blank : Text.IsGap gap) (rest : List Char) :
    splitFrom .nothing (gap ++ rest) = splitFrom .nothing rest := by
  induction gap with
  | nil => rfl
  | cons character gap ih =>
      have ⟨first, others⟩ := List.forall_mem_cons.mp blank
      rw [List.cons_append, splitFrom, if_neg (ne_quote_of_isBlank first), if_pos first, ih others]

theorem isApart_gap_append {gap : List Char} (blank : Text.IsGap gap) (some : gap ≠ [])
    (rest : List Char) : IsApart (gap ++ rest) := by
  rcases List.exists_cons_of_ne_nil some with ⟨first, others, rfl⟩
  rintro _ ⟨⟩
  exact blank first List.mem_cons_self

/-- A line that writes some fields, with blanks between them, is split into them. -/
theorem WritesApart.split_eq {line : List Char} {fields : List Field}
    (writes : WritesApart line fields) (proper : ∀ field ∈ fields, field.IsProper) :
    split line = some fields := by
  induction writes with
  | nothing => rfl
  | last field =>
      have nothing : IsApart [] := nofun
      have read := splitFrom_written (proper field List.mem_cons_self) nothing
      rw [List.append_nil] at read
      rw [split, read]
      rfl
  | @more field next gap rest fields some blank further ih =>
      have ⟨firstProper, othersProper⟩ := List.forall_mem_cons.mp proper
      have read := ih othersProper
      rw [split] at read
      rw [split, splitFrom_written firstProper (isApart_gap_append blank some rest),
        splitFrom_nothing_gap blank, read]
      rfl

theorem line_cons_cons (first second : Field) (rest : List Field) :
    line (first :: second :: rest) = first.written ++ [' '] ++ line (second :: rest) := by
  rw [line, List.map_cons, List.map_cons, List.intercalate_cons_cons]
  rfl

theorem line_singleton (field : Field) : line [field] = field.written :=
  List.intercalate_singleton

theorem writesApart_line (fields : List Field) : WritesApart (line fields) fields := by
  induction fields with
  | nil => exact .nothing
  | cons first rest ih =>
      cases rest with
      | nil =>
          rw [line_singleton]
          exact .last first
      | cons second rest =>
          rw [line_cons_cons, List.append_assoc]
          exact .more (List.cons_ne_nil ' ' []) (by decide) ih

/-- A line that writes some fields is split into them. -/
theorem split_line {fields : List Field} (writable : ∀ field ∈ fields, field.IsWritable) :
    split (line fields) = some fields :=
  (writesApart_line fields).split_eq fun field member => (writable field member).isProper

/-- A field that can be written begins and ends with other characters than blanks. -/
theorem IsWritable.isTrim {field : Field} (writable : field.IsWritable) :
    Text.IsTrim field.written := by
  cases writable with
  | @word text nonempty solid =>
      constructor
      · rcases List.exists_cons_of_ne_nil nonempty with ⟨character, rest, rfl⟩
        exact ⟨character, rest, rfl, (solid character List.mem_cons_self).2⟩
      · have last := List.getLast_mem nonempty
        exact ⟨text.getLast nonempty, text.dropLast, (List.dropLast_append_getLast nonempty).symm,
          (solid _ last).2⟩
  | @quotation text closed lined =>
      constructor
      · exact ⟨'"', text ++ ['"'], rfl, rfl⟩
      · exact ⟨'"', '"' :: text, rfl, rfl⟩

theorem IsWritable.not_mem_written {field : Field} (writable : field.IsWritable) :
    '\n' ∉ field.written := by
  cases writable with
  | @word text nonempty solid =>
      intro member
      cases (solid '\n' member).2
  | @quotation text closed lined =>
      show '\n' ∉ '"' :: (text ++ ['"'])
      simp [lined]

theorem isTrim_line {fields : List Field} (some : fields ≠ [])
    (writable : ∀ field ∈ fields, field.IsWritable) : Text.IsTrim (line fields) := by
  induction fields with
  | nil => exact absurd rfl some
  | cons first rest ih =>
      have begun := (writable first List.mem_cons_self).isTrim
      cases rest with
      | nil =>
          rw [line_singleton]
          exact begun
      | cons second rest =>
          rw [line_cons_cons]
          apply begun.append
          exact ih (List.cons_ne_nil second rest) fun field member =>
            writable field (List.mem_cons_of_mem first member)

theorem not_mem_line {fields : List Field} (writable : ∀ field ∈ fields, field.IsWritable) :
    '\n' ∉ line fields := by
  induction fields with
  | nil => exact nofun
  | cons first rest ih =>
      have inFirst := (writable first List.mem_cons_self).not_mem_written
      cases rest with
      | nil =>
          rw [line_singleton]
          exact inFirst
      | cons second rest =>
          have inRest := ih fun field member => writable field (List.mem_cons_of_mem first member)
          rw [line_cons_cons]
          simp [inFirst, inRest]

/-! ## What is read -/

/-- The characters of the field that is being read. -/
def Reading.soFar : Reading → List Char
  | .nothing => []
  | .word reversed => reversed
  | .quotation reversed => reversed

theorem forall_of_map_cons {property : Field → Prop} {first : Field}
    {others? : Option (List Field)} {fields : List Field}
    (read : others?.map (first :: ·) = some fields) (holds : property first)
    (onward : ∀ others, others? = some others → ∀ field ∈ others, property field) :
    ∀ field ∈ fields, property field := by
  rcases Option.map_eq_some_iff.mp read with ⟨others, later, rfl⟩
  intro field member
  rcases List.mem_cons.mp member with rfl | inOthers
  · exact holds
  · exact onward others later field inOthers

/-- What holds of the characters of a line that are no quotes holds of those of its fields. -/
theorem forall_of_splitFrom {property : Char → Prop} {reading : Reading} {rest : List Char}
    {fields : List Field} (read : splitFrom reading rest = some fields)
    (soFar : ∀ character ∈ reading.soFar, property character)
    (onward : ∀ character ∈ rest, character ≠ '"' → property character) :
    ∀ field ∈ fields, ∀ character ∈ field.text, property character := by
  have reversed : ∀ {row : List Char}, (∀ character ∈ row, property character) →
      ∀ character ∈ row.reverse, property character :=
    fun holds character member => holds character (List.mem_reverse.mp member)
  have nothing : ∀ character ∈ Reading.nothing.soFar, property character := nofun
  -- Along the characters to come.  What is carried is that the property holds of the
  -- field that is being read, and a quote only opens or closes a field.
  induction rest generalizing reading fields with
  | nil =>
      cases reading with
      | nothing =>
          cases read
          exact nofun
      | word row =>
          cases read
          intro field member
          rw [List.mem_singleton.mp member]
          exact reversed soFar
      | quotation row => cases read
  | cons character rest ih =>
      have later := fun other member => onward other (List.mem_cons_of_mem character member)
      have grown : ∀ {row : List Char}, character ≠ '"' →
          (∀ other ∈ row, property other) → ∀ other ∈ character :: row, property other :=
        fun unquoted holds => List.forall_mem_cons.mpr
          ⟨onward character List.mem_cons_self unquoted, holds⟩
      rw [splitFrom.eq_def] at read
      cases reading with
      | nothing =>
          dsimp only at read
          split at read
          · exact ih read nothing later
          · rename_i unquoted
            split at read
            · exact ih read nothing later
            · exact ih read (grown unquoted nothing) later
      | word row =>
          dsimp only at read
          split at read
          · exact forall_of_map_cons read (reversed soFar) fun others read => ih read nothing later
          · rename_i unquoted
            split at read
            · exact forall_of_map_cons read (reversed soFar) fun others read =>
                ih read nothing later
            · exact ih read (grown unquoted soFar) later
      | quotation row =>
          dsimp only at read
          split at read
          · exact forall_of_map_cons read (reversed soFar) fun others read => ih read nothing later
          · rename_i unquoted
            exact ih read (grown unquoted soFar) later

/-- A field of a line has no quote, and no line feed if the line has none. -/
theorem isQuotable_content {line : List Char} {fields : List Field} (lined : '\n' ∉ line)
    (read : split line = some fields) : ∀ field ∈ fields, IsQuotable field.content := by
  have holds : ∀ field ∈ fields, ∀ character ∈ field.text,
      character ∈ line ∧ character ≠ '"' := by
    refine forall_of_splitFrom read nofun ?_
    exact fun character inside unquoted => ⟨inside, unquoted⟩
  intro field member
  rw [content, IsQuotable, String.toList_ofList]
  constructor
  · intro inside
    exact (holds field member '"' inside).2 rfl
  · intro inside
    exact lined (holds field member '\n' inside).1

theorem isQuotable_description {field : Field} (quotable : IsQuotable field.content) :
    IsQuotable field.description := by
  rw [description]
  split
  · exact quotable
  · rw [content, IsQuotable, String.toList_ofList] at quotable
    rw [IsQuotable, String.toList_ofList, List.mem_map, List.mem_map]
    constructor
    · rintro ⟨character, member, same⟩
      split at same
      · cases same
      · exact quotable.1 (same ▸ member)
    · rintro ⟨character, member, same⟩
      split at same
      · cases same
      · exact quotable.2 (same ▸ member)

end Field

end Rover.Atlas
