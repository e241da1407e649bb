import Mathlib.Data.List.Forall2
import Mathlib.Logic.Relation
import Rover.Atlas.Reader
import Rover.Proofs.Grammar
import Rover.Proofs.Splitting

/-!
# Edits of the layout of a map

What does not matter in a map: blank lines, the blanks around a line, how its
fields are kept apart, and the case of its keywords.  An edit changes one such
thing at one place, and a map that has been laid out anew has gone through any
number of edits, made or taken back.

The rows of a map are its lines that are not blank.  An edit keeps each of them
but for layout: a row is still the marker that it was, and has the same fields
wherever it does not take a keyword.
-/

namespace Rover

/-! ## Letters -/

namespace Text

theorem toLower_cases (character : Char) :
    character.toLower = character ∨
      65 ≤ character.toNat ∧ character.toNat ≤ 90 ∧
        character.toLower.toNat = character.toNat + 32 := by
  unfold Char.toLower
  split
  · rename_i capital
    have least : 65 ≤ character.toNat := UInt32.le_iff_toNat_le.mp capital.1
    have most : character.toNat ≤ 90 := UInt32.le_iff_toNat_le.mp capital.2
    refine .inr ⟨least, most, ?_⟩
    show (character.val + 32).toNat = _
    rw [UInt32.toNat_add]
    show (character.toNat + 32) % 2 ^ 32 = _
    omega
  · exact .inl rfl

theorem isBlank_toLower (character : Char) :
    isBlank character.toLower = isBlank character := by
  rcases toLower_cases character with same | ⟨least, most, lower⟩
  · rw [same]
  · have solid : ∀ other : Char, 65 ≤ other.toNat → other.toNat ≤ 122 → isBlank other = false := by
      intro other least most
      simp only [isBlank, Bool.or_eq_false_iff, Bool.and_eq_false_iff, decide_eq_false_iff_not,
        beq_eq_false_iff_ne]
      omega
    rw [solid character least (by omega), solid character.toLower (by omega) (by omega)]

theorem toLower_eq_quote_iff (character : Char) :
    character.toLower = '"' ↔ character = '"' := by
  rcases toLower_cases character with same | ⟨least, most, lower⟩
  · rw [same]
  · have quote : '"'.toNat = 34 := rfl
    constructor
    · intro same
      rw [same] at lower
      omega
    · rintro rfl
      omega

theorem trim_map_toLower (text : List Char) :
    trim (text.map Char.toLower) = (trim text).map Char.toLower := by
  have blank : isBlank ∘ Char.toLower = isBlank := funext isBlank_toLower
  simp only [trim, List.dropWhile_map, ← List.map_reverse, blank]

end Text

namespace AlikeButCase

variable {text other : List Char} (alike : AlikeButCase text other)

include alike

theorem trim : AlikeButCase (Text.trim text) (Text.trim other) := by
  unfold AlikeButCase
  rw [← Text.trim_map_toLower, ← Text.trim_map_toLower, alike]

theorem eq_nil_iff : text = [] ↔ other = [] := by
  have same := congrArg List.length alike
  rw [List.length_map, List.length_map] at same
  rw [← List.length_eq_zero_iff, ← List.length_eq_zero_iff, same]

theorem isKeyword_eq (keyword : String) :
    Text.isKeyword keyword text = Text.isKeyword keyword other := by
  unfold Text.isKeyword Text.sameFolded
  rw [alike]

theorem parse_eq : Direction.parse text = Direction.parse other := by
  unfold Direction.parse
  simp only [alike.trim.isKeyword_eq]

end AlikeButCase

namespace Atlas

/-! ## Edits -/

/-- The words that records begin with, and where the keywords of such a record are. -/
def recordWords : List (String × List Nat) :=
  [("place", [0, 4]), ("street", [0, 2, 4, 5, 7]), ("fuel", [0, 6]), ("garbage", [0, 5]),
    ("codecard", [0, 5])]

/--
The numbers of the fields where a record has its keywords.  With another word in
front it is none of the records, and every field counts that is a keyword in one.
-/
def keywordPlaces (fields : List Field) : List Nat :=
  match fields.head?.bind fun word => recordWords.find? fun row => word.is row.1 with
  | some row => row.2
  | none => [0, 2, 4, 5, 6, 7]

/-- Two rows of fields agree where the first one does not have its keywords. -/
def KeepsContent (fields others : List Field) : Prop :=
  ∀ index, index ∉ keywordPlaces fields → fields[index]? = others[index]?

instance (fields others : List Field) : Decidable (KeepsContent fields others) :=
  decidable_of_iff (∀ index < max fields.length others.length,
    index ∉ keywordPlaces fields → fields[index]? = others[index]?) <| by
    constructor
    · intro within index content
      by_cases inside : index < max fields.length others.length
      · exact within index inside content
      · rw [List.getElem?_eq_none (by omega), List.getElem?_eq_none (by omega)]
    · exact fun kept index _ => kept index

/-- A line is changed at one place in what does not matter. -/
inductive LineEdit : List Char → List Char → Prop
  /-- Blanks are put around the line.  A carriage return is one of them, so this is also how a
  line comes to end in two characters. -/
  | ends {before after : List Char} (line : List Char) (front : Text.IsGap before)
      (back : Text.IsGap after) : LineEdit line (before ++ line ++ after)
  /-- Blanks outside quotes are exchanged for others. -/
  | gap {before gap other : List Char} (after : List Char) (outside : Even (before.count '"'))
      (blank : Text.IsGap gap) (alsoBlank : Text.IsGap other) (some : gap ≠ [])
      (alsoSome : other ≠ []) : LineEdit (before ++ (gap ++ after)) (before ++ (other ++ after))
  /-- Letters change their case where the line has its keywords. -/
  | case {line other : List Char} (alike : AlikeButCase line other)
      (kept : ∀ fields ∈ Field.split line, ∀ others ∈ Field.split other,
        KeepsContent fields others) : LineEdit line other

/-- Nothing stands before the beginning of a line, or another line does. -/
def IsLineStart (before : List Char) : Prop :=
  before = [] ∨ ∃ earlier, before = earlier ++ ['\n']

/-- Nothing follows the end of a line, or a line feed does. -/
def IsLineEnd (after : List Char) : Prop :=
  after = [] ∨ ∃ later, after = '\n' :: later

/-- A map is changed at one place in what does not matter. -/
inductive Edit : List Char → List Char → Prop
  /-- A blank line is put in front of a line, or behind the last line feed. -/
  | blankLine {before gap : List Char} (after : List Char) (starts : IsLineStart before)
      (blank : Text.IsGap gap) (lined : '\n' ∉ gap) :
      Edit (before ++ after) (before ++ (gap ++ '\n' :: after))
  /-- A blank line is put at the end. -/
  | lastLine {gap : List Char} (before : List Char) (blank : Text.IsGap gap) (lined : '\n' ∉ gap) :
      Edit before (before ++ '\n' :: gap)
  /-- A line is edited. -/
  | line {before after line other : List Char} (starts : IsLineStart before)
      (ends : IsLineEnd after) (lined : '\n' ∉ line) (alsoLined : '\n' ∉ other)
      (edit : LineEdit line other) : Edit (before ++ (line ++ after)) (before ++ (other ++ after))

/-- A map is laid out anew by edits, made or taken back. -/
def Relaid : List Char → List Char → Prop :=
  Relation.EqvGen Edit

/-- All the lines of a map can be edited, one after the other. -/
theorem relaid_flatMap {lines others : List (List Char)}
    (edits : List.Forall₂ (fun line other => '\n' ∉ line ∧ '\n' ∉ other ∧ LineEdit line other)
      lines others) {before : List Char} (starts : IsLineStart before) :
    Relaid (before ++ lines.flatMap fun line => line ++ ['\n'])
      (before ++ others.flatMap fun line => line ++ ['\n']) := by
  induction edits generalizing before with
  | nil => exact .refl _
  | @cons line other lines others edit edits ih =>
      rcases edit with ⟨lined, alsoLined, edit⟩
      have first := Edit.line starts
        (.inr ⟨lines.flatMap fun line => line ++ ['\n'], rfl⟩) lined alsoLined edit
      have rest := ih (.inr ⟨before ++ other, rfl⟩)
      simp only [List.append_assoc, List.singleton_append] at rest
      simp only [List.flatMap_cons, List.append_assoc, List.singleton_append]
      exact .trans _ _ _ (.rel _ _ first) rest

/-! ## Rows -/

/-- Two records agree but for the case of their keywords. -/
structure SameRecord (fields others : List Field) : Prop where
  folded : fields.map (Field.mapText Char.toLower) = others.map (Field.mapText Char.toLower)
  kept : KeepsContent fields others

/-- Two rows are the same marker, if they are one, and have the same fields but for keywords. -/
structure SameRow (row other : List Char) : Prop where
  marker : ∀ keyword : String, Text.IsWord keyword.toList →
    Text.isKeyword keyword row = Text.isKeyword keyword other
  fields : Option.Rel SameRecord (Field.split row) (Field.split other)

theorem SameRow.refl (row : List Char) : SameRow row row where
  marker _ _ := rfl
  fields := by
    cases Field.split row with
    | none => exact .none
    | some fields => exact .some ⟨rfl, fun _ _ => rfl⟩

/-- A word is a marker or not whatever blanks surround it. -/
theorem isKeyword_trim_iff {keyword : String} (solid : Text.IsWord keyword.toList)
    {line : List Char} : Text.isKeyword keyword (Text.trim line) = true ↔
      ∃ word, Text.words line = [word] ∧ Text.isKeyword keyword word = true := by
  constructor
  · intro is
    have alike : AlikeButCase keyword.toList (Text.trim line) := isKeyword_iff.mp is
    refine ⟨Text.trim line, Text.words_eq_singleton_iff.mpr ⟨⟨?_, ?_⟩, rfl⟩, is⟩
    · exact mt alike.eq_nil_iff.mpr solid.some
    · intro character inside
      have small : character.toLower ∈ (Text.trim line).map Char.toLower :=
        List.mem_map_of_mem inside
      rw [← alike] at small
      rcases List.mem_map.mp small with ⟨letter, member, same⟩
      rw [← Text.isBlank_toLower, ← same, Text.isBlank_toLower]
      exact solid.solid letter member
  · rintro ⟨word, alone, is⟩
    rwa [(Text.words_eq_singleton_iff.mp alone).2]

theorem sameRow_of_words_eq {line other : List Char} (words : Text.words line = Text.words other)
    (fields : Field.split line = Field.split other) :
    SameRow (Text.trim line) (Text.trim other) where
  marker keyword solid := by
    rw [Bool.eq_iff_iff, isKeyword_trim_iff solid, isKeyword_trim_iff solid, words]
  fields := by
    rw [Field.split_trim, Field.split_trim, fields]
    exact (SameRow.refl other).fields

theorem sameRow_of_alikeButCase {line other : List Char} (alike : AlikeButCase line other)
    (kept : ∀ fields ∈ Field.split line, ∀ others ∈ Field.split other,
      KeepsContent fields others) : SameRow (Text.trim line) (Text.trim other) where
  marker keyword _ := alike.trim.isKeyword_eq keyword
  fields := by
    have folded : (Field.split line).map (List.map (Field.mapText Char.toLower)) =
        (Field.split other).map (List.map (Field.mapText Char.toLower)) := by
      rw [← Field.split_map Text.isBlank_toLower Text.toLower_eq_quote_iff,
        ← Field.split_map Text.isBlank_toLower Text.toLower_eq_quote_iff, alike]
    rw [Field.split_trim, Field.split_trim]
    cases read : Field.split line with
    | none =>
        rw [read] at folded
        rw [Option.map_eq_none_iff.mp folded.symm]
        exact .none
    | some fields =>
        rw [read, Option.map_some] at folded
        rcases Option.map_eq_some_iff.mp folded.symm with ⟨others, readToo, same⟩
        rw [readToo]
        exact .some ⟨same.symm, kept fields read others readToo⟩

/-- An edited line is a row still, if it is one, and the same but for layout. -/
theorem LineEdit.sameRow {line other : List Char} (edit : LineEdit line other) :
    (Text.trim line = [] ↔ Text.trim other = []) ∧
      SameRow (Text.trim line) (Text.trim other) := by
  cases edit with
  | ends line front back =>
      have words := Text.words_gap_append_gap front back line
      rw [← Text.words_eq_nil_iff, ← Text.words_eq_nil_iff, words]
      exact ⟨Iff.rfl, sameRow_of_words_eq words.symm
        (Field.split_gap_append_gap front back line).symm⟩
  | @gap before gap other after outside blank alsoBlank some alsoSome =>
      have words : Text.words (before ++ (gap ++ after)) =
          Text.words (before ++ (other ++ after)) := by
        rw [Text.words_append_gap_append blank some, Text.words_append_gap_append alsoBlank alsoSome]
      rw [← Text.words_eq_nil_iff, ← Text.words_eq_nil_iff, words]
      exact ⟨Iff.rfl, sameRow_of_words_eq words
        (Field.split_gap_congr outside blank alsoBlank some alsoSome after)⟩
  | case alike kept => exact ⟨alike.trim.eq_nil_iff, sameRow_of_alikeButCase alike kept⟩

/-- The lines of a map that are not blank, without the blanks around them. -/
def rows (map : List Char) : List (List Char) :=
  ((Text.pieces (· == '\n') map).map Text.trim).filter fun row => !row.isEmpty

theorem rows_nil : rows [] = [] :=
  rfl

theorem rows_append_lineFeed (before after : List Char) :
    rows (before ++ '\n' :: after) = rows before ++ rows after := by
  have parted : Text.pieces (· == '\n') (before ++ '\n' :: after) =
      Text.pieces (· == '\n') before ++ Text.pieces (· == '\n') after :=
    Text.pieces_append_separator (by rfl) before after
  rw [rows, parted, List.map_append, List.filter_append]
  rfl

theorem rows_of_line {line : List Char} (lined : '\n' ∉ line) :
    rows line = [Text.trim line].filter fun row => !row.isEmpty := by
  have whole : ∀ character ∈ line, (character == '\n') = false := by
    intro character member
    rw [beq_eq_false_iff_ne]
    rintro rfl
    exact lined member
  rw [rows, Text.pieces_of_whole whole]
  rfl

theorem rows_of_isGap {gap : List Char} (blank : Text.IsGap gap) (lined : '\n' ∉ gap) :
    rows gap = [] := by
  rw [rows_of_line lined, Text.trim_of_isGap blank]
  rfl

theorem IsLineStart.rows_append {before : List Char} (starts : IsLineStart before)
    (text : List Char) : rows (before ++ text) = rows before ++ rows text := by
  rcases starts with rfl | ⟨earlier, rfl⟩
  · rfl
  · rw [List.append_assoc, List.singleton_append, rows_append_lineFeed, rows_append_lineFeed,
      rows_nil, List.append_nil]

theorem IsLineEnd.rows_append {after : List Char} (ends : IsLineEnd after)
    (text : List Char) : rows (text ++ after) = rows text ++ rows after := by
  rcases ends with rfl | ⟨later, rfl⟩
  · rw [List.append_nil, rows_nil, List.append_nil]
  · have behind := rows_append_lineFeed [] later
    rw [List.nil_append, rows_nil, List.nil_append] at behind
    rw [rows_append_lineFeed, behind]

/-- An edit keeps every row but for layout. -/
theorem Edit.sameRows {map other : List Char} (edit : Edit map other) :
    List.Forall₂ SameRow (rows map) (rows other) := by
  have same (texts : List (List Char)) : List.Forall₂ SameRow texts texts :=
    List.forall₂_same.mpr fun text _ => .refl text
  cases edit with
  | blankLine after starts blank lined =>
      rw [starts.rows_append, starts.rows_append, rows_append_lineFeed, rows_of_isGap blank lined]
      exact same _
  | lastLine before blank lined =>
      rw [rows_append_lineFeed, rows_of_isGap blank lined, List.append_nil]
      exact same _
  | @line before after line other starts ends lined alsoLined edit =>
      rw [starts.rows_append, starts.rows_append, ends.rows_append, ends.rows_append]
      refine List.rel_append (same _) (List.rel_append ?_ (same _))
      have ⟨nil_iff, row⟩ := edit.sameRow
      rw [rows_of_line lined, rows_of_line alsoLined]
      by_cases blank : Text.trim line = []
      · rw [blank, nil_iff.mp blank]
        exact .nil
      · rw [List.filter_cons_of_pos (by simpa using blank),
          List.filter_cons_of_pos (by simpa using mt nil_iff.mpr blank)]
        exact .cons row .nil

end Atlas

end Rover
