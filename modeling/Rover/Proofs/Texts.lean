import Mathlib.Data.List.Basic
import Rover.Text.Blank
import Rover.Text.Numeral

/-!
# Texts written and read

Lines that are written one after the other, each with a line feed behind it, are
read as they were; so are numbers that are written in decimal.  A text that
begins and ends with other characters than blanks has nothing to trim.
-/

namespace Rover.Text

/-! ## Lines -/

theorem pieces_of_whole {separates : Char → Bool} {text : List Char}
    (whole : ∀ character ∈ text, separates character = false) :
    pieces separates text = [text] := by
  induction text with
  | nil => rfl
  | cons character rest ih =>
      have ⟨first, others⟩ := List.forall_mem_cons.mp whole
      simp [pieces, first, ih others]

/-- A separating character parts the pieces before it from those behind it. -/
theorem pieces_append_separator {separates : Char → Bool} {separator : Char}
    (separate : separates separator = true) (before rest : List Char) :
    pieces separates (before ++ separator :: rest) =
      pieces separates before ++ pieces separates rest := by
  induction before with
  | nil => simp [pieces, separate]
  | cons character before ih =>
      rw [List.cons_append, pieces, pieces, ih]
      split
      · rfl
      · rcases List.exists_cons_of_ne_nil (pieces_ne_nil separates before) with
          ⟨first, others, cut⟩
        rw [cut]
        rfl

theorem pieces_append_cons {separates : Char → Bool} {text rest : List Char} {separator : Char}
    (whole : ∀ character ∈ text, separates character = false)
    (separate : separates separator = true) :
    pieces separates (text ++ separator :: rest) = text :: pieces separates rest := by
  rw [pieces_append_separator separate, pieces_of_whole whole, List.singleton_append]

theorem pieces_flatMap {texts : List (List Char)} (whole : ∀ text ∈ texts, '\n' ∉ text) :
    pieces (· == '\n') (texts.flatMap fun text => text ++ ['\n']) = texts ++ [[]] := by
  induction texts with
  | nil => rfl
  | cons text rest ih =>
      have inside : ∀ character ∈ text, (character == '\n') = false := by
        intro character member
        rw [beq_eq_false_iff_ne]
        rintro rfl
        exact whole text List.mem_cons_self member
      rw [List.flatMap_cons, List.append_assoc, List.singleton_append,
        pieces_append_cons inside (beq_self_eq_true '\n'),
        ih fun other member => whole other (List.mem_cons_of_mem text member), List.cons_append]

/-- Lines that are written one after the other are read as they were. -/
theorem lines_flatMap {texts : List (List Char)} (whole : ∀ text ∈ texts, '\n' ∉ text) :
    lines (texts.flatMap fun text => text ++ ['\n']) = texts := by
  rw [lines, pieces_flatMap whole]
  simp

theorem not_mem_of_mem_lines {text line : List Char} (member : line ∈ lines text) :
    '\n' ∉ line := by
  have piece : line ∈ pieces (· == '\n') text := by
    rw [lines] at member
    split at member
    · exact (List.dropLast_sublist _).mem member
    · exact member
  intro inside
  cases not_separates_of_mem_pieces piece inside

/-! ## Trimming -/

/-- A text that begins and ends with other characters than blanks. -/
structure IsTrim (text : List Char) : Prop where
  first : ∃ character rest, text = character :: rest ∧ isBlank character = false
  last : ∃ character rest, text = rest ++ [character] ∧ isBlank character = false

theorem dropWhile_isBlank {character : Char} {rest : List Char}
    (solid : isBlank character = false) :
    (character :: rest).dropWhile isBlank = character :: rest :=
  List.dropWhile_cons_of_neg (Bool.eq_false_iff.mp solid)

theorem IsTrim.trim_eq {text : List Char} (trimmed : IsTrim text) : trim text = text := by
  have front : text.dropWhile isBlank = text := by
    rcases trimmed.first with ⟨character, rest, rfl, solid⟩
    exact dropWhile_isBlank solid
  have back : text.reverse.dropWhile isBlank = text.reverse := by
    rcases trimmed.last with ⟨character, rest, rfl, solid⟩
    rw [List.reverse_append]
    exact dropWhile_isBlank solid
  rw [trim, front, back, List.reverse_reverse]

theorem IsTrim.ne_nil {text : List Char} (trimmed : IsTrim text) : text ≠ [] := by
  rcases trimmed.first with ⟨character, rest, rfl, -⟩
  exact List.cons_ne_nil character rest

theorem IsTrim.append {first last : List Char} (begun : IsTrim first) (middle : List Char)
    (ended : IsTrim last) : IsTrim (first ++ middle ++ last) := by
  rcases begun.first with ⟨start, rest, rfl, startSolid⟩
  rcases ended.last with ⟨stop, front, rfl, stopSolid⟩
  constructor
  · exact ⟨start, rest ++ middle ++ (front ++ [stop]), rfl, startSolid⟩
  · exact ⟨stop, start :: rest ++ middle ++ front, (List.append_assoc _ _ _).symm, stopSolid⟩

theorem mem_of_mem_trim {text : List Char} {character : Char} (member : character ∈ trim text) :
    character ∈ text := by
  have kept := (List.dropWhile_sublist isBlank).mem (List.mem_reverse.mp member)
  exact (List.dropWhile_sublist isBlank).mem (List.mem_reverse.mp kept)

/-! ## Numerals -/

theorem digitValue?_of_isDigit {character : Char} (digit : character.isDigit = true) :
    digitValue? 10 character = some (character.toNat - '0'.toNat) := by
  have within := Char.isDigit_iff_toNat.mp digit
  have small : (decide ('0' ≤ character) && decide (character ≤ '9')) = true := by
    rw [Bool.and_eq_true, decide_eq_true_eq, decide_eq_true_eq]
    exact ⟨Char.le_def.mpr within.1, Char.le_def.mpr within.2⟩
  have below : character.toNat - '0'.toNat < 10 := by
    have nine : character.toNat ≤ '0'.toNat + 9 := within.2
    omega
  rw [digitValue?, if_pos small, Option.filter_some, if_pos (decide_eq_true below)]

theorem digitsAfter?_of_digits {row : List Char} {value : Nat}
    (digits : ∀ character ∈ row, character.isDigit = true) :
    digitsAfter? 10 value row = some (Nat.ofDigitChars 10 row value) := by
  induction row generalizing value with
  | nil => rfl
  | cons character row ih =>
      rw [digitsAfter?, digitValue?_of_isDigit (digits character List.mem_cons_self)]
      dsimp only
      rw [ih fun other member => digits other (List.mem_cons_of_mem character member),
        Nat.ofDigitChars_cons, Nat.mul_comm]

theorem digits?_of_digits {row : List Char} (some : row ≠ [])
    (digits : ∀ character ∈ row, character.isDigit = true) :
    digits? 10 row = .some (Nat.ofDigitChars 10 row 0) := by
  cases row with
  | nil => exact absurd rfl some
  | cons character rest =>
      rw [digits?]
      · exact digitsAfter?_of_digits digits
      · exact nofun

theorem isDigit_of_mem_toDigits {number : Nat} {character : Char}
    (member : character ∈ Nat.toDigits 10 number) : character.isDigit = true :=
  Nat.isDigit_of_mem_toDigits (by decide) (by decide) member

theorem digits?_toDigits (number : Nat) : digits? 10 (Nat.toDigits 10 number) = some number := by
  rw [digits?_of_digits Nat.toDigits_ne_nil fun _ => isDigit_of_mem_toDigits,
    Nat.ofDigitChars_toDigits (by decide) (by decide)]

/-- A number in decimal has no sign in front. -/
theorem exists_toDigits_eq_cons (number : Nat) : ∃ character rest,
    Nat.toDigits 10 number = character :: rest ∧ character ≠ '+' ∧ character ≠ '-' := by
  cases row : Nat.toDigits 10 number with
  | nil => exact absurd row Nat.toDigits_ne_nil
  | cons character rest =>
      have digit : character.isDigit = true :=
        isDigit_of_mem_toDigits (row ▸ List.mem_cons_self)
      refine ⟨character, rest, rfl, ?_, ?_⟩
      · rintro rfl
        cases digit
      · rintro rfl
        cases digit

theorem toList_toString (number : Nat) : (toString number).toList = Nat.toDigits 10 number := by
  rw [Nat.toString_eq_repr, Nat.toList_repr]

/-- A number of 64 bits that is written in decimal is read as it was. -/
theorem index?_toString {number : Nat} (fits : number < UInt64.size) :
    index? (toString number).toList = some number := by
  rcases exists_toDigits_eq_cons number with ⟨character, rest, row, noPlus, -⟩
  have digits := digits?_toDigits number
  rw [toList_toString]
  rw [row] at digits ⊢
  rw [index?]
  · rw [digits, Option.filter_some, if_pos (decide_eq_true fits)]
  · rintro row same
    cases same
    exact noPlus rfl

theorem whole?_toDigits (number : Nat) : whole? (Nat.toDigits 10 number) = some (number : Int) := by
  rcases exists_toDigits_eq_cons number with ⟨character, rest, row, noPlus, noMinus⟩
  have digits := digits?_toDigits number
  rw [row] at digits ⊢
  rw [whole?]
  · rw [digits]
    rfl
  · rintro row same
    cases same
    exact noPlus rfl
  · rintro row same
    cases same
    exact noMinus rfl

/-- A whole number that is written in decimal is read as it was. -/
theorem whole?_toString (number : Int) : whole? (toString number).toList = some number := by
  rw [Int.toString_eq_repr, Int.repr_eq_if]
  split
  · rename_i notNegative
    rw [Nat.toList_repr, whole?_toDigits, Int.toNat_of_nonneg notNegative]
  · rename_i negative
    have below : 0 ≤ -number := by omega
    rw [String.toList_append, Nat.toList_repr]
    show (digits? 10 (Nat.toDigits 10 _)).map (fun magnitude => -Int.ofNat magnitude) = _
    rw [digits?_toDigits]
    have magnitude := Int.toNat_of_nonneg below
    show some (-((-number).toNat : Int)) = some number
    rw [magnitude, Int.neg_neg]

end Rover.Text
