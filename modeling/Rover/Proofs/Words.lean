import Mathlib.Data.List.TakeWhile
import Rover.Proofs.Texts

/-!
# Words in a text

A text holds its words in order, with any blanks before and behind them and at
least one blank between two.  `Holds` says so without cutting the text up, and
the words that reading finds are exactly those that a text holds: so every
layout of the same words is read alike.  Trimming takes blanks from both ends of
a text and leaves its words alone.
-/

namespace Rover.Text

/-- Nothing but blanks, if anything. -/
def IsGap (text : List Char) : Prop :=
  ∀ character ∈ text, isBlank character = true

/-- Something without a blank. -/
structure IsWord (text : List Char) : Prop where
  some : text ≠ []
  solid : ∀ character ∈ text, isBlank character = false

instance (text : List Char) : Decidable (IsGap text) :=
  decidable_of_iff (text.all isBlank = true) List.all_eq_true

theorem isWord_iff {text : List Char} :
    IsWord text ↔ text ≠ [] ∧ (text.all fun character => !isBlank character) = true := by
  simp only [List.all_eq_true, Bool.not_eq_true']
  constructor
  · exact fun word => ⟨word.some, word.solid⟩
  · exact fun ⟨filled, solid⟩ => ⟨filled, solid⟩

instance (text : List Char) : Decidable (IsWord text) :=
  decidable_of_iff _ isWord_iff.symm

/-- A text holds some words in order, with a blank or the end of the text behind each of them. -/
inductive Holds : List Char → List (List Char) → Prop
  | none {gap : List Char} (blank : IsGap gap) : Holds gap []
  | word {gap word rest : List Char} {words : List (List Char)} (blank : IsGap gap)
      (solid : IsWord word) (apart : ∀ character ∈ rest.head?, isBlank character = true)
      (further : Holds rest words) : Holds (gap ++ (word ++ rest)) (word :: words)

theorem isGap_nil : IsGap [] :=
  List.forall_mem_nil _

theorem IsGap.append {first second : List Char} (earlier : IsGap first) (later : IsGap second) :
    IsGap (first ++ second) :=
  List.forall_mem_append.mpr ⟨earlier, later⟩

theorem isWord_of_mem_words {text word : List Char} (member : word ∈ words text) : IsWord word :=
  ⟨ne_nil_of_mem_words member, fun _ inside => not_isBlank_of_mem_words member inside⟩

/-! ## What is read -/

theorem words_cons_of_isBlank {character : Char} (blank : isBlank character = true)
    (text : List Char) : words (character :: text) = words text := by
  simp [words, pieces, blank]

theorem words_gap_append {gap : List Char} (blank : IsGap gap) (text : List Char) :
    words (gap ++ text) = words text := by
  induction gap with
  | nil => rfl
  | cons character rest ih =>
      have ⟨first, others⟩ := List.forall_mem_cons.mp blank
      rw [List.cons_append, words_cons_of_isBlank first, ih others]

theorem words_of_isGap {gap : List Char} (blank : IsGap gap) : words gap = [] := by
  have bare := words_gap_append blank []
  rwa [List.append_nil] at bare

theorem words_word_append {word rest : List Char} (solid : IsWord word)
    (apart : ∀ character ∈ rest.head?, isBlank character = true) :
    words (word ++ rest) = word :: words rest := by
  cases rest with
  | nil =>
      rw [List.append_nil, words, pieces_of_whole solid.solid]
      simp [words, pieces, solid.some]
  | cons separator rest =>
      have blank : isBlank separator = true := apart separator rfl
      rw [words, pieces_append_cons solid.solid blank, words_cons_of_isBlank blank]
      simp [words, solid.some]

theorem Holds.words_eq {text : List Char} {found : List (List Char)} (holds : Holds text found) :
    words text = found := by
  induction holds with
  | none blank => exact words_of_isGap blank
  | word blank solid apart further ih =>
      rw [words_gap_append blank, words_word_append solid apart, ih]

/-! ## Every text is laid out -/

theorem Holds.gap {gap text : List Char} {found : List (List Char)} (blank : IsGap gap)
    (holds : Holds text found) : Holds (gap ++ text) found := by
  cases holds with
  | none more => exact .none (blank.append more)
  | word more solid apart further =>
      rw [← List.append_assoc]
      exact .word (blank.append more) solid apart further

theorem Holds.append_gap {text gap : List Char} {found : List (List Char)}
    (holds : Holds text found) (blank : IsGap gap) : Holds (text ++ gap) found := by
  induction holds with
  | none more => exact .none (more.append blank)
  | @word front word rest words ahead solid apart further ih =>
      have stillApart : ∀ character ∈ (rest ++ gap).head?, isBlank character = true := by
        intro character begins
        cases rest with
        | nil => exact blank character (List.mem_of_mem_head? begins)
        | cons first others => exact apart character begins
      rw [List.append_assoc, List.append_assoc]
      exact .word ahead solid stillApart ih

/-- A solid character begins a word, or makes the first word longer. -/
theorem exists_holds_cons {character : Char} (solid : isBlank character = false)
    {text : List Char} {found : List (List Char)} (holds : Holds text found) :
    ∃ others, Holds (character :: text) others := by
  have alone : IsWord [character] :=
    ⟨List.cons_ne_nil _ _, List.forall_mem_singleton.mpr solid⟩
  cases holds with
  | @none gap blank =>
      refine ⟨[[character]], .word isGap_nil alone ?_ (.none blank)⟩
      exact fun first begins => blank first (List.mem_of_mem_head? begins)
  | @word gap word rest words blank wordSolid apart further =>
      -- Without a gap the first word follows at once, and the character belongs to it.
      cases gap with
      | nil =>
          have longer : IsWord (character :: word) :=
            ⟨List.cons_ne_nil _ _, List.forall_mem_cons.mpr ⟨solid, wordSolid.solid⟩⟩
          have begun : Holds ([] ++ (character :: word ++ rest)) ((character :: word) :: words) :=
            .word isGap_nil longer apart further
          exact ⟨_, begun⟩
      | cons first gap =>
          have next : Holds (first :: gap ++ (word ++ rest)) (word :: words) :=
            .word blank wordSolid apart further
          refine ⟨[character] :: word :: words, .word isGap_nil alone ?_ next⟩
          rintro _ ⟨⟩
          exact blank first List.mem_cons_self

theorem exists_holds (text : List Char) : ∃ found, Holds text found := by
  induction text with
  | nil => exact ⟨[], .none isGap_nil⟩
  | cons character rest ih =>
      rcases ih with ⟨found, holds⟩
      cases solid : isBlank character with
      | true => exact ⟨found, Holds.gap (List.forall_mem_singleton.mpr solid) holds⟩
      | false => exact exists_holds_cons solid holds

/-- Words with a blank between two make a text that holds them. -/
theorem holds_intercalate {found : List (List Char)} (solid : ∀ word ∈ found, IsWord word) :
    Holds ([' '].intercalate found) found := by
  induction found with
  | nil => exact .none isGap_nil
  | cons word others ih =>
      have ⟨first, further⟩ := List.forall_mem_cons.mp solid
      cases others with
      | nil =>
          have alone : Holds ([] ++ (word ++ [])) [word] :=
            .word isGap_nil first (fun _ => nofun) (.none isGap_nil)
          rw [List.intercalate_singleton]
          rwa [List.nil_append, List.append_nil] at alone
      | cons next others =>
          have blank : IsGap [' '] := by decide
          have apart : ∀ character ∈ ([' '] ++ [' '].intercalate (next :: others)).head?,
              isBlank character = true := by
            rintro _ ⟨⟩
            decide
          have holds : Holds ([] ++ (word ++ ([' '] ++ [' '].intercalate (next :: others))))
              (word :: next :: others) :=
            .word isGap_nil first apart (Holds.gap blank (ih further))
          rw [List.intercalate_cons_cons, List.append_assoc]
          exact holds

/-- The words that are read are those that the text holds. -/
theorem holds_iff {text : List Char} {found : List (List Char)} :
    Holds text found ↔ words text = found := by
  constructor
  · exact Holds.words_eq
  · rintro rfl
    rcases exists_holds text with ⟨found, holds⟩
    rwa [holds.words_eq]

/-- Blanks at the ends of a text do not show in its words. -/
theorem words_gap_append_gap {before after : List Char} (front : IsGap before)
    (back : IsGap after) (text : List Char) : words (before ++ text ++ after) = words text := by
  rcases exists_holds text with ⟨found, holds⟩
  rw [((holds.gap front).append_gap back).words_eq, holds.words_eq]

/-! ## Trimming -/

theorem dropWhile_of_isGap {gap : List Char} (blank : IsGap gap) :
    gap.dropWhile isBlank = [] :=
  List.dropWhile_eq_nil_iff.mpr blank

theorem dropWhile_gap_append {gap : List Char} (blank : IsGap gap) (text : List Char) :
    (gap ++ text).dropWhile isBlank = text.dropWhile isBlank :=
  List.dropWhile_append_of_pos blank

/-- A text without the blanks in front is empty or begins with another character. -/
theorem exists_gap_dropWhile (text : List Char) :
    ∃ gap, IsGap gap ∧ text = gap ++ text.dropWhile isBlank ∧
      ∀ character ∈ (text.dropWhile isBlank).head?, isBlank character = false := by
  refine ⟨text.takeWhile isBlank, ?_, List.takeWhile_append_dropWhile.symm, ?_⟩
  · exact fun character member => List.mem_takeWhile_imp member
  · intro character begins
    have solid := List.head?_dropWhile_not isBlank text
    rwa [Option.mem_def.mp begins] at solid

/-- What trimming leaves is the text but for blanks at both ends, and it has none there itself. -/
theorem exists_gaps_trim (text : List Char) :
    ∃ before after, IsGap before ∧ IsGap after ∧ text = before ++ trim text ++ after ∧
      (trim text = [] ∨ IsTrim (trim text)) := by
  rcases exists_gap_dropWhile text with ⟨before, front, cut, first⟩
  rcases exists_gap_dropWhile (text.dropWhile isBlank).reverse with ⟨after, back, cutBack, last⟩
  have rest : text.dropWhile isBlank = trim text ++ after.reverse := by
    rw [← List.reverse_reverse (text.dropWhile isBlank), cutBack, List.reverse_append]
    rfl
  refine ⟨before, after.reverse, front, ?_, ?_, ?_⟩
  · exact fun character member => back character (List.mem_reverse.mp member)
  · rw [List.append_assoc, ← rest]
    exact cut
  · cases trimmed : trim text with
    | nil => exact .inl rfl
    | cons character others =>
        have start : isBlank character = false := by
          rw [rest, trimmed] at first
          exact first character rfl
        have ends : (trim text).reverse.head? = some ((character :: others).getLast nofun) := by
          rw [trimmed, List.head?_reverse, List.getLast?_eq_some_getLast]
        refine .inr ⟨⟨character, others, rfl, start⟩, ?_⟩
        refine ⟨_, _, (List.dropLast_concat_getLast (List.cons_ne_nil character others)).symm, ?_⟩
        apply last
        rw [trim, List.reverse_reverse] at ends
        exact ends

theorem trim_of_isGap {gap : List Char} (blank : IsGap gap) : trim gap = [] := by
  rw [trim, dropWhile_of_isGap blank]
  rfl

theorem IsWord.trim_eq {word : List Char} (solid : IsWord word) :
    trim word = word := by
  cases word with
  | nil => exact absurd rfl solid.some
  | cons first rest =>
      have last := List.getLast_mem (List.cons_ne_nil first rest)
      refine IsTrim.trim_eq ⟨⟨first, rest, rfl, solid.solid first List.mem_cons_self⟩, ?_⟩
      exact ⟨_, _, (List.dropLast_concat_getLast (List.cons_ne_nil first rest)).symm,
        solid.solid _ last⟩

/-- Blanks at the ends of a text do not show in what trimming leaves. -/
theorem trim_gap_append {before after : List Char} (front : IsGap before) (back : IsGap after)
    (text : List Char) : trim (before ++ text ++ after) = trim text := by
  have turned : IsGap after.reverse :=
    fun character member => back character (List.mem_reverse.mp member)
  rw [List.append_assoc, trim, dropWhile_gap_append front, List.dropWhile_append]
  cases core : text.dropWhile isBlank with
  | nil =>
      have blank : IsGap text := List.dropWhile_eq_nil_iff.mp core
      rw [List.isEmpty_nil, if_pos rfl, dropWhile_of_isGap back, trim_of_isGap blank]
      rfl
  | cons character others =>
      rw [List.isEmpty_cons, if_neg Bool.false_ne_true, List.reverse_append,
        dropWhile_gap_append turned, trim, core]

/-- A text has one trimmed middle: what it is without the blanks at its ends. -/
theorem trim_eq_of_gaps {before middle after : List Char} (front : IsGap before)
    (back : IsGap after) (trimmed : middle = [] ∨ IsTrim middle) :
    trim (before ++ middle ++ after) = middle := by
  rw [trim_gap_append front back]
  rcases trimmed with rfl | trimmed
  · rfl
  · exact trimmed.trim_eq

/-! ## Words and trimming -/

/-- Blanks in the middle of a text part the words before them from those behind them. -/
theorem words_append_gap_append {gap : List Char} (blank : IsGap gap) (some : gap ≠ [])
    (before after : List Char) :
    words (before ++ (gap ++ after)) = words before ++ words after := by
  rcases List.exists_cons_of_ne_nil some with ⟨first, others, rfl⟩
  have ⟨separates, further⟩ := List.forall_mem_cons.mp blank
  rw [List.cons_append, words, pieces_append_separator separates, List.filter_append]
  exact congrArg (words before ++ ·) (words_gap_append further after)

theorem words_trim (text : List Char) : words (trim text) = words text := by
  rcases exists_gaps_trim text with ⟨before, after, front, back, same, -⟩
  have whole := words_gap_append_gap front back (trim text)
  rw [← same] at whole
  exact whole.symm

theorem words_eq_nil_iff {text : List Char} : words text = [] ↔ trim text = [] := by
  constructor
  · intro none
    cases holds_iff.mpr none with
    | none blank => exact trim_of_isGap blank
  · intro none
    rw [← words_trim, none]
    rfl

/-- A text with one word is trimmed to that word. -/
theorem words_eq_singleton_iff {text word : List Char} :
    words text = [word] ↔ IsWord word ∧ trim text = word := by
  constructor
  · intro alone
    have solid : IsWord word := isWord_of_mem_words (alone ▸ List.mem_singleton_self word)
    cases holds_iff.mpr alone with
    | word blank _ apart further =>
        cases further with
        | none back =>
            rw [← List.append_assoc, trim_gap_append blank back]
            exact ⟨solid, solid.trim_eq⟩
  · rintro ⟨solid, trimmed⟩
    have bare : words (word ++ []) = word :: words [] := words_word_append solid nofun
    rw [List.append_nil] at bare
    rw [← words_trim, trimmed, bare]
    rfl

end Rover.Text
