import Mathlib.Algebra.Group.Nat.Even
import Rover.Proofs.Fields
import Rover.Proofs.Words

/-!
# Splitting a line piece by piece

A line is split character by character, and what stands before a point of the
line matters to the rest in one way only: by the field that is being read
there.  Whether that is a quoted text is a matter of how many quotes stand
before.  So blanks outside quotes can be exchanged for others, and blanks at the
ends of a line do not show in its fields.
-/

namespace Rover.Atlas.Field

/-! ## The beginning of a line -/

/-- Whether the field that is being read is a quoted text. -/
def Reading.isOpen : Reading → Bool
  | .quotation _ => true
  | _ => false

/-- What one character does: the fields that it ends, one at most, and what is being read behind it. -/
inductive Step : Reading → Char → List Field → Reading → Prop
  | opens : Step .nothing '"' [] (.quotation [])
  | skips {character : Char} (blank : Text.isBlank character = true) :
      Step .nothing character [] .nothing
  | begins {character : Char} (unquoted : character ≠ '"')
      (solid : Text.isBlank character = false) : Step .nothing character [] (.word [character])
  | endsAndOpens {reversed : List Char} :
      Step (.word reversed) '"' [⟨reversed.reverse, false⟩] (.quotation [])
  | ends {reversed : List Char} {character : Char} (blank : Text.isBlank character = true) :
      Step (.word reversed) character [⟨reversed.reverse, false⟩] .nothing
  | goesOn {reversed : List Char} {character : Char} (unquoted : character ≠ '"')
      (solid : Text.isBlank character = false) :
      Step (.word reversed) character [] (.word (character :: reversed))
  | closes {reversed : List Char} :
      Step (.quotation reversed) '"' [⟨reversed.reverse, true⟩] .nothing
  | staysInside {reversed : List Char} {character : Char} (unquoted : character ≠ '"') :
      Step (.quotation reversed) character [] (.quotation (character :: reversed))

variable {reading next : Reading} {character : Char} {fields : List Field}

theorem exists_step (reading : Reading) (character : Char) :
    ∃ fields next, Step reading character fields next := by
  by_cases quote : character = '"'
  · subst quote
    cases reading with
    | nothing => exact ⟨_, _, .opens⟩
    | word reversed => exact ⟨_, _, .endsAndOpens⟩
    | quotation reversed => exact ⟨_, _, .closes⟩
  · cases reading with
    | nothing =>
        cases blank : Text.isBlank character with
        | true => exact ⟨_, _, .skips blank⟩
        | false => exact ⟨_, _, .begins quote blank⟩
    | word reversed =>
        cases blank : Text.isBlank character with
        | true => exact ⟨_, _, .ends blank⟩
        | false => exact ⟨_, _, .goesOn quote blank⟩
    | quotation reversed => exact ⟨_, _, .staysInside quote⟩

theorem Step.splitFrom_cons (step : Step reading character fields next) (rest : List Char) :
    splitFrom reading (character :: rest) = (splitFrom next rest).map (fields ++ ·) := by
  cases step with
  | opens => simp [splitFrom]
  | skips blank => simp [splitFrom, ne_quote_of_isBlank blank, blank]
  | begins unquoted solid => simp [splitFrom, unquoted, solid]
  | endsAndOpens => simp [splitFrom]
  | ends blank => simp [splitFrom, ne_quote_of_isBlank blank, blank]
  | goesOn unquoted solid => simp [splitFrom, unquoted, solid]
  | closes => simp [splitFrom]
  | staysInside unquoted => simp [splitFrom, unquoted]

/-- Nothing but a quote opens or closes a quoted text, and every quote does. -/
theorem Step.isOpen_eq_iff (step : Step reading character fields next) :
    next.isOpen = reading.isOpen ↔ character ≠ '"' := by
  cases step with
  | opens => simp [Reading.isOpen]
  | skips blank => simp [ne_quote_of_isBlank blank]
  | begins unquoted solid => simp [Reading.isOpen, unquoted]
  | endsAndOpens => simp [Reading.isOpen]
  | ends blank => simp [Reading.isOpen, ne_quote_of_isBlank blank]
  | goesOn unquoted solid => simp [Reading.isOpen, unquoted]
  | closes => simp [Reading.isOpen]
  | staysInside unquoted => simp [Reading.isOpen, unquoted]

/-- The beginning of a line gives some fields and leaves one to be read on. -/
theorem exists_splitFrom_append (reading : Reading) (before : List Char) :
    ∃ fields next, (next.isOpen = reading.isOpen ↔ Even (before.count '"')) ∧
      ∀ rest, splitFrom reading (before ++ rest) = (splitFrom next rest).map (fields ++ ·) := by
  induction before generalizing reading with
  | nil => exact ⟨[], reading, by simp, fun rest => by simp⟩
  | cons character before ih =>
      rcases exists_step reading character with ⟨first, next, step⟩
      rcases ih next with ⟨others, last, parities, run⟩
      refine ⟨first ++ others, last, ?_, fun rest => ?_⟩
      · by_cases quote : character = '"'
        · have flipped : next.isOpen = !reading.isOpen :=
            Bool.eq_not_of_ne (mt step.isOpen_eq_iff.mp (not_not.mpr quote))
          rw [quote, List.count_cons_self, Nat.even_add_one, ← parities, flipped]
          cases last.isOpen <;> cases reading.isOpen <;> decide
        · rw [List.count_cons_of_ne quote, ← parities, step.isOpen_eq_iff.mpr quote]
      · rw [List.cons_append, step.splitFrom_cons, run, Option.map_map]
        simp [Function.comp_def]

/-! ## Blanks -/

theorem splitFrom_quotation_gap {gap : List Char} (blank : Text.IsGap gap)
    (reversed : List Char) : splitFrom (.quotation reversed) gap = none := by
  induction gap generalizing reversed with
  | nil => rfl
  | cons character gap ih =>
      have ⟨first, others⟩ := List.forall_mem_cons.mp blank
      rw [splitFrom, if_neg (ne_quote_of_isBlank first), ih others]

/-- Outside quotes, blanks end a word and have no other effect. -/
theorem splitFrom_gap_congr {reading : Reading} (closed : reading.isOpen = false)
    {gap other : List Char} (blank : Text.IsGap gap) (alsoBlank : Text.IsGap other)
    (some : gap ≠ []) (alsoSome : other ≠ []) (rest : List Char) :
    splitFrom reading (gap ++ rest) = splitFrom reading (other ++ rest) := by
  cases reading with
  | nothing => rw [splitFrom_nothing_gap blank, splitFrom_nothing_gap alsoBlank]
  | word reversed =>
      rw [splitFrom_word_of_isApart (isApart_gap_append blank some rest),
        splitFrom_word_of_isApart (isApart_gap_append alsoBlank alsoSome rest),
        splitFrom_nothing_gap blank, splitFrom_nothing_gap alsoBlank]
  | quotation reversed => cases closed

/-- Blanks between fields can be exchanged for other blanks. -/
theorem split_gap_congr {before gap other : List Char} (outside : Even (before.count '"'))
    (blank : Text.IsGap gap) (alsoBlank : Text.IsGap other) (some : gap ≠ [])
    (alsoSome : other ≠ []) (after : List Char) :
    split (before ++ (gap ++ after)) = split (before ++ (other ++ after)) := by
  rcases exists_splitFrom_append .nothing before with ⟨fields, next, parity, run⟩
  have closed : next.isOpen = false := parity.mpr outside
  rw [split, split, run, run, splitFrom_gap_congr closed blank alsoBlank some alsoSome]

theorem split_append_gap {gap : List Char} (blank : Text.IsGap gap) (line : List Char) :
    split (line ++ gap) = split line := by
  rcases exists_splitFrom_append .nothing line with ⟨fields, next, -, run⟩
  have ends := run []
  rw [List.append_nil] at ends
  rw [split, split, run, ends]
  congr 1
  cases next with
  | nothing =>
      have bare := splitFrom_nothing_gap blank []
      rwa [List.append_nil] at bare
  | word reversed =>
      have apart : IsApart gap :=
        fun character begins => blank character (List.mem_of_mem_head? begins)
      have bare := splitFrom_nothing_gap blank []
      rw [List.append_nil] at bare
      rw [splitFrom_word_of_isApart apart, bare]
      rfl
  | quotation reversed => rw [splitFrom_quotation_gap blank, splitFrom]

/-- Blanks at the ends of a line do not show in its fields. -/
theorem split_gap_append_gap {before after : List Char} (front : Text.IsGap before)
    (back : Text.IsGap after) (line : List Char) : split (before ++ line ++ after) = split line := by
  rw [split_append_gap back, split, splitFrom_nothing_gap front, split]

theorem split_trim (line : List Char) : split (Text.trim line) = split line := by
  rcases Text.exists_gaps_trim line with ⟨before, after, front, back, same, -⟩
  have whole := split_gap_append_gap front back (Text.trim line)
  rw [← same] at whole
  exact whole.symm

/-! ## Other letters -/

/-- A field with each of its characters changed. -/
def mapText (change : Char → Char) (field : Field) : Field :=
  { field with text := field.text.map change }

/-- A reading with each of its characters changed. -/
def Reading.map (change : Char → Char) : Reading → Reading
  | .nothing => .nothing
  | .word reversed => .word (reversed.map change)
  | .quotation reversed => .quotation (reversed.map change)

/-- A change that keeps blanks and quotes apart from all else changes the fields in their place. -/
theorem splitFrom_map {change : Char → Char}
    (blanks : ∀ character, Text.isBlank (change character) = Text.isBlank character)
    (quotes : ∀ character, change character = '"' ↔ character = '"') (reading : Reading)
    (rest : List Char) :
    splitFrom (reading.map change) (rest.map change) =
      (splitFrom reading rest).map (List.map (mapText change)) := by
  induction rest generalizing reading with
  | nil => cases reading <;> simp [Reading.map, splitFrom, mapText]
  | cons character rest ih =>
      have opens := ih (.quotation [])
      have goesOn := ih .nothing
      simp only [Reading.map, List.map_nil] at opens goesOn
      by_cases quote : character = '"'
      · cases reading with
        | nothing => simpa [Reading.map, splitFrom, quote, quotes] using opens
        | word reversed =>
            simp [Reading.map, splitFrom, quote, quotes, opens, Function.comp_def, mapText]
        | quotation reversed =>
            simp [Reading.map, splitFrom, quote, quotes, goesOn, Function.comp_def, mapText]
      · cases reading with
        | nothing =>
            by_cases blank : Text.isBlank character = true
            · simpa [Reading.map, splitFrom, quote, quotes, blanks, blank] using goesOn
            · simpa [Reading.map, splitFrom, quote, quotes, blanks, blank] using
                ih (.word [character])
        | word reversed =>
            by_cases blank : Text.isBlank character = true
            · simp [Reading.map, splitFrom, quote, quotes, blanks, blank, goesOn,
                Function.comp_def, mapText]
            · simpa [Reading.map, splitFrom, quote, quotes, blanks, blank] using
                ih (.word (character :: reversed))
        | quotation reversed =>
            simpa [Reading.map, splitFrom, quote, quotes] using
              ih (.quotation (character :: reversed))

theorem split_map {change : Char → Char}
    (blanks : ∀ character, Text.isBlank (change character) = Text.isBlank character)
    (quotes : ∀ character, change character = '"' ↔ character = '"') (line : List Char) :
    split (line.map change) = (split line).map (List.map (mapText change)) :=
  splitFrom_map blanks quotes .nothing line

end Rover.Atlas.Field
