import Mathlib.Algebra.Ring.Parity
import Rover.Proofs.Splitting

/-!
# Nothing lost, nothing made up

What a line is split into is settled by three facts.  A line cannot be split
exactly if it has an odd number of quotes.  Each field of a line that can be
split is proper, and the fields write, one behind the other, the line without
its blanks outside quotes.  In return, proper fields are found again on every
line that writes them with blanks between one and the next.
-/

namespace Rover.Atlas.Field

/-- The rest of a line without its blanks outside quotes, given whether a quote is open. -/
def condensedFrom : Bool → List Char → List Char
  | _, [] => []
  | isOpen, character :: rest =>
      let later := condensedFrom (if character = '"' then !isOpen else isOpen) rest
      if isOpen || !Text.isBlank character then character :: later else later

/-- A line without its blanks outside quotes. -/
def condensed (line : List Char) : List Char :=
  condensedFrom false line

/-! ## Which lines are split -/

/-- A line cannot be split exactly if it has an odd number of quotes. -/
theorem split_eq_none_iff {line : List Char} : split line = none ↔ Odd (line.count '"') := by
  rcases exists_splitFrom_append .nothing line with ⟨fields, next, parity, run⟩
  have ends := run []
  rw [List.append_nil] at ends
  rw [split, ends, Option.map_eq_none_iff, ← Nat.not_even_iff_odd, ← parity]
  cases next <;> simp [splitFrom, Reading.isOpen]

/-! ## What the fields are -/

variable {reading next : Reading} {character : Char} {fields : List Field}

/-- The characters that have been read of the field that is being read. -/
def Reading.written : Reading → List Char
  | .nothing => []
  | .word reversed => reversed.reverse
  | .quotation reversed => '"' :: reversed.reverse

/-- What is being read can still become a proper field. -/
inductive Reading.IsProper : Reading → Prop
  | nothing : IsProper .nothing
  | word {reversed : List Char} (nonempty : reversed ≠ [])
      (solid : ∀ character ∈ reversed, character ≠ '"' ∧ Text.isBlank character = false) :
      IsProper (.word reversed)
  | quotation {reversed : List Char} (closed : '"' ∉ reversed) : IsProper (.quotation reversed)

theorem Reading.IsProper.isProper_word {reversed : List Char}
    (proper : (Reading.word reversed).IsProper) : Field.IsProper ⟨reversed.reverse, false⟩ := by
  cases proper with
  | word nonempty solid =>
      exact .word (mt List.reverse_eq_nil_iff.mp nonempty) fun character member =>
        solid character (List.mem_reverse.mp member)

theorem Reading.IsProper.isProper_quotation {reversed : List Char}
    (proper : (Reading.quotation reversed).IsProper) :
    Field.IsProper ⟨reversed.reverse, true⟩ := by
  cases proper with
  | quotation closed => exact .quotation (mt List.mem_reverse.mp closed)

theorem Step.isProper (step : Step reading character fields next) (proper : reading.IsProper) :
    next.IsProper ∧ ∀ field ∈ fields, field.IsProper := by
  cases step with
  | opens => exact ⟨.quotation List.not_mem_nil, List.forall_mem_nil _⟩
  | skips blank => exact ⟨.nothing, List.forall_mem_nil _⟩
  | begins unquoted solid =>
      exact ⟨.word (List.cons_ne_nil _ _) (List.forall_mem_singleton.mpr ⟨unquoted, solid⟩),
        List.forall_mem_nil _⟩
  | endsAndOpens =>
      exact ⟨.quotation List.not_mem_nil, List.forall_mem_singleton.mpr proper.isProper_word⟩
  | ends blank => exact ⟨.nothing, List.forall_mem_singleton.mpr proper.isProper_word⟩
  | goesOn unquoted solid =>
      cases proper with
      | word nonempty solidBefore =>
          have solidNow := List.forall_mem_cons.mpr ⟨⟨unquoted, solid⟩, solidBefore⟩
          exact ⟨.word (List.cons_ne_nil _ _) solidNow, List.forall_mem_nil _⟩
  | closes => exact ⟨.nothing, List.forall_mem_singleton.mpr proper.isProper_quotation⟩
  | staysInside unquoted =>
      cases proper with
      | quotation closed =>
          exact ⟨.quotation (List.not_mem_cons_of_ne_of_not_mem (Ne.symm unquoted) closed),
            List.forall_mem_nil _⟩

/-- A character is written by the field that it belongs to, unless it is a blank outside quotes. -/
theorem Step.written_eq (step : Step reading character fields next) (rest : List Char) :
    fields.flatMap written ++ (next.written ++ condensedFrom next.isOpen rest) =
      reading.written ++ condensedFrom reading.isOpen (character :: rest) := by
  cases step with
  | opens => simp [Reading.written, Reading.isOpen, condensedFrom, Text.isBlank]
  | skips blank =>
      simp [Reading.written, Reading.isOpen, condensedFrom, blank, ne_quote_of_isBlank blank]
  | begins unquoted solid => simp [Reading.written, Reading.isOpen, condensedFrom, unquoted, solid]
  | endsAndOpens =>
      simp [Reading.written, Reading.isOpen, condensedFrom, Text.isBlank, Field.written]
  | ends blank =>
      simp [Reading.written, Reading.isOpen, condensedFrom, blank, ne_quote_of_isBlank blank,
        Field.written]
  | goesOn unquoted solid => simp [Reading.written, Reading.isOpen, condensedFrom, unquoted, solid]
  | closes => simp [Reading.written, Reading.isOpen, condensedFrom, Field.written]
  | staysInside unquoted => simp [Reading.written, Reading.isOpen, condensedFrom, unquoted]

/-- The fields of a line are proper and write all of it but the blanks outside quotes. -/
theorem isProper_and_written_of_splitFrom {reading : Reading} {rest : List Char}
    {fields : List Field} (read : splitFrom reading rest = some fields)
    (proper : reading.IsProper) :
    (∀ field ∈ fields, field.IsProper) ∧
      fields.flatMap written = reading.written ++ condensedFrom reading.isOpen rest := by
  induction rest generalizing reading fields with
  | nil =>
      cases reading with
      | nothing =>
          cases read
          exact ⟨List.forall_mem_nil _, rfl⟩
      | word reversed =>
          cases read
          exact ⟨List.forall_mem_singleton.mpr proper.isProper_word, rfl⟩
      | quotation reversed => cases read
  | cons character rest ih =>
      rcases exists_step reading character with ⟨ended, next, step⟩
      rw [step.splitFrom_cons] at read
      rcases Option.map_eq_some_iff.mp read with ⟨others, later, rfl⟩
      have ⟨nextProper, endedProper⟩ := step.isProper proper
      have ⟨othersProper, othersWritten⟩ := ih later nextProper
      constructor
      · exact List.forall_mem_append.mpr ⟨endedProper, othersProper⟩
      · rw [List.flatMap_append, othersWritten, step.written_eq]

/--
A line is split unless it has an odd number of quotes.  Its fields are proper, and
they write it but for its blanks outside quotes.  Proper fields are read from
every line that writes them with blanks between one and the next.
-/
theorem lines_are_split_exactly :
    (∀ line, split line = none ↔ Odd (line.count '"')) ∧
    (∀ line fields, split line = some fields →
      (∀ field ∈ fields, field.IsProper) ∧ fields.flatMap written = condensed line) ∧
    ∀ line fields, (∀ field ∈ fields, field.IsProper) → WritesApart line fields →
      split line = some fields := by
  refine ⟨fun line => split_eq_none_iff, fun line fields read => ?_,
    fun line fields proper writes => ?_⟩
  · exact isProper_and_written_of_splitFrom read .nothing
  · exact writes.split_eq proper

/-- A word with a text glued to it, and a text without characters behind an ideographic space. -/
def gluedLine : List Char := "\tsay\"two  words\"\u3000\"\" now".toList

/-- The fields of the line, and a line that writes them further apart. -/
theorem gluedLine_is_split :
    split gluedLine = some [.word "say", .quotation "two  words", .quotation "", .word "now"] ∧
    condensed gluedLine = "say\"two  words\"\"\"now".toList ∧
    WritesApart "say \"two  words\"\u3000\u2028\"\"\tnow".toList
      [.word "say", .quotation "two  words", .quotation "", .word "now"] ∧
    split "say \"two  words\"\u3000\u2028\"\"\tnow".toList =
      some [.word "say", .quotation "two  words", .quotation "", .word "now"] := by
  have read : split gluedLine =
      some [.word "say", .quotation "two  words", .quotation "", .word "now"] := by decide
  rcases lines_are_split_exactly with ⟨-, splits, reads⟩
  have ⟨proper, written⟩ := splits _ _ read
  have writes : WritesApart "say \"two  words\"\u3000\u2028\"\"\tnow".toList
      [.word "say", .quotation "two  words", .quotation "", .word "now"] :=
    @WritesApart.more (.word "say") _ [' '] _ _ (by decide) (by decide)
      (@WritesApart.more (.quotation "two  words") _ ['\u3000', '\u2028'] _ _ (by decide) (by decide)
        (@WritesApart.more (.quotation "") _ ['\t'] _ _ (by decide) (by decide)
          (.last (.word "now"))))
  exact ⟨read, written.symm, writes, reads _ _ proper writes⟩

end Rover.Atlas.Field
