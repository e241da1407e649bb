import Mathlib.Data.List.Forall2
import Rover.Proofs.Grammar

/-!
# Interpreters for some of the kinds

An interpreter can be given any list of kinds, in any order and with
repetitions.  The list only filters: a line is read by it exactly if the full
interpreter reads the line as an instruction of one of these kinds, and as the
same instruction.  That is so because no word is a keyword of two kinds, so that
the first kind to fit a line is the only one.

What the list does show in is a refusal, which has a line of help on each of its
entries.
-/

namespace Rover

/-- A line is refused as it is without the blanks at its ends, with help on some kinds in order. -/
structure Refuses (kinds : List InstructionKind) (line : String) (refusal : Unrecognised) :
    Prop where
  trimmed : refusal.line.toList = Text.trim line.toList
  header : refusal.help.header = "The valid instructions are:"
  help : List.Forall₂ (fun kind usage => kind.usage = usage) kinds refusal.help.lines

variable {kinds others : List InstructionKind} {line : String}

/-- A list of kinds has one refusal for a line. -/
theorem refuses_iff {refusal : Unrecognised} :
    Refuses kinds line refusal ↔
      refusal = ⟨String.ofList (Text.trim line.toList), .ofKinds kinds⟩ := by
  constructor
  · rintro ⟨trimmed, header, help⟩
    rcases refusal with ⟨said, heading, lines⟩
    have sameLines : kinds.map InstructionKind.usage = lines :=
      List.forall₂_eq_eq_eq ▸ List.forall₂_map_left_iff.mpr help
    change heading = _ at header
    rw [← trimmed, String.ofList_toList, header, ← sameLines]
    rfl
  · rintro rfl
    refine ⟨String.toList_ofList, rfl, ?_⟩
    exact List.forall₂_map_right_iff.mpr (List.forall₂_same.mpr fun kind _ => rfl)

/-- The full interpreter knows a line exactly if its words spell the instruction. -/
theorem interpret_all_eq_ok_iff {instruction : Instruction} :
    interpret InstructionKind.all line = .ok instruction ↔
      instruction.IsSpelledBy (Text.words line.toList) := by
  rw [interpret_eq_ok_iff]
  exact and_iff_right (InstructionKind.mem_all instruction.kind)

theorem interpret_eq_ok_iff_all {instruction : Instruction} :
    interpret kinds line = .ok instruction ↔
      interpret InstructionKind.all line = .ok instruction ∧ instruction.kind ∈ kinds := by
  rw [interpret_all_eq_ok_iff, interpret_eq_ok_iff, and_comm]

/-- Lists with the same entries, however often and in whatever order, read lines alike. -/
theorem interpret_congr_kinds (same : ∀ kind, kind ∈ kinds ↔ kind ∈ others) :
    (interpret kinds line).toOption = (interpret others line).toOption := by
  have alike (instruction : Instruction) :
      interpret kinds line = .ok instruction ↔ interpret others line = .ok instruction := by
    rw [interpret_eq_ok_iff_all, same]
    exact interpret_eq_ok_iff_all.symm
  cases read : interpret kinds line with
  | ok instruction => rw [(alike instruction).mp read]
  | error refusal =>
      cases readToo : interpret others line with
      | ok instruction => cases read.symm.trans ((alike instruction).mpr readToo)
      | error _ => rfl

/--
A list of kinds only filters.  What an interpreter with the list reads is what
the full one reads as an instruction of a kind of the list, so neither the order
of the list nor a repetition shows in what a line means.  A kind by itself reads
its own instructions and no others.  A line is refused if the full interpreter
reads no instruction of these kinds from it, in the words of the line and with a
line of help on each entry of the list, in its order.
-/
theorem registries_only_filter :
    (∀ kinds line instruction, interpret kinds line = .ok instruction ↔
      interpret InstructionKind.all line = .ok instruction ∧ instruction.kind ∈ kinds) ∧
    (∀ kinds others line, (∀ kind, kind ∈ kinds ↔ kind ∈ others) →
      (interpret kinds line).toOption = (interpret others line).toOption) ∧
    (∀ (kind : InstructionKind) line instruction, kind.parse line = some instruction ↔
      interpret InstructionKind.all line = .ok instruction ∧ instruction.kind = kind) ∧
    ∀ kinds line refusal, interpret kinds line = .error refusal ↔
      (∀ instruction, interpret InstructionKind.all line = .ok instruction →
        instruction.kind ∉ kinds) ∧ Refuses kinds line refusal := by
  refine ⟨fun _ _ _ => interpret_eq_ok_iff_all, fun _ _ _ => interpret_congr_kinds, ?_, ?_⟩
  · intro kind line instruction
    rw [parse_eq_some_iff, interpret_all_eq_ok_iff, and_comm]
  · intro kinds line refusal
    simp only [interpret_eq_error_iff, interpret_all_eq_ok_iff, refuses_iff]

/-- A list that names two kinds three times reads what the two kinds read, and refuses the rest. -/
theorem pickMovePick_is_moveOrPick :
    (∀ kind, kind ∈ [InstructionKind.pick, .move, .pick] ↔
      kind ∈ [InstructionKind.move, .pick]) ∧
    (interpret [.pick, .move, .pick] "coger Nut").toOption = some (.pick "Nut") ∧
    interpret [.pick, .move, .pick] " Quit " =
      .error ⟨"Quit", "The valid instructions are:",
        ["PICK | COGER <id>", "MOVE | MOVER", "PICK | COGER <id>"]⟩ := by
  have same : ∀ kind, kind ∈ [InstructionKind.pick, .move, .pick] ↔
      kind ∈ [InstructionKind.move, .pick] := by
    intro kind
    cases kind <;> decide
  rcases registries_only_filter with ⟨-, alike, -, refused⟩
  refine ⟨same, ?_, ?_⟩
  · rw [alike _ _ _ same]
    decide +kernel
  · refine (refused _ _ _).mpr ⟨?_, by decide +kernel, rfl, ?_⟩
    · intro instruction read
      have quit : interpret InstructionKind.all " Quit " = .ok .quit := by rfl
      cases quit.symm.trans read
      decide
    · exact .cons rfl (.cons rfl (.cons rfl .nil))

end Rover
