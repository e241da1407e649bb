import Rover.Instruction
import Rover.Text.Blank

/-!
# The interpreter

Reads an instruction from a line.  The first word says which kind is asked for
and the other words are its parameters, whose number is exact.  A line is tried
against a list of kinds, and the first kind that fits it counts.
-/

namespace Rover

/-- A line that fits no kind of a list, with the help text on that list. -/
structure Unrecognised where
  line : String
  help : HelpText
  deriving DecidableEq, Repr

/-- The words in which a line is refused. -/
def Unrecognised.message (refusal : Unrecognised) : String :=
  "Invalid instruction: " ++ refusal.line

namespace InstructionKind

/-- The instruction of a kind with some words as its parameters. -/
def withParameters : InstructionKind → List (List Char) → Option Instruction
  | .move, [] => some .move
  | .help, [] => some .help
  | .quit, [] => some .quit
  | .radar, [] => some .radar
  | .scan, [] => some (.scan none)
  | .scan, [id] => some (.scan (some (String.ofList id)))
  | .drop, [id] => some (.drop (String.ofList id))
  | .pick, [id] => some (.pick (String.ofList id))
  | .operate, [id] => some (.operate (String.ofList id) none)
  | .turn, [word] =>
      match Rotation.parse word with
      | .unknown => none
      | rotation => some (.turn rotation)
  | _, _ => none

/-- Whether a word asks for a kind. -/
def answersTo (kind : InstructionKind) (word : List Char) : Bool :=
  kind.keywords.any fun keyword => Text.isKeyword keyword word

/-- The instruction of a kind that some words make. -/
def ofWords? (kind : InstructionKind) : List (List Char) → Option Instruction
  | [] => none
  | word :: parameters =>
      if kind.answersTo word then kind.withParameters parameters else none

/-- The instruction of a kind that a line makes. -/
def parse (kind : InstructionKind) (line : String) : Option Instruction :=
  kind.ofWords? (Text.words line.toList)

end InstructionKind

/-- The instruction that a line makes for the first kind of a list that it fits. -/
def interpret (kinds : List InstructionKind) (line : String) :
    Except Unrecognised Instruction :=
  match kinds.findSome? fun kind => kind.parse line with
  | some instruction => .ok instruction
  | none =>
      .error
        { line := String.ofList (Text.trim line.toList)
          help := HelpText.ofKinds kinds }

end Rover
