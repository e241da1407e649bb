import Rover.Compass
import Rover.Instruction.Kind
import Rover.Item

/-!
# Instructions

What a robot is told to do, with its parameters.  An instruction to operate an
item also remembers the item as its last use left it, until that use is taken
back.
-/

namespace Rover

/-- An instruction and its parameters. -/
inductive Instruction where
  /-- Walk the street ahead. -/
  | move
  /-- Turn on the spot. -/
  | turn (rotation : Rotation)
  /-- Take an item from the place. -/
  | pick (id : String)
  /-- Leave an item at the place. -/
  | drop (id : String)
  /-- Use a carried item; `used` is that item after its last use, unless that was taken back. -/
  | operate (id : String) (used : Option Item)
  /-- Describe a carried item, or name all of them. -/
  | scan (id : Option String)
  /-- Look about. -/
  | radar
  /-- List the instructions. -/
  | help
  /-- Give up the run. -/
  | quit
  deriving DecidableEq, Repr

namespace Instruction

/-- The kind of an instruction. -/
def kind : Instruction → InstructionKind
  | .move => .move
  | .turn _ => .turn
  | .pick _ => .pick
  | .drop _ => .drop
  | .operate _ _ => .operate
  | .scan _ => .scan
  | .radar => .radar
  | .help => .help
  | .quit => .quit

/-- The instruction as it was given, with nothing remembered. -/
def fresh : Instruction → Instruction
  | .operate id _ => .operate id none
  | instruction => instruction

/-- The item that an instruction remembers. -/
def used? : Instruction → Option Item
  | .operate _ used => used
  | _ => none

end Instruction

end Rover
