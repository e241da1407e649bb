/-!
# Kinds of instructions

The nine things that a robot can be told to do, the words that ask for each of
them, and the help text that lists them.
-/

namespace Rover

/-- What a robot can be told to do, parameters apart. -/
inductive InstructionKind where
  | move
  | drop
  | help
  | quit
  | scan
  | radar
  | turn
  | operate
  | pick
  deriving DecidableEq, Repr

namespace InstructionKind

/-- All kinds, in the order in which a line is tried against them. -/
def all : List InstructionKind :=
  [.move, .drop, .help, .quit, .scan, .radar, .turn, .operate, .pick]

/-- The words that ask for a kind, the main one first. -/
def keywords : InstructionKind → List String
  | .move => ["MOVE", "MOVER"]
  | .drop => ["DROP", "SOLTAR"]
  | .help => ["HELP", "AYUDA"]
  | .quit => ["QUIT", "SALIR"]
  | .scan => ["SCAN", "ESCANEAR"]
  | .radar => ["RADAR"]
  | .turn => ["TURN", "GIRAR"]
  | .operate => ["OPERATE", "OPERAR"]
  | .pick => ["PICK", "COGER"]

/-- The main word that asks for a kind. -/
def name : InstructionKind → String
  | .move => "MOVE"
  | .drop => "DROP"
  | .help => "HELP"
  | .quit => "QUIT"
  | .scan => "SCAN"
  | .radar => "RADAR"
  | .turn => "TURN"
  | .operate => "OPERATE"
  | .pick => "PICK"

/-- The line of the help text on a kind. -/
def usage : InstructionKind → String
  | .move => "MOVE | MOVER"
  | .drop => "DROP | SOLTAR <id>"
  | .help => "HELP | AYUDA"
  | .quit => "QUIT | SALIR"
  | .scan => "SCAN | ESCANEAR [id]"
  | .radar => "RADAR"
  | .turn => "TURN | GIRAR <LEFT|RIGHT>"
  | .operate => "OPERATE | OPERAR <ID>"
  | .pick => "PICK | COGER <id>"

end InstructionKind

/-- A list of instructions for the player, a line for each. -/
structure HelpText where
  header : String
  lines : List String
  deriving DecidableEq, Repr

namespace HelpText

/-- The help text on some kinds, in the order given. -/
def ofKinds (kinds : List InstructionKind) : HelpText where
  header := "The valid instructions are:"
  lines := kinds.map InstructionKind.usage

/-- The help text on all kinds. -/
def full : HelpText :=
  ofKinds InstructionKind.all

end HelpText

end Rover
