import Rover.Robot

/-!
# Settings

How a game looks on the console, and what a run in it costs.
-/

namespace Rover

/-- The settings of a game on the console. -/
structure Settings where
  /-- The name under which the robot speaks. -/
  robotName : String
  prompt : String
  /-- What goes before every entry of a list. -/
  itemIndent : String
  lineSeparator : String
  engine : EngineSettings
  deriving DecidableEq, Repr

/-- The settings of a game about which nothing is said. -/
def Settings.standard : Settings where
  robotName := "WALL·E"
  prompt := "WALL·E> "
  itemIndent := "   "
  lineSeparator := "\n"
  engine := .standard

end Rover
