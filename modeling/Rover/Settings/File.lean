import Rover.Atlas.Error
import Rover.Settings
import Rover.Text.Bytes
import Rover.Yaml.Node

/-!
# Files of settings

Reads settings from a YAML file.  What the file does not mention keeps its
standard value, and what it mentions beyond the settings does not matter; but
no setting may be given twice.
-/

namespace Rover

/-- Why settings cannot be had from a file. -/
inductive SettingsError where
  | unreadable (failure : ReadFailure)
  | malformed
  deriving DecidableEq, Repr

/-- The words in which it is told that settings cannot be had. -/
def SettingsError.message : SettingsError → String
  | .unreadable _ => "Failed to read config"
  | .malformed => "Failed to parse config"

namespace Yaml.Node

/-- The text that a scalar is, however it is written. -/
def text? : Node → Option String
  | .scalar _ text => some text
  | _ => none

/-- The quantity that a plain scalar is. -/
def quantity? : Node → Option Quantity
  | .scalar true text => (whole? text.toList).bind Quantity.ofInt?
  | _ => none

/-- The entries of a mapping with scalars for keys; nothing at all counts as one without entries. -/
def entries? : Node → Option (List (String × Node))
  | .scalar true "" => some []
  | .mapping entries => entries.mapM fun entry => entry.1.text?.map fun key => (key, entry.2)
  | _ => none

/-- The value under a key, or a standard one where there is none; two are an error. -/
def field? {α : Type} (entries : List (String × Node)) (key : String)
    (read? : Node → Option α) (standard : α) : Option α :=
  match entries.filter fun entry => entry.1 == key with
  | [] => some standard
  | [entry] => read? entry.2
  | _ => none

end Yaml.Node

open Yaml

/-- The settings of an engine that a node is. -/
def EngineSettings.ofNode? (node : Node) : Option EngineSettings := do
  let entries ← node.entries?
  some
    { initialFuel := ← Node.field? entries "initial_fuel" Node.quantity? standard.initialFuel
      moveCost := ← Node.field? entries "move_cost" Node.quantity? standard.moveCost
      turnCost := ← Node.field? entries "turn_cost" Node.quantity? standard.turnCost }

/-- The settings of a game that a node is. -/
def Settings.ofNode? (node : Node) : Option Settings := do
  let entries ← node.entries?
  some
    { robotName := ← Node.field? entries "robot_name" Node.text? standard.robotName
      prompt := ← Node.field? entries "prompt" Node.text? standard.prompt
      itemIndent := ← Node.field? entries "item_indent" Node.text? standard.itemIndent
      lineSeparator := ← Node.field? entries "line_separator" Node.text? standard.lineSeparator
      engine := ← Node.field? entries "engine" EngineSettings.ofNode? standard.engine }

/-- The settings that a file holds, given its bytes or why they cannot be had. -/
def Settings.ofFile (file : Except ReadFailure (List UInt8)) : Except SettingsError Settings :=
  match file with
  | .error failure => .error (.unreadable failure)
  | .ok bytes =>
      match Text.decode? bytes with
      | none => .error (.unreadable .notText)
      | some text =>
          match (Node.ofText? text).bind Settings.ofNode? with
          | some settings => .ok settings
          | none => .error .malformed

/-- The settings of a file if there is one, and standard settings otherwise. -/
def Settings.ofFile? (file? : Option (Except ReadFailure (List UInt8))) :
    Except SettingsError Settings :=
  match file? with
  | some file => ofFile file
  | none => .ok standard

end Rover
