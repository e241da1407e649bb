import Rover.City
import Rover.Instruction.Kind
import Rover.Json.Parser
import Rover.Settings

/-!
# Values as JSON

How the values of the library are written as JSON, and read back.  A record is
written as an object; it is read from an object with its fields in any order
and others among them, or from an array of its fields.  Settings may leave
fields out; those keep their standard values.
-/

namespace Rover

/-! ## Headings and turns -/

/-- A direction as JSON. -/
def Direction.toJson : Direction → Json
  | .north => .string "North"
  | .east => .string "East"
  | .south => .string "South"
  | .west => .string "West"
  | .unknown => .string "Unknown"

/-- The direction that a JSON value is. -/
def Direction.ofJson? (json : Json) : Option Direction :=
  match json.plainVariant? with
  | some "North" => some .north
  | some "East" => some .east
  | some "South" => some .south
  | some "West" => some .west
  | some "Unknown" => some .unknown
  | _ => none

/-- A turn as JSON. -/
def Rotation.toJson : Rotation → Json
  | .left => .string "Left"
  | .right => .string "Right"
  | .unknown => .string "Unknown"

/-- The turn that a JSON value is. -/
def Rotation.ofJson? (json : Json) : Option Rotation :=
  match json.plainVariant? with
  | some "Left" => some .left
  | some "Right" => some .right
  | some "Unknown" => some .unknown
  | _ => none

/-! ## Numbers and lists -/

/-- A quantity as JSON. -/
def Quantity.toJson (quantity : Quantity) : Json :=
  .integer quantity.value

/-- The number of a place as JSON. -/
def PlaceId.toJson (place : PlaceId) : Json :=
  .integer (.ofNat place)

/-- A list of texts as JSON. -/
def Json.ofTexts (texts : List String) : Json :=
  .array (texts.map Json.string)

/-! ## Cities and items -/

/-- The view of a place as JSON. -/
def PlaceView.toJson (view : PlaceView) : Json :=
  .record
    [("name", .string view.name), ("description", .string view.description),
      ("is_spaceship", .boolean view.isSpaceship), ("items", .ofTexts view.items)]

/-- The view of a place that a JSON value is. -/
def PlaceView.ofJson? (json : Json) : Option PlaceView := do
  let [some name, some description, some isSpaceship, some items] ←
    json.fields? ["name", "description", "is_spaceship", "items"] | none
  some
    { name := ← name.text?
      description := ← description.text?
      isSpaceship := ← isSpaceship.boolean?
      items := ← items.texts? }

/-- A street as JSON. -/
def Street.toJson (street : Street) : Json :=
  .record
    [("source", PlaceId.toJson street.source), ("direction", street.direction.toJson),
      ("target", PlaceId.toJson street.target), ("open", .boolean street.isOpen),
      ("code", .string street.code)]

/-- The street that a JSON value is. -/
def Street.ofJson? (json : Json) : Option Street := do
  let [some source, some direction, some target, some isOpen, some code] ←
    json.fields? ["source", "direction", "target", "open", "code"] | none
  some
    { source := ← source.index?
      direction := ← Direction.ofJson? direction
      target := ← target.index?
      isOpen := ← isOpen.boolean?
      code := ← code.text? }

/-- The kind of an item as JSON. -/
def ItemKind.toJson : ItemKind → Json
  | .fuel power times =>
      .record [("Fuel", .record [("power", power.toJson), ("times", times.toJson)])]
  | .garbage material times =>
      .record
        [("Garbage", .record [("recycled_material", material.toJson), ("times", times.toJson)])]
  | .codeCard code => .record [("CodeCard", .record [("code", .string code)])]
  | .generic => .string "Generic"

/-- The kind of an item that a JSON value is. -/
def ItemKind.ofJson? (json : Json) : Option ItemKind :=
  match json.variant? with
  | some ("Fuel", some payload) => do
      let [some power, some times] ← payload.fields? ["power", "times"] | none
      some (.fuel (← power.quantity?) (← times.quantity?))
  | some ("Garbage", some payload) => do
      let [some material, some times] ← payload.fields? ["recycled_material", "times"] | none
      some (.garbage (← material.quantity?) (← times.quantity?))
  | some ("CodeCard", some payload) => do
      let [some code] ← payload.fields? ["code"] | none
      some (.codeCard (← code.text?))
  | some ("Generic", none) => some .generic
  | some ("Generic", some .null) => some .generic
  | _ => none

/-- An item as JSON. -/
def Item.toJson (item : Item) : Json :=
  .record
    [("id", .string item.id), ("description", .string item.description),
      ("kind", item.kind.toJson)]

/-- The item that a JSON value is. -/
def Item.ofJson? (json : Json) : Option Item := do
  let [some id, some description, some kind] ←
    json.fields? ["id", "description", "kind"] | none
  some
    { id := ← id.text?
      description := ← description.text?
      kind := ← ItemKind.ofJson? kind }

/-- A help text as JSON. -/
def HelpText.toJson (help : HelpText) : Json :=
  .record [("header", .string help.header), ("lines", .ofTexts help.lines)]

/-- The help text that a JSON value is. -/
def HelpText.ofJson? (json : Json) : Option HelpText := do
  let [some header, some lines] ← json.fields? ["header", "lines"] | none
  some { header := ← header.text?, lines := ← lines.texts? }

/-! ## Settings -/

/-- What an optional value is read as, or a standard value where there is none. -/
def Json.orElse {α : Type} (read? : Json → Option α) (standard : α) : Option Json → Option α
  | some json => read? json
  | none => some standard

/-- The settings of an engine as JSON. -/
def EngineSettings.toJson (settings : EngineSettings) : Json :=
  .record
    [("initial_fuel", settings.initialFuel.toJson), ("move_cost", settings.moveCost.toJson),
      ("turn_cost", settings.turnCost.toJson)]

/-- The settings of an engine that a JSON value is; what it leaves out is standard. -/
def EngineSettings.ofJson? (json : Json) : Option EngineSettings := do
  let [initialFuel, moveCost, turnCost] ←
    json.fields? ["initial_fuel", "move_cost", "turn_cost"] | none
  some
    { initialFuel := ← Json.orElse Json.quantity? standard.initialFuel initialFuel
      moveCost := ← Json.orElse Json.quantity? standard.moveCost moveCost
      turnCost := ← Json.orElse Json.quantity? standard.turnCost turnCost }

/-- The settings of a game as JSON. -/
def Settings.toJson (settings : Settings) : Json :=
  .record
    [("robot_name", .string settings.robotName), ("prompt", .string settings.prompt),
      ("item_indent", .string settings.itemIndent),
      ("line_separator", .string settings.lineSeparator), ("engine", settings.engine.toJson)]

/-- The settings of a game that a JSON value is; what it leaves out is standard. -/
def Settings.ofJson? (json : Json) : Option Settings := do
  let [robotName, prompt, itemIndent, lineSeparator, engine] ←
    json.fields? ["robot_name", "prompt", "item_indent", "line_separator", "engine"] | none
  some
    { robotName := ← Json.orElse Json.text? standard.robotName robotName
      prompt := ← Json.orElse Json.text? standard.prompt prompt
      itemIndent := ← Json.orElse Json.text? standard.itemIndent itemIndent
      lineSeparator := ← Json.orElse Json.text? standard.lineSeparator lineSeparator
      engine := ← Json.orElse EngineSettings.ofJson? standard.engine engine }

end Rover
