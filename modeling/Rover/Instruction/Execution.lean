import Rover.Instruction
import Rover.World

/-!
# Instructions at work

What every instruction does to the world, and what undoing it does.  An attempt
tells the world it leaves behind, the instruction with what it remembers now,
the events in the order in which onlookers are told them, and the failure if
there was one.  Onlookers are told of a walk or a turn before its price is
worked out.

To pick and to drop are each other's undoing.  Undoing a move walks back along
the street behind the robot without turning round.
-/

namespace Rover

/-- The outcome of carrying out an instruction, or of undoing one. -/
structure Attempt where
  world : World
  instruction : Instruction
  events : List Event
  failure? : Option Failure

namespace World

/-- An attempt that failed: nothing has changed and onlookers have not been told anything. -/
def fails (world : World) (instruction : Instruction) (failure : Failure) : Attempt :=
  { world, instruction, events := [], failure? := some failure }

/-- An attempt that did what the instruction says. -/
def succeeds (world : World) (instruction : Instruction) (events : List Event) : Attempt :=
  { world, instruction, events, failure? := none }

/-- The robot walked in a direction, at a price that is added to its fuel. -/
def walk (world : World) (instruction : Instruction) (direction : Direction)
    (price : Except Fault Quantity) : Except Breakdown Attempt := do
  match ← afterTelling [] (world.navigation.walk direction) with
  | .error failure => return world.fails instruction failure
  | .ok navigation =>
      let amount ← afterTelling [navigation.arrived direction] price
      let robot := world.robot.addFuel amount
      return { world with robot, navigation }.succeeds instruction
        [navigation.arrived direction, robot.report]

/-- The robot turned, at a price that is added to its fuel. -/
def turn (world : World) (instruction : Instruction) (rotation : Rotation)
    (price : Except Fault Quantity) : Except Breakdown Attempt := do
  let navigation := world.navigation.rotate rotation
  let amount ← afterTelling [navigation.turned] price
  let robot := world.robot.addFuel amount
  return { world with robot, navigation }.succeeds instruction
    [navigation.turned, robot.report]

/-- An item moved from the place into the bag. -/
def pick (world : World) (instruction : Instruction) (id : String) : Attempt :=
  match world.navigation.take? id with
  | none => world.fails instruction (.notAtPlace id)
  | some (item, navigation) =>
      if world.inventory.contains id then
        world.fails instruction (.alreadyCarrying id)
      else
        let inventory := world.inventory.add item
        { world with navigation, inventory }.succeeds instruction
          [inventory.changed, navigation.changed, .robotSpeaks ("I am happy! Now I have " ++ id)]

/-- An item moved from the bag to the place. -/
def drop (world : World) (instruction : Instruction) (id : String) : Attempt :=
  match world.inventory.find? id with
  | none => world.fails instruction (.notCarrying id)
  | some item =>
      if world.navigation.holds id then
        world.fails instruction (.alreadyAtPlace id)
      else
        let inventory := world.inventory.remove id
        let speech := Event.robotSpeaks ("Great! I have dropped " ++ item.id)
        match world.navigation.lay? item with
        | some navigation =>
            { world with navigation, inventory }.succeeds instruction
              [navigation.changed, inventory.changed, speech]
        | none =>
            { world with inventory }.succeeds instruction [inventory.changed, speech]

/-- A carried item used; one that can no longer be used leaves the bag. -/
def operate (world : World) (id : String) (used : Option Item) : Except Breakdown Attempt :=
  let instruction := Instruction.operate id used
  match world.inventory.find? id with
  | none => return world.fails instruction (.notInInventory id)
  | some item => do
      match ← world.use item with
      | none => return world.fails instruction (.cannotUse id)
      | some effect =>
          let inventory := effect.world.inventory.adjust id fun _ => effect.item
          match inventory.consume? id with
          | none =>
              return { effect.world with inventory }.succeeds
                (.operate id (some effect.item)) effect.events
          | some (spent, rest) =>
              return { effect.world with inventory := rest }.succeeds
                (.operate id (some spent))
                (effect.events ++
                  [Event.robotSpeaks ("What a pity! I have no more " ++ id ++ " in my inventory"),
                    rest.changed])

/-- The use of an item taken back. -/
def operateBack (world : World) (id : String) (used : Option Item) :
    Except Breakdown Attempt :=
  let instruction := Instruction.operate id used
  match used with
  | none => return world.fails instruction (.undoFailed id)
  | some item => do
      match ← world.takeBack item with
      | none => return world.fails instruction (.undoFailed id)
      | some effect => return effect.world.succeeds (.operate id none) effect.events

/-- A carried item described, or all of them named. -/
def scan (world : World) (instruction : Instruction) : Option String → Attempt
  | some id =>
      match world.inventory.find? id with
      | none => world.fails instruction (.unknownItem id)
      | some item =>
          world.succeeds instruction [.robotSpeaks (item.id ++ ": " ++ item.text)]
  | none =>
      if world.inventory.isEmpty then
        world.fails instruction .inventoryEmpty
      else
        world.succeeds instruction
          [.robotSpeaks ("I am carrying the following items: " ++ world.inventory.text)]

/-- An instruction carried out. -/
def execute (world : World) (instruction : Instruction) : Except Breakdown Attempt :=
  match instruction with
  | .move =>
      world.walk instruction world.navigation.heading world.robot.settings.moveCost.negate
  | .turn rotation =>
      world.turn instruction rotation world.robot.settings.turnCost.negate
  | .pick id => return world.pick instruction id
  | .drop id => return world.drop instruction id
  | .operate id used => world.operate id used
  | .scan id => return world.scan instruction id
  | .radar => return world.succeeds instruction [world.navigation.scanned]
  | .help => return world.succeeds instruction [.helpRequested .full]
  | .quit => return { world with robot := world.robot.quit }.succeeds instruction []

/-- An instruction undone. -/
def undo (world : World) (instruction : Instruction) : Except Breakdown Attempt :=
  match instruction with
  | .move =>
      world.walk instruction world.navigation.heading.opposite
        (.ok world.robot.settings.moveCost)
  | .turn rotation =>
      world.turn instruction rotation.opposite (.ok world.robot.settings.turnCost)
  | .pick id => return world.drop instruction id
  | .drop id => return world.pick instruction id
  | .operate id used => world.operateBack id used
  | .scan _ => return world.succeeds instruction []
  | .radar => return world.succeeds instruction []
  | .help => return world.succeeds instruction []
  | .quit => return world.succeeds instruction []

end World

end Rover
