import Rover.Breakdown
import Rover.Inventory
import Rover.Navigation
import Rover.Robot

/-!
# Items at work

The world that an instruction works on: the counters of the robot, its place in
the city and the bag that it carries.  This module says what it does to the
world to use an item, and to take a use back.

A use is of the item at hand, which need not be in the bag: the item as the use
leaves it is part of the answer.  Taking back the use of a consumable hands one
use back: to the fuel cell in the bag if there is one under its key, and
otherwise by putting the item itself back into the bag.
-/

namespace Rover

/-- All that instructions change. -/
structure World where
  robot : Robot
  navigation : Navigation
  inventory : Bag

/-- The world and the item after a use or its taking back, and what onlookers are told. -/
structure ItemEffect where
  world : World
  item : Item
  events : List Event

namespace World

/-- The door ahead worked with a code card. -/
def swipe? (world : World) (item : Item) (code : String) : Option ItemEffect :=
  (world.navigation.toggleAhead? code).map fun navigation =>
    { world := { world with navigation }, item, events := [] }

/-- An item used, unless it has no use here and now. -/
def use (world : World) (item : Item) : Except Breakdown (Option ItemEffect) :=
  if item.isUsable then
    match item.kind with
    | .fuel power times => do
        let robot := world.robot.addFuel power
        let left ← afterTelling [robot.report] times.decrement
        return some
          { world := { world with robot }
            item := { item with kind := .fuel power left }
            events := [robot.report] }
    | .garbage material times => do
        let robot := world.robot.addRecycled material
        let left ← afterTelling [robot.report] times.decrement
        return some
          { world := { world with robot }
            item := { item with kind := .garbage material left }
            events := [robot.report] }
    | .codeCard code => return world.swipe? item code
    | .generic => return none
  else
    return none

/-- An item put back into the bag, and onlookers told of the bag. -/
def putBack (world : World) (item : Item) (events : List Event) : ItemEffect :=
  let inventory := world.inventory.add item
  { world := { world with inventory }, item, events := events ++ [inventory.changed] }

/-- The last use of an item taken back, unless there is nothing to take back. -/
def takeBack (world : World) (item : Item) : Except Breakdown (Option ItemEffect) :=
  match item.kind with
  | .fuel power times => do
      let loss ← afterTelling [] power.negate
      let robot := world.robot.addFuel loss
      let world := { world with robot }
      match world.inventory.find? item.id with
      | some { id, description, kind := .fuel heldPower heldTimes } => do
          let more ← afterTelling [robot.report] heldTimes.increment
          let held : Item := { id, description, kind := .fuel heldPower more }
          let inventory := world.inventory.adjust item.id fun _ => held
          return some { world := { world with inventory }, item, events := [robot.report] }
      | _ => do
          let more ← afterTelling [robot.report] times.increment
          return some (world.putBack { item with kind := .fuel power more } [robot.report])
  | .garbage material _ => do
      let loss ← afterTelling [] material.negate
      let robot := world.robot.addRecycled loss
      let world := { world with robot }
      return some (world.putBack { item with kind := .garbage material .one } [robot.report])
  | .codeCard code => return world.swipe? item code
  | .generic => return none

end World

end Rover
