import Rover.Compass

/-!
# Failures

An instruction or its undoing can fail.  A failure is told to the onlookers and
never ends a run.
-/

namespace Rover

/-- Why an instruction or its undoing failed. -/
inductive Failure where
  /-- No street leaves the place in the direction. -/
  | noStreet (direction : Direction)
  /-- The door of the street is shut. -/
  | streetClosed
  /-- Only what is carried can be dropped. -/
  | notCarrying (id : String)
  /-- A place has room for one item of a name. -/
  | alreadyAtPlace (id : String)
  /-- Only what lies at the place can be picked. -/
  | notAtPlace (id : String)
  /-- The robot has room for one item of a name. -/
  | alreadyCarrying (id : String)
  /-- The item has no use here and now. -/
  | cannotUse (id : String)
  /-- Only what is carried can be operated. -/
  | notInInventory (id : String)
  /-- Only what is carried can be described. -/
  | unknownItem (id : String)
  /-- There is nothing to list. -/
  | inventoryEmpty
  /-- Every instruction has been undone. -/
  | nothingToUndo
  /-- The use of an item cannot be taken back. -/
  | undoFailed (id : String)
  deriving DecidableEq, Repr

/-- The words in which the robot owns up to a failure. -/
def Failure.message : Failure → String
  | .noStreet direction => "There is no street in direction " ++ direction.name
  | .streetClosed => "Arrggg, there is a door but it is closed!"
  | .notCarrying id => "You do not have any " ++ id ++ "."
  | .alreadyAtPlace _ => "The item already exists in this place"
  | .notAtPlace id => "Ooops, this place has not the object " ++ id
  | .alreadyCarrying id => "I am stupid! I already have the object " ++ id
  | .cannotUse id => "I have problems using the object " ++ id
  | .notInInventory id => "I am stupid. I have not " ++ id
  | .unknownItem _ => "I have not such object"
  | .inventoryEmpty => "My inventory is empty"
  | .nothingToUndo => "No more instruction for Undo"
  | .undoFailed id => "I have problems using the object " ++ id

end Rover
