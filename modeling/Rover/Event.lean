import Rover.City
import Rover.Instruction.Kind

/-!
# Events

What onlookers are told while a robot is at work.  An event comes from one of
three sources: the navigation, the engine or the inventory.
-/

namespace Rover

/-- Where an event comes from. -/
inductive Source where
  | navigation
  | engine
  | inventory
  deriving DecidableEq, Repr

/-- Something that onlookers are told. -/
inductive Event where
  /-- The robot has turned, or tried to. -/
  | headingChanged (heading : Direction)
  /-- The robot stands ready at a place. -/
  | navigationInitialized (place : PlaceView) (heading : Direction)
  /-- The place where the robot stands has gained or lost an item. -/
  | placeChanged (place : PlaceView)
  /-- The robot has looked about. -/
  | placeScanned (place : PlaceView)
  /-- The robot has come to a place, walking in a direction. -/
  | robotArrived (travel : Direction) (place : PlaceView)
  /-- The list of instructions is asked for. -/
  | helpRequested (help : HelpText)
  /-- The run is over, at the spaceship or for want of fuel. -/
  | engineShutDown (atSpaceship : Bool)
  /-- The run is over because it was given up. -/
  | communicationEnded
  /-- The robot has something to tell. -/
  | robotSpeaks (message : String)
  /-- An instruction or its undoing has failed. -/
  | errorRaised (message : String)
  /-- The counters as they stand now. -/
  | stateUpdated (fuel recycled : Quantity)
  /-- All that the robot carries now. -/
  | inventoryChanged (items : List Item)
  deriving DecidableEq, Repr

namespace Event

/-- Where an event comes from. -/
def source : Event → Source
  | .headingChanged _ => .navigation
  | .navigationInitialized _ _ => .navigation
  | .placeChanged _ => .navigation
  | .placeScanned _ => .navigation
  | .robotArrived _ _ => .navigation
  | .helpRequested _ => .engine
  | .engineShutDown _ => .engine
  | .communicationEnded => .engine
  | .robotSpeaks _ => .engine
  | .errorRaised _ => .engine
  | .stateUpdated _ _ => .engine
  | .inventoryChanged _ => .inventory

/-- Whether an event tells that the run is over. -/
def isTerminal : Event → Bool
  | .engineShutDown _ => true
  | .communicationEnded => true
  | _ => false

/-- The message of an error, if the event tells of one. -/
def error? : Event → Option String
  | .errorRaised message => some message
  | _ => none

/-- What the robot tells, if the event is that it does. -/
def speech? : Event → Option String
  | .robotSpeaks message => some message
  | _ => none

end Event

end Rover
