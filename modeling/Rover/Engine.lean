import Rover.Instruction.Execution

/-!
# The engine

Carries out instructions one after the other, keeps those that succeeded so
that they can be undone from the last one backwards, and tells onlookers when a
run is over.

A run is over when the robot is at a spaceship, has no fuel left or has given
up.  Only an instruction that succeeded can announce that; an undo never does,
and it uses up its entry of the history even if it fails.
-/

namespace Rover

/-- Whether the engine did what it was asked. -/
inductive Outcome where
  | executed
  /-- Onlookers have been told why. -/
  | failed
  deriving DecidableEq, Repr

/-- A world, and the instructions that have led to it, latest first. -/
structure Engine where
  world : World
  history : List Instruction

/-- The engine after a call, what the call came to, and the events it raised in order. -/
structure Answer where
  outcome? : Option Outcome
  engine : Engine
  events : List Event

namespace Engine

/-- An engine at the start of a run in a city. -/
def start (city : City) (place : PlaceId) (heading : Direction) (settings : EngineSettings) :
    Except Fault Engine := do
  let navigation ← Navigation.start city place heading
  return { world := ⟨Robot.fresh settings, navigation, .empty⟩, history := [] }

/-- Whether the run is over. -/
def isOver (engine : Engine) : Bool :=
  decide (engine.world.robot.fuel.value ≤ 0) || engine.world.navigation.atSpaceship ||
    engine.world.robot.quitRequested

/--
The announcement that a run is over.  A spaceship goes before an empty tank,
and an empty tank before giving up.
-/
def farewell (engine : Engine) : Event :=
  if engine.world.navigation.atSpaceship then
    .engineShutDown true
  else if engine.world.robot.fuel.value ≤ 0 then
    .engineShutDown false
  else
    .communicationEnded

/-- An instruction carried out, kept if it succeeded and told to onlookers if it failed. -/
def execute (engine : Engine) (instruction : Instruction) : Except Breakdown Answer := do
  let attempt ← engine.world.execute instruction
  match attempt.failure? with
  | some failure =>
      return {
        outcome? := some .failed
        engine := { engine with world := attempt.world }
        events := attempt.events ++ [.errorRaised failure.message] }
  | none =>
      let engine : Engine :=
        { world := attempt.world, history := attempt.instruction :: engine.history }
      return {
        outcome? := some .executed
        engine
        events := attempt.events ++ if engine.isOver then [engine.farewell] else [] }

/-- The last instruction of the history undone and taken off the history. -/
def undo (engine : Engine) : Except Breakdown Answer :=
  match engine.history with
  | [] =>
      return {
        outcome? := some .failed
        engine
        events := [.errorRaised Failure.nothingToUndo.message] }
  | instruction :: history => do
      let attempt ← engine.world.undo instruction
      match attempt.failure? with
      | some failure =>
          return {
            outcome? := some .failed
            engine := { world := attempt.world, history }
            events := attempt.events ++ [.errorRaised failure.message] }
      | none =>
          return {
            outcome? := some .executed
            engine := { world := attempt.world, history }
            events := attempt.events }

/-- An engine with its counters changed. -/
def withRobot (engine : Engine) (robot : Robot) : Engine :=
  { engine with world := { engine.world with robot } }

/-- What an engine can be asked to do. -/
inductive Call where
  | execute (instruction : Instruction)
  | undo
  /-- Begin a run, or another one. -/
  | start
  /-- Tell onlookers where the robot is. -/
  | initNavigation
  /-- Tell onlookers what the robot carries and how its counters stand. -/
  | initInventory
  | addFuel (amount : Quantity)
  | setFuel (amount : Quantity)
  | addRecycled (amount : Quantity)
  | setRecycled (amount : Quantity)
  | requestQuit
  | requestHelp
  | say (message : String)
  | raiseError (message : String)
  deriving DecidableEq, Repr

/-- The counters changed and told to onlookers. -/
def retune (engine : Engine) (robot : Robot) : Answer :=
  { outcome? := none, engine := engine.withRobot robot, events := [robot.report] }

/-- Onlookers told something, and nothing changed. -/
def tell (engine : Engine) (events : List Event) : Answer :=
  { outcome? := none, engine, events }

/-- The answer of an engine to a call. -/
def call (engine : Engine) : Call → Except Breakdown Answer
  | .execute instruction => engine.execute instruction
  | .undo => engine.undo
  | .start => return engine.retune engine.world.robot.restart
  | .initNavigation => return engine.tell [engine.world.navigation.readied]
  | .initInventory =>
      return engine.tell [engine.world.inventory.changed, engine.world.robot.report]
  | .addFuel amount => return engine.retune (engine.world.robot.addFuel amount)
  | .setFuel amount => return engine.retune (engine.world.robot.setFuel amount)
  | .addRecycled amount => return engine.retune (engine.world.robot.addRecycled amount)
  | .setRecycled amount => return engine.retune (engine.world.robot.setRecycled amount)
  | .requestQuit =>
      return { outcome? := none, engine := engine.withRobot engine.world.robot.quit, events := [] }
  | .requestHelp => return engine.tell [.helpRequested .full]
  | .say message => return engine.tell [.robotSpeaks message]
  | .raiseError message => return engine.tell [.errorRaised message]

/--
The engine after some calls, one after the other, and all the events that they
raised.  A breakdown tells the events of its own call only.
-/
def run (engine : Engine) : List Call → Except Breakdown (Engine × List Event)
  | [] => return (engine, [])
  | request :: rest => do
      let answer ← engine.call request
      let (last, events) ← answer.engine.run rest
      return (last, answer.events ++ events)

end Engine

end Rover
