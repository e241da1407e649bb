import Rover.Proofs.Run
import Rover.Station

/-!
# Calls that fail

A call that fails changes nothing and tells the onlookers of the engine one
thing: why it failed.  An undo that fails takes its entry off the history all
the same.  A call that succeeds tells of no failure.
-/

namespace Rover

/-! ## Who is told -/

namespace Audience

/--
What is told of some events, event by event, to all who have signed up for its
source and are not held, in the order in which they signed up.
-/
def told (audience : Audience) (held : List Onlooker) (events : List Event) : List Notice :=
  events.flatMap fun event =>
    ((audience.of event.source).list.filter fun onlooker => onlooker ∉ held).map
      fun onlooker => ⟨onlooker, event⟩

theorem deliver_eq_told (audience : Audience) (held : List Onlooker) (events : List Event) :
    audience.deliver held events = audience.told held events := by
  refine congrArg (List.flatMap · events) (funext fun event => ?_)
  simp [notices, Onlookers.hearing]

end Audience

namespace Station

/-- The station after a failure: every onlooker of the engine who is not held is told why. -/
def toldWhy (station : Station) (held : List Onlooker) (failure : Failure) : Station :=
  { station with
    log := station.log ++
      (station.audience.engine.list.filter fun onlooker => onlooker ∉ held).map fun onlooker =>
        ⟨onlooker, .errorRaised failure.message⟩ }

theorem publish_rejected (station : Station) (held : List Onlooker) (engine : Engine)
    (failure : Failure) :
    station.publish held engine (engine.rejected failure).events =
      { station.toldWhy held failure with engine } := by
  have alone : station.audience.told held [.errorRaised failure.message] =
      (station.audience.engine.list.filter fun onlooker => onlooker ∉ held).map fun onlooker =>
        ⟨onlooker, .errorRaised failure.message⟩ :=
    List.flatMap_singleton _ _
  rw [publish, Engine.rejected, Audience.deliver_eq_told, alone]
  rfl

end Station

namespace World

/-- An instruction that succeeds tells of no failure. -/
theorem Performs.error?_events {world : World} {instruction : Instruction} {attempt : Attempt}
    (rule : Performs world instruction attempt) :
    ∀ event ∈ attempt.events, event.error? = none := by
  intro event told
  exact (tellsNoVerdict_iff.mp rule.tellsNoVerdict event told).1

/-- An undoing that succeeds tells of no failure. -/
theorem Retracts.error?_events {world : World} {instruction : Instruction} {attempt : Attempt}
    (rule : Retracts world instruction attempt) :
    ∀ event ∈ attempt.events, event.error? = none := by
  intro event told
  exact (tellsNoVerdict_iff.mp rule.tellsNoVerdict event told).1

end World

namespace Engine

theorem error?_farewell (engine : Engine) : engine.farewell.error? = none := by
  unfold farewell
  split
  · rfl
  · split <;> rfl

theorem error?_performed {engine : Engine} {instruction : Instruction} {attempt : Attempt}
    (rule : World.Performs engine.world instruction attempt) :
    ∀ event ∈ (engine.performed attempt).events, event.error? = none := by
  intro event told
  rcases List.mem_append.mp told with during | after
  · exact rule.error?_events event during
  · split at after
    · rw [List.mem_singleton.mp after]
      exact error?_farewell _
    · cases after

end Engine

namespace Station

variable {station next : Station} {held : List Onlooker}

theorem execute_failed (keyed : station.engine.world.IsKeyed) {instruction : Instruction}
    (failed : station.call held (.execute instruction) = .ok (some .failed, next)) :
    ∃ attempt failure, station.engine.world.execute instruction = .ok attempt ∧
      attempt.failure? = some failure ∧ next = station.toldWhy held failure := by
  rcases engine_call failed with ⟨answer, answered, outcome, rfl⟩
  rcases Engine.execute_cases keyed.inventory answered with
    ⟨failure, tried, rfl⟩ | ⟨attempt, rule, rfl⟩
  · exact ⟨_, failure, tried, rfl, station.publish_rejected held station.engine failure⟩
  · cases outcome

theorem undo_failed (keyed : station.engine.world.IsKeyed) {instruction : Instruction}
    {history : List Instruction} (latest : station.engine.history = instruction :: history)
    (failed : station.call held .undo = .ok (some .failed, next)) :
    ∃ attempt failure, station.engine.world.undo instruction = .ok attempt ∧
      attempt.failure? = some failure ∧
        next = { station.toldWhy held failure with
          engine := { station.engine with history } } := by
  rcases engine_call failed with ⟨answer, answered, outcome, rfl⟩
  rcases Engine.undo_cases keyed.inventory answered with
    ⟨nothing, -⟩ | ⟨last, rest, found, ⟨failure, tried, rfl⟩ | ⟨attempt, rule, rfl⟩⟩
  · rw [latest] at nothing
    cases nothing
  · rw [latest] at found
    cases found
    refine ⟨_, failure, tried, rfl, ?_⟩
    exact station.publish_rejected held { station.engine with history } failure
  · cases outcome

theorem undo_nothing (nothing : station.engine.history = []) :
    station.call held .undo = .ok (some .failed, station.toldWhy held .nothingToUndo) := by
  have answered : station.engine.undo = .ok (station.engine.rejected .nothingToUndo) := by
    rw [Engine.undo, nothing]
    rfl
  show (station.engine.undo >>= fun answer => pure (answer.outcome?,
    station.publish held answer.engine answer.events)) = _
  rw [answered]
  have told := station.publish_rejected held station.engine .nothingToUndo
  exact congrArg (fun reached => Except.ok (some Outcome.failed, reached)) told

theorem execute_executed (keyed : station.engine.world.IsKeyed) {instruction : Instruction}
    (executed : station.call held (.execute instruction) = .ok (some .executed, next)) :
    next.engine.history.length = station.engine.history.length + 1 ∧
      ∃ answer, station.engine.call (.execute instruction) = .ok answer ∧
        (∀ event ∈ answer.events, event.error? = none) ∧
        next.log = station.log ++ station.audience.told held answer.events := by
  rcases engine_call executed with ⟨answer, answered, outcome, rfl⟩
  have log := congrArg (station.log ++ ·) (station.audience.deliver_eq_told held answer.events)
  rcases Engine.execute_cases keyed.inventory answered with
    ⟨failure, tried, rfl⟩ | ⟨attempt, rule, rfl⟩
  · cases outcome
  · exact ⟨rfl, _, answered, Engine.error?_performed rule, log⟩

theorem undo_executed (keyed : station.engine.world.IsKeyed)
    (executed : station.call held .undo = .ok (some .executed, next)) :
    ∃ answer, station.engine.call .undo = .ok answer ∧
      (∀ event ∈ answer.events, event.error? = none) ∧
      next.log = station.log ++ station.audience.told held answer.events := by
  rcases engine_call executed with ⟨answer, answered, outcome, rfl⟩
  have log := congrArg (station.log ++ ·) (station.audience.deliver_eq_told held answer.events)
  rcases Engine.undo_cases keyed.inventory answered with
    ⟨-, rfl⟩ | ⟨last, rest, found, ⟨failure, tried, rfl⟩ | ⟨attempt, rule, rfl⟩⟩
  · cases outcome
  · cases outcome
  · exact ⟨_, answered, rule.error?_events, log⟩

/--
A call that fails leaves the engine as it was, but for the entry that a failed
undo takes off the history, and all it tells is the reason, to every onlooker of
the engine who is not held.  A call that succeeds raises no failure, and to carry
out an instruction makes the history longer by one.
-/
theorem failed_calls_change_nothing (station next : Station) (held : List Onlooker)
    (keyed : station.engine.world.IsKeyed) :
    (∀ instruction, station.call held (.execute instruction) = .ok (some .failed, next) →
      ∃ attempt failure, station.engine.world.execute instruction = .ok attempt ∧
        attempt.failure? = some failure ∧ next = station.toldWhy held failure) ∧
    (∀ instruction history, station.engine.history = instruction :: history →
      station.call held .undo = .ok (some .failed, next) →
      ∃ attempt failure, station.engine.world.undo instruction = .ok attempt ∧
        attempt.failure? = some failure ∧
          next = { station.toldWhy held failure with
            engine := { station.engine with history } }) ∧
    (station.engine.history = [] →
      station.call held .undo = .ok (some .failed, station.toldWhy held .nothingToUndo)) ∧
    (∀ instruction, station.call held (.execute instruction) = .ok (some .executed, next) →
      next.engine.history.length = station.engine.history.length + 1 ∧
        ∃ answer, station.engine.call (.execute instruction) = .ok answer ∧
          (∀ event ∈ answer.events, event.error? = none) ∧
          next.log = station.log ++ station.audience.told held answer.events) ∧
    (station.call held .undo = .ok (some .executed, next) →
      ∃ answer, station.engine.call .undo = .ok answer ∧
        (∀ event ∈ answer.events, event.error? = none) ∧
        next.log = station.log ++ station.audience.told held answer.events) := by
  refine ⟨?_, ?_, undo_nothing, ?_, undo_executed keyed⟩
  · intro instruction failed
    exact execute_failed keyed failed
  · intro instruction history latest failed
    exact undo_failed keyed latest failed
  · intro instruction executed
    exact execute_executed keyed executed

/-- A watched robot in an empty yard, which has dropped a cell elsewhere. -/
def bareYard : Station where
  engine :=
    { world :=
        { robot := .fresh .standard
          navigation := ⟨⟨[⟨"Yard", "A bare yard", false, .empty⟩], []⟩, 0, .north, by decide⟩
          inventory := .empty }
      history := [.drop "cell"] }
  audience := Audience.nobody.addEverywhere 0
  log := []

theorem bareYard_isKeyed : bareYard.engine.world.IsKeyed where
  places := by
    intro place member
    rw [List.mem_singleton.mp member]
    exact Bag.isKeyed_empty
  inventory := Bag.isKeyed_empty

/-- The yard with two more who look on. -/
def busyYard : Station :=
  ((bareYard.watch .inventory 1).watch .engine 1).watch .engine 2

/--
Nothing is there to be picked up again.  The failure takes the entry off the history,
and the two who look at the engine and are not held are told of it.
-/
theorem failed_undo_in_busyYard :
    busyYard.engine.world.IsKeyed ∧
      ∃ next, busyYard.call [1] .undo = .ok (some .failed, next) ∧
        next.engine = { busyYard.engine with history := [] } ∧
        next.log = [⟨0, .errorRaised (Failure.notAtPlace "cell").message⟩,
          ⟨2, .errorRaised (Failure.notAtPlace "cell").message⟩] := by
  have ⟨next, failed⟩ : ∃ next, busyYard.call [1] .undo = .ok (some .failed, next) := ⟨_, rfl⟩
  rcases (failed_calls_change_nothing busyYard next [1] bareYard_isKeyed).2.1 (.drop "cell") []
    rfl failed with ⟨attempt, failure, tried, why, rfl⟩
  refine ⟨bareYard_isKeyed, _, failed, rfl, ?_⟩
  cases tried
  cases why
  rfl

end Station

end Rover
