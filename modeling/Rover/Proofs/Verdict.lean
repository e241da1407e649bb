import Rover.Engine
import Rover.Proofs.Attempt

/-!
# Verdicts

The engine has the last word on a call: it tells onlookers that the call failed
or that the run is over.  Those verdicts come from the engine alone; neither an
instruction at work nor its undoing tells of any.  So the answer to a call is
an attempt with verdicts behind it, and that holds of all engines, keyed or not.
-/

namespace Rover

/-- Whether an event tells that a call failed or that the run is over. -/
def Event.isVerdict (event : Event) : Bool :=
  event.error?.isSome || event.isTerminal

/-- Some events of which none is a verdict. -/
def TellsNoVerdict (events : List Event) : Prop :=
  events.filter Event.isVerdict = []

theorem tellsNoVerdict_iff {events : List Event} :
    TellsNoVerdict events ↔
      ∀ event ∈ events, event.error? = none ∧ event.isTerminal = false := by
  simp [TellsNoVerdict, Event.isVerdict, List.filter_eq_nil_iff]

theorem TellsNoVerdict.append {first second : List Event} (earlier : TellsNoVerdict first)
    (later : TellsNoVerdict second) : TellsNoVerdict (first ++ second) := by
  rw [TellsNoVerdict, List.filter_append, earlier, later]
  rfl

/-! ## Attempts -/

namespace World

variable {world : World} {item : Item} {effect : ItemEffect} {instruction : Instruction}
  {attempt : Attempt}

theorem UseOf.tellsNoVerdict (rule : UseOf world item effect) : TellsNoVerdict effect.events := by
  cases rule <;> rfl

theorem ReturnOf.tellsNoVerdict (rule : ReturnOf world item effect) :
    TellsNoVerdict effect.events := by
  cases rule <;> rfl

theorem Performs.tellsNoVerdict (rule : Performs world instruction attempt) :
    TellsNoVerdict attempt.events := by
  cases rule with
  | operate found rule =>
      apply rule.tellsNoVerdict.append
      split <;> rfl
  | _ => rfl

theorem Retracts.tellsNoVerdict (rule : Retracts world instruction attempt) :
    TellsNoVerdict attempt.events := by
  cases rule with
  | operate rule => exact rule.tellsNoVerdict
  | _ => rfl

theorem tellsNoVerdict_execute (done : world.execute instruction = .ok attempt) :
    TellsNoVerdict attempt.events := by
  rcases execute_cases_of_any done with ⟨failure, rfl⟩ | rule | ⟨found, different⟩
  · rfl
  · exact rule.tellsNoVerdict
  · rfl

theorem tellsNoVerdict_undo (done : world.undo instruction = .ok attempt) :
    TellsNoVerdict attempt.events := by
  rcases undo_cases_of_any done with ⟨failure, rfl⟩ | rule | ⟨found, different⟩
  · rfl
  · exact rule.tellsNoVerdict
  · rfl

/-- An attempt that comes to a failure leaves the world as it was. -/
theorem eq_of_failure_of_execute {failure : Failure}
    (done : world.execute instruction = .ok attempt) (failed : attempt.failure? = some failure) :
    attempt.world = world := by
  rcases execute_cases_of_any done with ⟨failure, rfl⟩ | rule | ⟨found, different⟩
  · rfl
  · cases rule <;> cases failed
  · cases failed

end World

/-! ## Answers -/

namespace Engine

/-- The answer to a call that failed, with the engine as it is afterwards. -/
def rejected (engine : Engine) (failure : Failure) : Answer where
  outcome? := some .failed
  engine := engine
  events := [.errorRaised failure.message]

/-- The answer to an instruction that succeeded. -/
def performed (engine : Engine) (attempt : Attempt) : Answer :=
  let next : Engine :=
    { world := attempt.world, history := attempt.instruction :: engine.history }
  { outcome? := some .executed
    engine := next
    events := attempt.events ++ if next.isOver then [next.farewell] else [] }

theorem isTerminal_farewell (engine : Engine) : engine.farewell.isTerminal = true := by
  rw [farewell]
  split
  · rfl
  · split <;> rfl

theorem isVerdict_farewell (engine : Engine) : engine.farewell.isVerdict = true := by
  rw [Event.isVerdict, isTerminal_farewell, Bool.or_true]

/-- An answer leaves a world and tells of some events, with verdicts behind them. -/
structure Reports (answer : Answer) (world : World) (events : List Event) : Prop where
  world : answer.engine.world = world
  events : ∃ verdicts, answer.events = events ++ verdicts ∧
    ∀ event ∈ verdicts, event.isVerdict = true

variable {engine : Engine} {instruction : Instruction} {answer : Answer}

theorem Reports.of_failure {world : World} {events : List Event} {message : String}
    (left : answer.engine.world = world)
    (told : answer.events = events ++ [.errorRaised message]) : Reports answer world events := by
  refine ⟨left, [.errorRaised message], told, ?_⟩
  intro event member
  rw [List.mem_singleton.mp member]
  rfl

theorem reports_performed (engine : Engine) (attempt : Attempt) :
    Reports (engine.performed attempt) attempt.world attempt.events := by
  refine ⟨rfl, _, rfl, ?_⟩
  intro event member
  split at member
  · rw [List.mem_singleton.mp member]
    exact isVerdict_farewell _
  · cases member

/-- An instruction fails and is told to have failed, or the engine answers that it performed it. -/
theorem execute_answers (done : engine.execute instruction = .ok answer) :
    ∃ attempt, engine.world.execute instruction = .ok attempt ∧
      ((∃ failure, attempt.failure? = some failure ∧ answer.outcome? = some .failed ∧
          answer.engine = { engine with world := attempt.world } ∧
            answer.events = attempt.events ++ [.errorRaised failure.message]) ∨
        answer = engine.performed attempt) := by
  rcases bind_eq_ok_iff.mp done with ⟨attempt, tried, told⟩
  refine ⟨attempt, tried, ?_⟩
  split at told
  · rename_i failure failed
    cases told
    exact Or.inl ⟨failure, failed, rfl, rfl, rfl⟩
  · cases told
    exact Or.inr rfl

theorem execute_reports (done : engine.execute instruction = .ok answer) :
    ∃ attempt, engine.world.execute instruction = .ok attempt ∧
      Reports answer attempt.world attempt.events := by
  rcases execute_answers done with ⟨attempt, tried, ⟨failure, -, -, left, told⟩ | rfl⟩
  · exact ⟨attempt, tried, .of_failure (congrArg Engine.world left) told⟩
  · exact ⟨attempt, tried, engine.reports_performed attempt⟩

theorem undo_answers (done : engine.undo = .ok answer) :
    (answer.engine = engine ∧ answer.events = [.errorRaised Failure.nothingToUndo.message]) ∨
      ∃ instruction attempt, engine.world.undo instruction = .ok attempt ∧
        answer.engine.world = attempt.world ∧
          (answer.events = attempt.events ∨
            ∃ failure : Failure,
              answer.events = attempt.events ++ [.errorRaised failure.message]) := by
  rw [undo] at done
  split at done
  · cases done
    exact Or.inl ⟨rfl, rfl⟩
  · rename_i instruction history latest
    rcases bind_eq_ok_iff.mp done with ⟨attempt, tried, told⟩
    refine Or.inr ⟨instruction, attempt, tried, ?_⟩
    split at told
    · rename_i failure failed
      cases told
      exact ⟨rfl, Or.inr ⟨failure, rfl⟩⟩
    · cases told
      exact ⟨rfl, Or.inl rfl⟩

theorem undo_reports (done : engine.undo = .ok answer) :
    Reports answer engine.world [] ∨
      ∃ instruction attempt, engine.world.undo instruction = .ok attempt ∧
        Reports answer attempt.world attempt.events := by
  rcases undo_answers done with
    ⟨same, told⟩ | ⟨instruction, attempt, tried, left, told | ⟨failure, told⟩⟩
  · exact Or.inl (.of_failure (congrArg Engine.world same) told)
  · refine Or.inr ⟨instruction, attempt, tried, left, [], ?_, ?_⟩
    · rw [told, List.append_nil]
    · intro event member
      cases member
  · exact Or.inr ⟨instruction, attempt, tried, .of_failure left told⟩

end Engine

end Rover
