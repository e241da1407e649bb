import Rover.Proofs.Draft
import Rover.Proofs.Kept
import Rover.Proofs.Verdict

/-!
# Runs of an engine

What a call to an engine comes to, said with the rules of instructions, and the
induction by which what every call keeps is kept by a run.  A run that only
plays carries out fresh instructions and undoes them.
-/

namespace Rover.Engine

/-- The answer to an undoing that succeeded, with what is left of the history. -/
def retracted (history : List Instruction) (attempt : Attempt) : Answer where
  outcome? := some .executed
  engine := { world := attempt.world, history }
  events := attempt.events

theorem performs_failure? {world : World} {instruction : Instruction} {attempt : Attempt}
    (rule : World.Performs world instruction attempt) : attempt.failure? = none := by
  cases rule <;> rfl

theorem retracts_failure? {world : World} {instruction : Instruction} {attempt : Attempt}
    (rule : World.Retracts world instruction attempt) : attempt.failure? = none := by
  cases rule <;> rfl

theorem mislays_failure? {world : World} {instruction : Instruction} {attempt : Attempt}
    (mislays : World.Mislays world instruction attempt) : attempt.failure? = none := by
  cases mislays
  rfl

theorem execute_of_failure {engine : Engine} {instruction : Instruction} {failure : Failure}
    (done : engine.world.execute instruction = .ok (engine.world.fails instruction failure)) :
    engine.execute instruction = .ok (engine.rejected failure) := by
  rw [execute, done]
  rfl

theorem execute_of_performs {engine : Engine} {instruction : Instruction} {attempt : Attempt}
    (keyed : engine.world.inventory.IsKeyed)
    (rule : World.Performs engine.world instruction attempt) :
    engine.execute instruction = .ok (engine.performed attempt) := by
  rw [execute, rule.execute keyed]
  simp only [bind, Except.bind, performs_failure? rule]
  rfl

/-- What an instruction comes to, whether or not the bag is keyed. -/
theorem execute_cases_of_any {engine : Engine} {instruction : Instruction} {answer : Answer}
    (done : engine.execute instruction = .ok answer) :
    (∃ failure, engine.world.execute instruction =
        .ok (engine.world.fails instruction failure) ∧ answer = engine.rejected failure) ∨
      ∃ attempt, (World.Performs engine.world instruction attempt ∨
        World.Mislays engine.world instruction attempt) ∧ answer = engine.performed attempt := by
  have opened := done
  rw [execute] at opened
  rcases bind_eq_ok_iff.mp opened with ⟨attempt, tried, told⟩
  rcases World.execute_cases_of_any tried with ⟨failure, rfl⟩ | rule | mislays
  · rw [execute_of_failure tried] at done
    exact Or.inl ⟨failure, tried, (Except.ok.inj done).symm⟩
  · rw [performs_failure? rule] at told
    exact Or.inr ⟨attempt, Or.inl rule, (pure_eq_ok_iff.mp told).symm⟩
  · rw [mislays_failure? mislays] at told
    exact Or.inr ⟨attempt, Or.inr mislays, (pure_eq_ok_iff.mp told).symm⟩

theorem execute_cases {engine : Engine} (keyed : engine.world.inventory.IsKeyed)
    {instruction : Instruction} {answer : Answer}
    (done : engine.execute instruction = .ok answer) :
    (∃ failure, engine.world.execute instruction =
        .ok (engine.world.fails instruction failure) ∧ answer = engine.rejected failure) ∨
      ∃ attempt, World.Performs engine.world instruction attempt ∧
        answer = engine.performed attempt := by
  rcases execute_cases_of_any done with failed | ⟨attempt, rule | mislays, told⟩
  · exact Or.inl failed
  · exact Or.inr ⟨attempt, rule, told⟩
  · exact absurd keyed mislays.not_isKeyed

/-- What an undo comes to, whether or not the bag is keyed. -/
theorem undo_cases_of_any {engine : Engine} {answer : Answer} (done : engine.undo = .ok answer) :
    (engine.history = [] ∧ answer = engine.rejected .nothingToUndo) ∨
      ∃ instruction history, engine.history = instruction :: history ∧
        ((∃ failure, engine.world.undo instruction =
            .ok (engine.world.fails instruction failure) ∧
            answer = rejected { engine with history } failure) ∨
          ∃ attempt, (World.Retracts engine.world instruction attempt ∨
            World.Mislays engine.world instruction attempt) ∧
              answer = retracted history attempt) := by
  rw [undo] at done
  split at done
  · rename_i bare
    exact Or.inl ⟨bare, (pure_eq_ok_iff.mp done).symm⟩
  · rename_i instruction history latest
    refine Or.inr ⟨instruction, history, latest, ?_⟩
    rcases bind_eq_ok_iff.mp done with ⟨attempt, tried, told⟩
    rcases World.undo_cases_of_any tried with ⟨failure, rfl⟩ | rule | mislays
    · exact Or.inl ⟨failure, tried, (pure_eq_ok_iff.mp told).symm⟩
    · rw [retracts_failure? rule] at told
      exact Or.inr ⟨attempt, Or.inl rule, (pure_eq_ok_iff.mp told).symm⟩
    · rw [mislays_failure? mislays] at told
      exact Or.inr ⟨attempt, Or.inr mislays, (pure_eq_ok_iff.mp told).symm⟩

theorem undo_cases {engine : Engine} (keyed : engine.world.inventory.IsKeyed)
    {answer : Answer} (done : engine.undo = .ok answer) :
    (engine.history = [] ∧ answer = engine.rejected .nothingToUndo) ∨
      ∃ instruction history, engine.history = instruction :: history ∧
        ((∃ failure, engine.world.undo instruction =
            .ok (engine.world.fails instruction failure) ∧
            answer = rejected { engine with history } failure) ∨
          ∃ attempt, World.Retracts engine.world instruction attempt ∧
            answer = retracted history attempt) := by
  rcases undo_cases_of_any done with
    nothing | ⟨instruction, history, latest, failed | ⟨attempt, rule | mislays, told⟩⟩
  · exact Or.inl nothing
  · exact Or.inr ⟨instruction, history, latest, Or.inl failed⟩
  · exact Or.inr ⟨instruction, history, latest, Or.inr ⟨attempt, rule, told⟩⟩
  · exact absurd keyed mislays.not_isKeyed

/-! ## Runs -/

/-- A call that carries out an instruction as it was given, or undoes the last one. -/
def Call.IsPlay : Call → Prop
  | .execute instruction => instruction.fresh = instruction
  | .undo => True
  | _ => False

/-- What holds at the start of a run and is kept by its calls holds at its end. -/
theorem run_induction {property : Engine → Prop} {engine last : Engine} {calls : List Call}
    {events : List Event} (ran : engine.run calls = .ok (last, events))
    (holds : property engine)
    (kept : ∀ middle request answer, request ∈ calls → property middle →
      middle.call request = .ok answer → property answer.engine) : property last := by
  induction calls generalizing engine events with
  | nil =>
      cases ran
      exact holds
  | cons request rest ih =>
      rw [run] at ran
      rcases bind_eq_ok_iff.mp ran with ⟨answer, answered, further⟩
      rcases bind_eq_ok_iff.mp further with ⟨reached, ranOn, told⟩
      cases told
      have next : property answer.engine :=
        kept engine request answer List.mem_cons_self holds answered
      exact ih ranOn next fun middle later answer member =>
        kept middle later answer (List.mem_cons_of_mem _ member)

/-- What a call does to the world. -/
inductive Works (engine : Engine) : Call → World → Prop
  /-- Nothing that lies in the world changes, but perhaps a reading of the robot. -/
  | rests {request : Call} {robot : Robot}
      (settings : robot.settings = engine.world.robot.settings) :
      Works engine request { engine.world with robot }
  | performs {instruction : Instruction} {attempt : Attempt}
      (rule : World.Performs engine.world instruction attempt) :
      Works engine (.execute instruction) attempt.world
  | retracts {instruction : Instruction} {earlier : List Instruction} {attempt : Attempt}
      (latest : engine.history = instruction :: earlier)
      (rule : World.Retracts engine.world instruction attempt) :
      Works engine .undo attempt.world
  | mislays {request : Call} {instruction : Instruction} {attempt : Attempt}
      (mislays : World.Mislays engine.world instruction attempt) :
      Works engine request attempt.world

theorem works_call {engine : Engine} {request : Call} {answer : Answer}
    (answered : engine.call request = .ok answer) :
    engine.Works request answer.engine.world := by
  cases request with
  | execute instruction =>
      rcases execute_cases_of_any answered with
        ⟨failure, -, rfl⟩ | ⟨attempt, rule | mislays, rfl⟩
      · exact .rests rfl
      · exact .performs rule
      · exact .mislays mislays
  | undo =>
      rcases undo_cases_of_any answered with
        ⟨-, rfl⟩ | ⟨instruction, history, latest,
          ⟨failure, -, rfl⟩ | ⟨attempt, rule | mislays, rfl⟩⟩
      · exact .rests rfl
      · exact .rests rfl
      · exact .retracts latest rule
      · exact .mislays mislays
  | _ =>
      cases answered
      exact .rests rfl

theorem Works.keeps {engine : Engine} {request : Call} {after : World}
    (works : engine.Works request after) : engine.world.Keeps after := by
  cases works with
  | rests settings => exact World.keeps_robot settings
  | performs rule => exact rule.keeps
  | retracts latest rule => exact rule.keeps
  | mislays mislays => exact mislays.keeps

/-- A call keeps costs, plan, compass and keys. -/
theorem keeps_call {engine : Engine} {request : Call} {answer : Answer}
    (answered : engine.call request = .ok answer) : engine.world.Keeps answer.engine.world :=
  (works_call answered).keeps

/-! ## Starts -/

/-- In every city that has places, an engine starts at the first of them. -/
theorem exists_start {city : City} (inhabited : city.places ≠ []) (heading : Direction)
    (settings : EngineSettings) :
    ∃ navigation, Engine.start city Atlas.firstPlace heading settings =
        .ok { world := ⟨.fresh settings, navigation, .empty⟩, history := [] } ∧
      navigation.city = city ∧ navigation.current = Atlas.firstPlace ∧
        navigation.heading = if heading.isKnown then heading else .north := by
  have inside : Atlas.firstPlace < city.places.length := List.length_pos_iff.mpr inhabited
  refine ⟨⟨city, Atlas.firstPlace, if heading.isKnown then heading else .north, inside⟩,
    ?_, rfl, rfl, rfl⟩
  unfold Engine.start Navigation.start
  rw [dif_pos inside]
  rfl

end Rover.Engine
