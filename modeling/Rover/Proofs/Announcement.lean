import Rover.Proofs.Failure
import Rover.Proofs.Farewell

/-!
# Who announces the end

Many calls can bring a run to its end: fuel can be taken away, giving up can be
asked for, and an undo can lead back to a spaceship.  An instruction that
succeeds is the only one to announce it.  The announcement comes last of all
that the call tells, names the reason that goes before the others, and reaches
every onlooker of the engine who is not held.
-/

namespace Rover

namespace Engine

variable {engine : Engine} {request : Call} {answer : Answer}

/-- A call carries out an instruction, and the run is over with it. -/
structure Finishes (request : Call) (answer : Answer) : Prop where
  instructed : ∃ instruction, request = .execute instruction
  executed : answer.outcome? = some .executed
  ended : answer.engine.isOver = true

theorem not_finishes (other : ∀ instruction, request ≠ .execute instruction) :
    ¬Finishes request answer := by
  rintro ⟨⟨instruction, same⟩, -, -⟩
  exact other instruction same

/-- A call takes leave if it finishes the run, and tells of no end otherwise. -/
theorem call_leaves_or_is_untold (answered : engine.call request = .ok answer) :
    (Finishes request answer ∧ Leaves answer) ∨
      (¬Finishes request answer ∧ ∀ event ∈ answer.events, event.isTerminal = false) := by
  cases request with
  | execute instruction =>
      rcases execute_parts answered with
        ⟨failed, -, untold⟩ | ⟨executed, ⟨going, untold⟩ | leaves⟩
      · refine Or.inr ⟨fun finishes => ?_, untold⟩
        cases failed.symm.trans finishes.executed
      · refine Or.inr ⟨fun finishes => ?_, untold⟩
        cases going.symm.trans finishes.ended
      · exact Or.inl ⟨⟨⟨instruction, rfl⟩, executed, leaves.ended⟩, leaves⟩
  | undo => exact Or.inr ⟨not_finishes (by simp), untold_of_undo answered⟩
  | raiseError message =>
      have nothing : TellsNoVerdict [] := rfl
      cases answered
      exact Or.inr ⟨not_finishes (by simp), untold_of_failure nothing message⟩
  | _ =>
      cases answered
      exact Or.inr ⟨not_finishes (by simp), untold_of_tellsNoVerdict rfl⟩

end Engine

namespace Station

variable {request : Engine.Call} {answer : Answer}

/--
Whoever has signed up and is not held is told of the events of a call, and of
nothing else.  A call that is answered tells of an end exactly if it carries out an
instruction and the run is over with it.  It tells of that once, last of all
and by the reason that goes first, and every onlooker of the engine who is not
held is told.
-/
theorem only_finished_runs_are_announced (station : Station) (held : List Onlooker)
    (answered : station.engine.call request = .ok answer) :
    ∃ next, station.call held request = .ok (answer.outcome?, next) ∧
      next.engine = answer.engine ∧
      next.log = station.log ++ station.audience.told held answer.events ∧
      ((∃ event ∈ answer.events, event.isTerminal = true) ↔ Engine.Finishes request answer) ∧
      (Engine.Finishes request answer → ∃ before last,
        answer.events = before ++ [last] ∧ (∀ event ∈ before, event.isTerminal = false) ∧
        next.engine.LastWords last ∧
        next.log = station.log ++ station.audience.told held before ++
          (station.audience.engine.list.filter fun onlooker => onlooker ∉ held).map
            fun onlooker => ⟨onlooker, last⟩) := by
  have delivered := station.audience.deliver_eq_told held answer.events
  refine ⟨station.publish held answer.engine answer.events, ?_, rfl, ?_, ?_⟩
  · rw [call, answered]
    rfl
  · exact congrArg (station.log ++ ·) delivered
  rcases Engine.call_leaves_or_is_untold answered with
    ⟨finishes, ⟨ended, before, told, untold⟩⟩ | ⟨unfinished, untold⟩
  · have words := Engine.lastWords_farewell ended
    refine ⟨iff_of_true ⟨answer.engine.farewell, ?_, answer.engine.isTerminal_farewell⟩ finishes,
      fun _ => ⟨before, answer.engine.farewell, told, untold, words, ?_⟩⟩
    · rw [told]
      exact List.mem_append_right before (List.mem_singleton_self _)
    · show station.log ++ station.audience.deliver held answer.events = _
      rw [delivered, told, Audience.told, List.flatMap_append, ← List.append_assoc,
        List.flatMap_singleton, words.source_eq]
      rfl
  · refine ⟨iff_of_false ?_ unfinished, fun finishes => absurd finishes unfinished⟩
    rintro ⟨event, told, terminal⟩
    cases (untold event told).symm.trans terminal

/-- A robot in a yard that gives up says so to its onlooker, and nothing else. -/
theorem giving_up_is_announced_in_bareYard :
    ∃ answer next, bareYard.engine.call (.execute .quit) = .ok answer ∧
      Engine.Finishes (.execute .quit) answer ∧
      bareYard.call [] (.execute .quit) = .ok (answer.outcome?, next) ∧
      next.engine.LastWords .communicationEnded ∧
      next.log = [⟨0, .communicationEnded⟩] := by
  have ⟨answer, answered, executed, ended⟩ :
      ∃ answer, bareYard.engine.call (.execute .quit) = .ok answer ∧
        answer.outcome? = some .executed ∧ answer.engine.isOver = true :=
    ⟨_, rfl, rfl, rfl⟩
  have finishes : Engine.Finishes (.execute .quit) answer := ⟨⟨.quit, rfl⟩, executed, ended⟩
  rcases only_finished_runs_are_announced bareYard [] answered with ⟨next, called, -, -, -, law⟩
  rcases law finishes with ⟨before, last, told, -, words, log⟩
  cases answered
  rcases List.append_eq_singleton_iff.mp told.symm with ⟨rfl, alone⟩ | ⟨-, none⟩
  · cases alone
    exact ⟨_, next, rfl, finishes, called, words, log⟩
  · cases none

end Station

end Rover
