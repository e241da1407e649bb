import Rover.Proofs.Overflow
import Rover.Proofs.Retrace

/-!
# Margins

A call changes the uses of an item by one at most.  So quantities that are as
far from the ends of their range as there are calls to come never leave it, as
long as no cost, power or yield is the least quantity.
-/

namespace Rover

/--
The quantities of an item of the kind stay in their range for some calls:
garbage, which has a single use, for any number.
-/
def ItemKind.HasMargin (calls : Nat) : ItemKind → Prop
  | .fuel power times =>
      power.value ≠ -2147483648 ∧ -2147483648 + (calls : Int) ≤ times.value ∧
        times.value + (calls : Int) ≤ 2147483647
  | .garbage material times =>
      material.value ≠ -2147483648 ∧ 0 ≤ times.value ∧ times.value ≤ 1
  | .codeCard _ => True
  | .generic => True

namespace ItemKind.HasMargin

variable {kind : ItemKind} {calls : Nat}

theorem lower (margin : kind.HasMargin (calls + 1)) : kind.HasMargin calls := by
  cases kind with
  | fuel power times =>
      rcases margin with ⟨notLeast, below, above⟩
      exact ⟨notLeast, by omega, by omega⟩
  | garbage material times => exact margin
  | codeCard code => trivial
  | generic => trivial

theorem amount_ne {amount : Quantity} (margin : kind.HasMargin calls)
    (added : kind.amount? = some amount) : amount.value ≠ -2147483648 := by
  cases kind with
  | fuel power times =>
      cases added
      exact margin.1
  | garbage material times =>
      cases added
      exact margin.1
  | codeCard code => cases added
  | generic => cases added

theorem times_ne {times : Quantity} (margin : kind.HasMargin (calls + 1))
    (counted : kind.times? = some times) : times.value ≠ -2147483648 := by
  cases kind with
  | fuel power left =>
      cases counted
      rcases margin with ⟨-, below, -⟩
      omega
  | garbage material left =>
      cases counted
      rcases margin with ⟨-, below, -⟩
      omega
  | codeCard code => cases counted
  | generic => cases counted

end ItemKind.HasMargin

namespace World

variable {world : World} {calls : Nat}

theorem UseOf.hasMargin {item : Item} {effect : ItemEffect} (rule : UseOf world item effect)
    (margin : item.kind.HasMargin (calls + 1)) : effect.item.kind.HasMargin calls := by
  cases rule with
  | fuel usable lowered =>
      have fewer := Quantity.decrement_eq_ok_iff.mp lowered
      rcases margin with ⟨notLeast, below, above⟩
      exact ⟨notLeast, by omega, by omega⟩
  | @garbage id description material times left usable lowered =>
      have fewer := Quantity.decrement_eq_ok_iff.mp lowered
      rcases margin with ⟨notLeast, below, above⟩
      have some : times.value ≠ 0 := fun none => usable (Quantity.ext none)
      exact ⟨notLeast, by omega, by omega⟩
  | codeCard worked => trivial

theorem ReturnOf.hasMargin {item : Item} {effect : ItemEffect}
    (rule : ReturnOf world item effect)
    (margins : world.Everywhere fun item => item.kind.HasMargin (calls + 1))
    (margin : item.kind.HasMargin (calls + 1)) :
    effect.world.Everywhere fun item => item.kind.HasMargin calls := by
  have kept := margins.mono fun _ => ItemKind.HasMargin.lower
  cases rule with
  | held kind negated found raised =>
      have more := Quantity.increment_eq_ok_iff.mp raised
      rcases margins.inventory.of_find? found with ⟨notLeast, below, above⟩
      refine ⟨kept.places, ?_⟩
      show (world.inventory.adjust item.id fun _ => _).All _
      apply kept.inventory.adjust
      intro old present
      exact ⟨notLeast, by omega, by omega⟩
  | fuel kind negated missing raised =>
      have more := Quantity.increment_eq_ok_iff.mp raised
      rw [kind] at margin
      rcases margin with ⟨notLeast, below, above⟩
      refine ⟨kept.places, kept.inventory.add ?_⟩
      exact ⟨notLeast, by omega, by omega⟩
  | garbage kind negated =>
      rw [kind] at margin
      refine ⟨kept.places, kept.inventory.add ?_⟩
      exact ⟨margin.1, by decide, by decide⟩
  | codeCard kind worked => exact kept.toggled worked

theorem Retracts.hasMargin {instruction : Instruction} {attempt : Attempt}
    (rule : Retracts world instruction attempt)
    (margins : world.Everywhere fun item => item.kind.HasMargin (calls + 1))
    (remembered : ∀ item ∈ instruction.used?, item.kind.HasMargin (calls + 1)) :
    attempt.world.Everywhere fun item => item.kind.HasMargin calls := by
  refine (margins.mono fun _ => ItemKind.HasMargin.lower).retracts rule ?_
  intro item effect used returned
  exact returned.hasMargin margins (remembered item used)

end World

namespace Engine

/-- The quantities of an engine stay in their range for some calls. -/
structure HasMargin (calls : Nat) (engine : Engine) : Prop where
  sound : engine.world.IsSound
  moveCost : engine.world.robot.settings.moveCost.value ≠ -2147483648
  turnCost : engine.world.robot.settings.turnCost.value ≠ -2147483648
  items : engine.world.Everywhere fun item => item.kind.HasMargin calls
  uses : ∀ instruction ∈ engine.history, ∀ item ∈ instruction.used?, item.kind.HasMargin calls

namespace HasMargin

variable {calls : Nat} {engine : Engine}

theorem lower (margin : engine.HasMargin (calls + 1)) : engine.HasMargin calls where
  sound := margin.sound
  moveCost := margin.moveCost
  turnCost := margin.turnCost
  items := margin.items.mono fun _ => ItemKind.HasMargin.lower
  uses := fun instruction member item used => (margin.uses instruction member item used).lower

theorem not_overflows (margin : engine.HasMargin (calls + 1)) (request : Call) (fault : Fault) :
    ¬ engine.Overflows request fault := by
  intro overflows
  cases overflows with
  | execute overflows =>
      cases overflows with
      | move went least => exact margin.moveCost least
      | turn least => exact margin.turnCost least
      | operate found counted least =>
          exact (margin.items.inventory.of_find? found).times_ne counted least
  | @undo remembered earlier fault latest overflows =>
      have uses := margin.uses remembered (latest ▸ List.mem_cons_self)
      cases overflows with
      | amount added least => exact (uses _ rfl).amount_ne added least
      | @times id item amount times added notLeast raised greatest =>
          have own := uses item rfl
          unfold World.raised? at raised
          split at raised
          · rename_i power left kind
            rw [kind] at own
            split at raised
            · rename_i found
              cases raised
              rcases margin.items.inventory.of_find? found with ⟨-, -, above⟩
              omega
            · cases raised
              rcases own with ⟨-, -, above⟩
              omega
          · cases raised

theorem call (margin : engine.HasMargin (calls + 1)) {request : Call} (play : request.IsPlay)
    {answer : Answer} (answered : engine.call request = .ok answer) :
    answer.engine.HasMargin calls := by
  have keyed := margin.sound.keyed.inventory
  have keeps := keeps_call answered
  have kept := margin.lower.items
  have uses := margin.lower.uses
  refine ⟨keeps.isSound margin.sound, ?_, ?_, ?_, ?_⟩
  · rw [keeps.settings]
    exact margin.moveCost
  · rw [keeps.settings]
    exact margin.turnCost
  · cases request with
    | execute instruction =>
        rcases execute_cases keyed answered with ⟨failure, -, rfl⟩ | ⟨attempt, rule, rfl⟩
        · exact kept
        · exact margin.items.performs rule (fun _ => ItemKind.HasMargin.lower)
            fun _ _ own used _ => used.hasMargin own
    | undo =>
        rcases undo_cases keyed answered with
          ⟨-, rfl⟩ | ⟨remembered, earlier, latest, ⟨failure, -, rfl⟩ | ⟨attempt, rule, rfl⟩⟩
        · exact kept
        · exact kept
        · exact rule.hasMargin margin.items
            (margin.uses remembered (latest ▸ List.mem_cons_self))
    | _ => cases play
  · cases request with
    | execute instruction =>
        rcases execute_cases keyed answered with ⟨failure, -, rfl⟩ | ⟨attempt, rule, rfl⟩
        · exact uses
        · intro entry member
          rcases List.mem_cons.mp member with rfl | old
          · exact margin.items.remembers rule fun _ _ own used => used.hasMargin own
          · exact uses entry old
    | undo =>
        have earlierUses : ∀ remembered earlier, engine.history = remembered :: earlier →
            ∀ instruction ∈ earlier, ∀ item ∈ instruction.used?, item.kind.HasMargin calls := by
          intro remembered earlier latest instruction member
          exact uses instruction (latest ▸ List.mem_cons_of_mem _ member)
        rcases undo_cases keyed answered with
          ⟨-, rfl⟩ | ⟨remembered, earlier, latest, ⟨failure, -, rfl⟩ | ⟨attempt, rule, rfl⟩⟩
        · exact uses
        · exact earlierUses remembered earlier latest
        · exact earlierUses remembered earlier latest
    | _ => cases play

theorem lower_le {fewer : Nat} (margin : engine.HasMargin calls) (le : fewer ≤ calls) :
    engine.HasMargin fewer := by
  induction le with
  | refl => exact margin
  | step le ih => exact ih margin.lower

/-- A run spends the margin of its calls. -/
theorem run {requests : List Call} (margin : engine.HasMargin (requests.length + calls))
    (play : ∀ request ∈ requests, request.IsPlay) {last : Engine} {events : List Event}
    (ran : engine.run requests = .ok (last, events)) : last.HasMargin calls := by
  induction requests generalizing engine events with
  | nil =>
      cases ran
      exact margin.lower_le (Nat.le_add_left _ _)
  | cons request rest ih =>
      rw [Engine.run] at ran
      rcases bind_eq_ok_iff.mp ran with ⟨answer, answered, further⟩
      rcases bind_eq_ok_iff.mp further with ⟨reached, ranOn, told⟩
      cases told
      have spent : engine.HasMargin (rest.length + calls + 1) := by
        apply margin.lower_le
        rw [List.length_cons]
        omega
      have next := spent.call (play request List.mem_cons_self) answered
      exact ih next (fun later member => play later (List.mem_cons_of_mem _ member)) ranOn

end HasMargin

end Engine

end Rover
