import Rover.Proofs.Retrace
import Rover.Proofs.Run

/-!
# A use taken back at once

A carried item is used, and the use is taken back by the next call.  The robot
stands where it stood, looks the way it looked, and every door is as it was: a
second turn of the same card undoes the first.  The bag is as it was too, with
one exception.  A fuel cell gets its use back in the bag if it is still there,
but garbage is only ever put back into the bag, with a single use, and a bag
that has its key refuses it.  So garbage with more than one use, or with uses
that count from below nought, keeps the count that its use has left.
-/

namespace Rover

theorem ItemKind.not_isSingleUse_iff {kind : ItemKind} :
    ¬ kind.IsSingleUse ↔ ∃ material times, kind = .garbage material times ∧ times ≠ .one := by
  cases kind <;> simp [IsSingleUse]

namespace World

variable {world : World} {id : String} {item : Item} {effect back : ItemEffect}

/-- To put an item back does nothing to a bag that has its key. -/
theorem ReturnOf.rests_of_garbage {label description : String} {material times : Quantity}
    (present : world.inventory.contains label = true)
    (returned : ReturnOf world ⟨label, description, .garbage material times⟩ back) :
    back.world.navigation = world.navigation ∧ back.world.inventory = world.inventory := by
  cases returned with
  | held kind negated found raised => cases kind
  | fuel kind negated missing raised => cases kind
  | garbage kind negated => exact ⟨rfl, Bag.add_eq_self_of_contains present⟩
  | codeCard kind worked => cases kind

/-- What a use leaves in the bag of garbage that is not for a single use. -/
theorem find?_operated_of_garbage {label description : String} {material times fewer : Quantity}
    (found : world.inventory.find? id = some ⟨label, description, .garbage material times⟩)
    (several : times ≠ .one) (lowered : times.decrement = .ok fewer) :
    (world.inventory.afterUse id ⟨label, description, .garbage material fewer⟩).find? id =
      some ⟨label, description, .garbage material fewer⟩ := by
  apply find?_afterUse_of_usable found
  have some : fewer ≠ .zero := by
    rintro rfl
    apply several
    apply Quantity.ext
    have left : (0 : Int) = times.value - 1 := Quantity.decrement_eq_ok_iff.mp lowered
    show times.value = 1
    omega
  exact bne_iff_ne.mpr some

/-- Garbage for several uses rests in the bag with the count that its use has left. -/
theorem UseOf.rests_of_several (keyed : world.inventory.IsKeyed)
    (found : world.inventory.find? id = some item) (rule : UseOf world item effect)
    (several : ¬ item.kind.IsSingleUse)
    (returned : ReturnOf (operated id effect).world effect.item back) :
    back.world.navigation = world.navigation ∧
      back.world.inventory = (operated id effect).world.inventory ∧
      back.world.inventory ≠ world.inventory := by
  cases rule with
  | fuel => exact absurd trivial several
  | codeCard => exact absurd trivial several
  | @garbage label description material times fewer usable lowered =>
      have left := find?_operated_of_garbage found several lowered
      have sameKey : itemKey label = itemKey id := (keyed.key_of_find? found :)
      have present : (world.inventory.afterUse id
          ⟨label, description, .garbage material fewer⟩).contains label = true := by
        rw [Bag.contains_congr _ sameKey]
        exact Bag.contains_iff.mpr ⟨_, left⟩
      have rests := returned.rests_of_garbage present
      refine ⟨rests.1, rests.2, ?_⟩
      rw [rests.2]
      intro same
      -- The bag would hold the garbage both with the old count and with one less.
      have both := left.symm.trans ((congrArg (·.find? id) same).trans found)
      have count : fewer = times := by simpa using both
      have lower := Quantity.decrement_eq_ok_iff.mp lowered
      rw [count] at lower
      omega

end World

namespace Engine

variable {engine : Engine} {id : String} {used : Option Item} {item : Item} {answer back : Answer}

/-- A carried item that is operated is used by the rule of its kind. -/
theorem exists_useOf_of_executed (keyed : engine.world.inventory.IsKeyed)
    (carried : engine.world.inventory.find? id = some item)
    (done : engine.execute (.operate id used) = .ok answer)
    (executed : answer.outcome? = some .executed) :
    ∃ effect, World.UseOf engine.world item effect ∧
      answer = engine.performed (World.operated id effect) := by
  rcases execute_cases keyed done with ⟨failure, -, rfl⟩ | ⟨attempt, rule, rfl⟩
  · cases executed
  · cases rule with
    | @operate _ _ other effect found rule =>
        cases carried.symm.trans found
        exact ⟨effect, rule, rfl⟩

/-- The use that an item is remembered for is taken back by the rule of its kind. -/
theorem exists_returnOf_of_undone (keyed : engine.world.inventory.IsKeyed)
    {earlier : List Instruction} (latest : engine.history = .operate id (some item) :: earlier)
    (undone : engine.undo = .ok back) (retracted : back.outcome? = some .executed) :
    ∃ effect, World.ReturnOf engine.world item effect ∧ back.engine.world = effect.world := by
  rcases undo_cases keyed undone with
    ⟨-, rfl⟩ | ⟨last, rest, found, ⟨failure, -, rfl⟩ | ⟨attempt, rule, rfl⟩⟩
  · cases retracted
  · cases retracted
  · cases latest.symm.trans found
    cases rule with
    | @operate _ _ effect rule => exact ⟨effect, rule, rfl⟩

/--
A carried item that is operated, with the undo as the next call, leaves place,
heading, doors and places as they were.  It leaves the bag as it was exactly if
it is not garbage with another count of uses than one; such garbage stays in
the bag as the use has left it.
-/
theorem undone_use_restores_bag_iff (keyed : engine.world.IsKeyed)
    (carried : engine.world.inventory.find? id = some item)
    (done : engine.execute (.operate id used) = .ok answer)
    (executed : answer.outcome? = some .executed)
    (undone : answer.engine.undo = .ok back) (retracted : back.outcome? = some .executed) :
    back.engine.world.navigation = engine.world.navigation ∧
      (back.engine.world.inventory = engine.world.inventory ↔
        ∀ material times, item.kind = .garbage material times → times = .one) ∧
      (∀ material times, item.kind = .garbage material times → times ≠ .one →
        back.engine.world.inventory = answer.engine.world.inventory) := by
  have answered : engine.call (.execute (.operate id used)) = .ok answer := done
  have keyedNow := ((keeps_call answered).keyed keyed).inventory
  rcases exists_useOf_of_executed keyed.inventory carried done executed with ⟨effect, rule, rfl⟩
  rcases exists_returnOf_of_undone keyedNow rfl undone retracted with ⟨last, returned, left⟩
  rw [left]
  by_cases single : item.kind.IsSingleUse
  · have agrees : engine.world.Agrees last.world :=
      rule.agrees_of_returned keyed.inventory carried single (.refl _) returned
    have once : ∀ material times, item.kind = .garbage material times → times = .one := by
      intro material times kind
      rwa [kind] at single
    exact ⟨agrees.navigation, ⟨fun _ => once, fun _ => agrees.inventory⟩,
      fun material times kind several => absurd (once material times kind) several⟩
  · have ⟨sameWay, kept, changed⟩ :=
      rule.rests_of_several keyed.inventory carried single returned
    rcases ItemKind.not_isSingleUse_iff.mp single with ⟨material, times, kind, several⟩
    exact ⟨sameWay, ⟨fun same => absurd same changed,
      fun once => absurd (once material times kind) several⟩, fun _ _ _ _ => kept⟩

/-- Garbage that is good for two uses. -/
def paper : Item :=
  ⟨"paper", "Old news", .garbage .one (.nearest 2)⟩

/-- A robot in a park that carries such garbage. -/
def withPaper : Engine where
  world :=
    { robot := .fresh .standard
      navigation := ⟨⟨[⟨"Park", "A park", false, .empty⟩], []⟩, 0, .north, by decide⟩
      inventory := .ofItems [paper] }
  history := []

theorem withPaper_isKeyed : withPaper.world.IsKeyed where
  places := by
    intro place member
    rw [List.mem_singleton.mp member]
    exact Bag.isKeyed_empty
  inventory := Bag.isKeyed_empty.add paper

/-- Used once, and with the use taken back, it is good for one use only. -/
theorem paper_loses_a_use :
    withPaper.world.IsKeyed ∧ withPaper.world.inventory.find? "paper" = some paper ∧
      ∃ answer back, withPaper.execute (.operate "paper" none) = .ok answer ∧
        answer.outcome? = some .executed ∧ answer.engine.undo = .ok back ∧
        back.outcome? = some .executed ∧
        back.engine.world.navigation = withPaper.world.navigation ∧
        back.engine.world.inventory = answer.engine.world.inventory ∧
        back.engine.world.inventory ≠ withPaper.world.inventory := by
  have carried : withPaper.world.inventory.find? "paper" = some paper := by decide
  refine ⟨withPaper_isKeyed, carried, _, _, rfl, rfl, rfl, rfl, ?_⟩
  have law := undone_use_restores_bag_iff withPaper_isKeyed carried
    (show withPaper.execute (.operate "paper" none) = .ok _ from rfl) rfl rfl rfl
  have several : Quantity.nearest 2 ≠ .one := by decide
  exact ⟨law.1, law.2.2 _ _ rfl several, fun same => several (law.2.1.mp same _ _ rfl)⟩

end Engine

end Rover
