import Rover.Proofs.Draft
import Rover.Proofs.Run

/-!
# Faults of instructions

An instruction, or its undoing, breaks down exactly if a plain operation on a
quantity leaves its range: if a cost, a power or a yield is the least quantity
and has to be taken with the other sign, if uses are at the least quantity and
one more is counted off, or if they are at the greatest and one is handed back.
In a sound city no walk leads to a place that is not there.
-/

namespace Rover

namespace ItemKind

/-- What a use of an item of the kind adds to a counter of the robot. -/
def amount? : ItemKind → Option Quantity
  | .fuel power _ => some power
  | .garbage material _ => some material
  | .codeCard _ => none
  | .generic => none

/-- The uses of an item of the kind, if they are counted. -/
def times? : ItemKind → Option Quantity
  | .fuel _ times => some times
  | .garbage _ times => some times
  | .codeCard _ => none
  | .generic => none

end ItemKind

namespace World

/-! ## Sound worlds -/

/-- A world whose items are under their keys and whose streets lead to places that are there. -/
structure IsSound (world : World) : Prop where
  keyed : world.IsKeyed
  ends : ∀ street ∈ world.navigation.city.streets,
    street.source < world.navigation.city.places.length ∧
      street.target < world.navigation.city.places.length

theorem Keeps.isSound {before after : World} (keeps : before.Keeps after)
    (sound : before.IsSound) : after.IsSound where
  keyed := keeps.keyed sound.keyed
  ends := by
    have courses := City.courses_eq_of_plan_eq keeps.plan
    intro street member
    rw [City.length_places_eq_of_plan_eq keeps.plan]
    have course : street.course ∈ before.navigation.city.courses := by
      rw [← courses]
      exact List.mem_map_of_mem member
    rcases List.mem_map.mp course with ⟨old, oldMember, same⟩
    have ⟨source, target⟩ := sound.ends old oldMember
    have sameSource := congrArg Street.source same
    have sameTarget := congrArg Street.target same
    exact ⟨sameSource ▸ source, sameTarget ▸ target⟩

theorem IsSound.walk_ne_error {world : World} (sound : world.IsSound) (direction : Direction)
    (fault : Fault) : world.navigation.walk direction ≠ .error fault := by
  intro broken
  rcases Navigation.walk_eq_error_iff.mp broken with ⟨place, led, outside, -⟩
  rcases Navigation.route_eq_ok_iff.mp led with ⟨street, found, -, leads⟩
  have ⟨source, target⟩ := sound.ends street (List.mem_of_find?_eq_some found)
  unfold Street.farEnd? at leads
  split at leads
  · cases leads
    exact absurd target (Nat.not_lt.mpr outside)
  · split at leads
    · cases leads
      exact absurd source (Nat.not_lt.mpr outside)
    · cases leads

/-! ## Instructions -/

/-- How an instruction leaves the range of quantities. -/
inductive Overflows (world : World) : Instruction → Fault → Prop
  | move {moved : Navigation}
      (went : world.navigation.walk world.navigation.heading = .ok (.ok moved))
      (least : world.robot.settings.moveCost.value = -2147483648) :
      Overflows world .move .negate
  | turn {rotation : Rotation}
      (least : world.robot.settings.turnCost.value = -2147483648) :
      Overflows world (.turn rotation) .negate
  | operate {id : String} {used : Option Item} {item : Item} {times : Quantity}
      (found : world.inventory.find? id = some item) (counted : item.kind.times? = some times)
      (least : times.value = -2147483648) : Overflows world (.operate id used) .subtract

/-- The uses that are raised when the use of an item is taken back, if any are. -/
def raised? (world : World) (item : Item) : Option Quantity :=
  match item.kind with
  | .fuel _ times =>
      match world.inventory.find? item.id with
      | some ⟨_, _, .fuel _ held⟩ => some held
      | _ => some times
  | _ => none

/-- How the undoing of an instruction leaves the range of quantities. -/
inductive OverflowsBack (world : World) : Instruction → Fault → Prop
  | amount {id : String} {item : Item} {amount : Quantity}
      (added : item.kind.amount? = some amount) (least : amount.value = -2147483648) :
      OverflowsBack world (.operate id (some item)) .negate
  | times {id : String} {item : Item} {amount times : Quantity}
      (added : item.kind.amount? = some amount) (notLeast : amount.value ≠ -2147483648)
      (raised : world.raised? item = some times) (greatest : times.value = 2147483647) :
      OverflowsBack world (.operate id (some item)) .add

variable {world : World} {fault : Fault}

theorem walk_breaks_iff (sound : world.IsSound) {instruction : Instruction}
    {direction : Direction} {price : Except Fault Quantity} :
    (∃ events, world.walk instruction direction price = .error ⟨fault, events⟩) ↔
      (∃ moved, world.navigation.walk direction = .ok (.ok moved)) ∧ price = .error fault := by
  simp only [walk, bind_eq_error_iff, afterTelling_eq_error_iff, afterTelling_eq_ok_iff]
  constructor
  · rintro ⟨events, ⟨cause, broken, -⟩ | ⟨failure | moved, went, rest⟩⟩
    · exact absurd broken (sound.walk_ne_error direction cause)
    · cases rest
    · rcases bind_eq_error_iff.mp rest with broken | ⟨amount, -, told⟩
      · rcases afterTelling_eq_error_iff.mp broken with ⟨cause, unpaid, same⟩
        cases same
        exact ⟨⟨moved, went⟩, unpaid⟩
      · cases told
  · rintro ⟨⟨moved, went⟩, unpaid⟩
    refine ⟨[moved.arrived direction], Or.inr ⟨.ok moved, went, ?_⟩⟩
    exact bind_eq_error_iff.mpr (Or.inl (afterTelling_eq_error_iff.mpr ⟨fault, unpaid, rfl⟩))

theorem turn_breaks_iff {instruction : Instruction} {rotation : Rotation}
    {price : Except Fault Quantity} :
    (∃ events, world.turn instruction rotation price = .error ⟨fault, events⟩) ↔
      price = .error fault := by
  simp only [turn, bind_eq_error_iff, afterTelling_eq_error_iff, pure_ne_error, and_false,
    exists_false, or_false, Breakdown.mk.injEq]
  constructor
  · rintro ⟨events, cause, unpaid, rfl, -⟩
    exact unpaid
  · intro unpaid
    exact ⟨_, fault, unpaid, rfl, rfl⟩

theorem isUsable_of_times? {item : Item} {times : Quantity}
    (counted : item.kind.times? = some times) (least : times.value = -2147483648) :
    item.isUsable = true := by
  have some : times ≠ .zero := by
    rintro rfl
    cases least
  rcases item with ⟨id, description, kind⟩
  cases kind with
  | fuel power left =>
      cases counted
      exact bne_iff_ne.mpr some
  | garbage material left =>
      cases counted
      exact bne_iff_ne.mpr some
  | codeCard code => cases counted
  | generic => cases counted

theorem decrement_breaks_iff {α : Type} {times : Quantity} {told : List Event}
    {next : Quantity → α} :
    (∃ events, (do
        let fewer ← afterTelling told times.decrement
        return next fewer : Except Breakdown α) = .error ⟨fault, events⟩) ↔
      times.value = -2147483648 ∧ fault = .subtract := by
  simp only [bind_eq_error_iff, afterTelling_eq_error_iff, pure_ne_error, and_false,
    exists_false, or_false, Breakdown.mk.injEq, Quantity.decrement_eq_error_iff]
  constructor
  · rintro ⟨_, _, ⟨least, rfl⟩, rfl, -⟩
    exact ⟨least, rfl⟩
  · rintro ⟨least, rfl⟩
    exact ⟨_, _, ⟨least, rfl⟩, rfl, rfl⟩

theorem use_breaks_iff {item : Item} :
    (∃ events, world.use item = .error ⟨fault, events⟩) ↔
      ∃ times, item.kind.times? = some times ∧ times.value = -2147483648 ∧
        fault = .subtract := by
  cases usable : item.isUsable with
  | false =>
      constructor
      · rintro ⟨events, broken⟩
        rw [use, usable] at broken
        cases broken
      · rintro ⟨times, counted, least, -⟩
        cases usable.symm.trans (isUsable_of_times? counted least)
  | true =>
      rw [use, if_pos usable]
      cases kind : item.kind with
      | fuel power times => simpa [ItemKind.times?] using decrement_breaks_iff
      | garbage material times => simpa [ItemKind.times?] using decrement_breaks_iff
      | codeCard code => simp [ItemKind.times?]
      | generic => simp [ItemKind.times?]

theorem operate_breaks_iff {id : String} {used : Option Item} :
    (∃ events, world.operate id used = .error ⟨fault, events⟩) ↔
      ∃ item times, world.inventory.find? id = some item ∧ item.kind.times? = some times ∧
        times.value = -2147483648 ∧ fault = .subtract := by
  cases found : world.inventory.find? id with
  | none => simp [operate, found]
  | some item =>
      have inUse : ∀ events, world.operate id used = .error ⟨fault, events⟩ ↔
          world.use item = .error ⟨fault, events⟩ := by
        intro events
        rw [operate, found]
        dsimp only
        rw [bind_eq_error_iff]
        constructor
        · rintro (broken | ⟨_ | effect, -, rest⟩)
          · exact broken
          · cases rest
          · dsimp only at rest
            split at rest <;> cases rest
        · exact Or.inl
      simp only [inUse, use_breaks_iff, Option.some.injEq, exists_and_left, exists_eq_left']

/-! ## Undoing -/

theorem increment_breaks_iff {α : Type} {times : Quantity} {told : List Event}
    {next : Quantity → α} :
    (∃ events, (do
        let more ← afterTelling told times.increment
        return next more : Except Breakdown α) = .error ⟨fault, events⟩) ↔
      times.value = 2147483647 ∧ fault = .add := by
  simp only [bind_eq_error_iff, afterTelling_eq_error_iff, pure_ne_error, and_false,
    exists_false, or_false, Breakdown.mk.injEq, Quantity.increment_eq_error_iff]
  constructor
  · rintro ⟨_, _, ⟨greatest, rfl⟩, rfl, -⟩
    exact ⟨greatest, rfl⟩
  · rintro ⟨greatest, rfl⟩
    exact ⟨_, _, ⟨greatest, rfl⟩, rfl, rfl⟩

/-- A loss that has to be worked out first, and what else may break down after it. -/
theorem negate_breaks_iff {α : Type} {amount : Quantity}
    {next : Quantity → Except Breakdown α} {later : Prop}
    (further : ∀ loss, (∃ events, next loss = .error ⟨fault, events⟩) ↔ later) :
    (∃ events, (afterTelling [] amount.negate >>= next) = .error ⟨fault, events⟩) ↔
      (amount.value = -2147483648 ∧ fault = .negate) ∨
        amount.value ≠ -2147483648 ∧ later := by
  cases negated : amount.negate with
  | error cause =>
      have ⟨least, same⟩ := Quantity.negate_eq_error_iff.mp negated
      subst same
      simp [afterTelling, bind, Except.bind, least, eq_comm]
  | ok loss =>
      have notLeast : amount.value ≠ -2147483648 := by
        intro least
        cases negated.symm.trans (Quantity.negate_eq_error_iff.mpr ⟨least, rfl⟩)
      simp only [notLeast, false_and, false_or, true_and, ne_eq, not_false_eq_true]
      exact further loss

theorem raised?_of_held {item : Item} {power times heldPower heldTimes : Quantity}
    {id description : String} (kind : item.kind = .fuel power times)
    (found : world.inventory.find? item.id =
      some ⟨id, description, .fuel heldPower heldTimes⟩) :
    world.raised? item = some heldTimes := by
  rw [raised?, kind, found]

theorem raised?_of_missing {item : Item} {power times : Quantity}
    (kind : item.kind = .fuel power times)
    (missing : ∀ id description heldPower heldTimes, world.inventory.find? item.id ≠
      some ⟨id, description, .fuel heldPower heldTimes⟩) :
    world.raised? item = some times := by
  rw [raised?, kind]
  dsimp only
  split
  · rename_i found
    exact absurd found (missing _ _ _ _)
  · rfl

theorem takeBack_breaks_iff {item : Item} :
    (∃ events, world.takeBack item = .error ⟨fault, events⟩) ↔
      ∃ amount, item.kind.amount? = some amount ∧
        ((amount.value = -2147483648 ∧ fault = .negate) ∨
          amount.value ≠ -2147483648 ∧
            ∃ times, world.raised? item = some times ∧ times.value = 2147483647 ∧
              fault = .add) := by
  unfold takeBack
  cases kind : item.kind with
  | fuel power times =>
      simp only [ItemKind.amount?, Option.some.injEq, exists_eq_left']
      apply negate_breaks_iff
      intro loss
      split
      · rename_i found
        simp only [raised?_of_held kind found, Option.some.injEq, exists_eq_left']
        exact increment_breaks_iff
      · rename_i missing
        simp only [raised?_of_missing kind missing, Option.some.injEq, exists_eq_left']
        exact increment_breaks_iff
  | garbage material times =>
      simp only [ItemKind.amount?, Option.some.injEq, exists_eq_left']
      apply negate_breaks_iff
      intro loss
      simp [raised?, kind]
  | codeCard code => simp [ItemKind.amount?]
  | generic => simp [ItemKind.amount?]

theorem operateBack_breaks_iff {id : String} {item : Item} :
    (∃ events, world.operateBack id (some item) = .error ⟨fault, events⟩) ↔
      ∃ events, world.takeBack item = .error ⟨fault, events⟩ := by
  simp only [operateBack, bind_eq_error_iff]
  constructor
  · rintro ⟨events, broken | ⟨_ | effect, -, rest⟩⟩
    · exact ⟨events, broken⟩
    · cases rest
    · cases rest
  · rintro ⟨events, broken⟩
    exact ⟨events, Or.inl broken⟩

/-! ## What breaks down -/

theorem execute_breaks_iff (sound : world.IsSound) {instruction : Instruction} :
    (∃ events, world.execute instruction = .error ⟨fault, events⟩) ↔
      world.Overflows instruction fault := by
  constructor
  · intro broken
    cases instruction with
    | move =>
        have ⟨⟨moved, went⟩, unpaid⟩ := (walk_breaks_iff sound).mp broken
        have ⟨least, same⟩ := Quantity.negate_eq_error_iff.mp unpaid
        subst same
        exact .move went least
    | turn rotation =>
        have ⟨least, same⟩ := Quantity.negate_eq_error_iff.mp (turn_breaks_iff.mp broken)
        subst same
        exact .turn least
    | operate id used =>
        rcases operate_breaks_iff.mp broken with ⟨item, times, found, counted, least, rfl⟩
        exact .operate found counted least
    | _ =>
        rcases broken with ⟨events, impossible⟩
        cases impossible
  · intro overflows
    cases overflows with
    | move went least =>
        have unpaid := Quantity.negate_eq_error_iff.mpr ⟨least, rfl⟩
        exact (walk_breaks_iff sound).mpr ⟨⟨_, went⟩, unpaid⟩
    | turn least => exact turn_breaks_iff.mpr (Quantity.negate_eq_error_iff.mpr ⟨least, rfl⟩)
    | operate found counted least =>
        exact operate_breaks_iff.mpr ⟨_, _, found, counted, least, rfl⟩

theorem undo_breaks_iff (sound : world.IsSound) {instruction : Instruction} :
    (∃ events, world.undo instruction = .error ⟨fault, events⟩) ↔
      world.OverflowsBack instruction fault := by
  constructor
  · intro broken
    cases instruction with
    | move =>
        have ⟨_, paid⟩ := (walk_breaks_iff sound).mp broken
        cases paid
    | turn rotation => cases turn_breaks_iff.mp broken
    | operate id used =>
        cases used with
        | none =>
            rcases broken with ⟨events, impossible⟩
            cases impossible
        | some item =>
            rcases takeBack_breaks_iff.mp (operateBack_breaks_iff.mp broken) with
              ⟨amount, added, ⟨least, rfl⟩ | ⟨notLeast, times, raised, greatest, rfl⟩⟩
            · exact .amount added least
            · exact .times added notLeast raised greatest
    | _ =>
        rcases broken with ⟨events, impossible⟩
        cases impossible
  · intro overflows
    cases overflows with
    | amount added least =>
        exact operateBack_breaks_iff.mpr
          (takeBack_breaks_iff.mpr ⟨_, added, Or.inl ⟨least, rfl⟩⟩)
    | times added notLeast raised greatest =>
        exact operateBack_breaks_iff.mpr
          (takeBack_breaks_iff.mpr ⟨_, added, Or.inr ⟨notLeast, _, raised, greatest, rfl⟩⟩)

end World

namespace Engine

/-- How a call leaves the range of quantities. -/
inductive Overflows (engine : Engine) : Call → Fault → Prop
  | execute {instruction : Instruction} {fault : Fault}
      (overflows : engine.world.Overflows instruction fault) :
      Overflows engine (.execute instruction) fault
  | undo {remembered : Instruction} {earlier : List Instruction} {fault : Fault}
      (latest : engine.history = remembered :: earlier)
      (overflows : engine.world.OverflowsBack remembered fault) :
      Overflows engine .undo fault

variable {engine : Engine} {fault : Fault}

/-- Quantities are all that leaves its range: a place that is asked for is there. -/
theorem Overflows.cases_fault {request : Call} (overflows : engine.Overflows request fault) :
    fault = .negate ∨ fault = .subtract ∨ fault = .add := by
  cases overflows with
  | execute overflows => cases overflows <;> simp
  | undo latest overflows => cases overflows <;> simp

theorem execute_breaks_iff (sound : engine.world.IsSound) {instruction : Instruction} :
    (∃ events, engine.execute instruction = .error ⟨fault, events⟩) ↔
      engine.world.Overflows instruction fault := by
  rw [← World.execute_breaks_iff sound]
  simp only [execute, bind_eq_error_iff]
  constructor
  · rintro ⟨events, broken | ⟨attempt, -, rest⟩⟩
    · exact ⟨events, broken⟩
    · split at rest <;> cases rest
  · rintro ⟨events, broken⟩
    exact ⟨events, Or.inl broken⟩

theorem undo_breaks_iff (sound : engine.world.IsSound) :
    (∃ events, engine.undo = .error ⟨fault, events⟩) ↔
      ∃ remembered earlier, engine.history = remembered :: earlier ∧
        engine.world.OverflowsBack remembered fault := by
  unfold undo
  cases latest : engine.history with
  | nil => simp
  | cons remembered earlier =>
      simp only [List.cons.injEq, bind_eq_error_iff]
      constructor
      · rintro ⟨events, broken | ⟨attempt, -, rest⟩⟩
        · exact ⟨remembered, earlier, ⟨rfl, rfl⟩,
            (World.undo_breaks_iff sound).mp ⟨events, broken⟩⟩
        · split at rest <;> cases rest
      · rintro ⟨_, _, ⟨rfl, rfl⟩, overflows⟩
        rcases (World.undo_breaks_iff sound).mpr overflows with ⟨events, broken⟩
        exact ⟨events, Or.inl broken⟩

/-- A call breaks down exactly if it leaves the range of quantities. -/
theorem call_breaks_iff (sound : engine.world.IsSound) {request : Call} :
    (∃ events, engine.call request = .error ⟨fault, events⟩) ↔
      engine.Overflows request fault := by
  cases request with
  | execute instruction =>
      constructor
      · intro broken
        exact .execute ((execute_breaks_iff sound).mp broken)
      · rintro (overflows | _)
        exact (execute_breaks_iff sound).mpr overflows
  | undo =>
      constructor
      · intro broken
        rcases (undo_breaks_iff sound).mp broken with ⟨remembered, earlier, latest, overflows⟩
        exact .undo latest overflows
      · rintro (_ | ⟨latest, overflows⟩)
        exact (undo_breaks_iff sound).mpr ⟨_, _, latest, overflows⟩
  | _ =>
      constructor
      · rintro ⟨events, impossible⟩
        cases impossible
      · intro impossible
        cases impossible

theorem isSound_of_call (sound : engine.world.IsSound) {request : Call} {answer : Answer}
    (answered : engine.call request = .ok answer) : answer.engine.world.IsSound :=
  (keeps_call answered).isSound sound

theorem isSound_of_run (sound : engine.world.IsSound) {calls : List Call} {last : Engine}
    {events : List Event} (ran : engine.run calls = .ok (last, events)) :
    last.world.IsSound := by
  apply run_induction ran sound
  intro middle request answer member reached answered
  exact isSound_of_call reached answered

end Engine

end Rover
