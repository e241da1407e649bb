import Rover.Proofs.Retrace

/-!
# What an instruction to operate remembers

One instruction to operate an item is carried out and undone, again and again,
and the world may be any other world each time.  The instruction remembers the
item as the latest use has left it, until that use is taken back.  Nothing else
changes what it remembers: a use that fails does not, nor does an undoing that
fails.  So a use is refunded once, and never again without another use.
-/

namespace Rover

/-- What an instruction is asked for: to be carried out, or to be undone. -/
inductive Handling where
  | carryOut
  | undo
  deriving DecidableEq, Repr

/-- An instruction carried out or undone. -/
def World.handle (world : World) (instruction : Instruction) :
    Handling → Except Breakdown Attempt
  | .carryOut => world.execute instruction
  | .undo => world.undo instruction

/-- What an instruction was asked for, in what world, and what that came to. -/
structure Trial where
  handling : Handling
  world : World
  attempt : Attempt

/-- The trial was a use that succeeded. -/
def Trial.IsUse (trial : Trial) : Prop :=
  trial.handling = .carryOut ∧ trial.attempt.failure? = none

/-- The trial was an undoing that succeeded. -/
def Trial.IsRefund (trial : Trial) : Prop :=
  trial.handling = .undo ∧ trial.attempt.failure? = none

/--
The trials of one instruction to operate an item, latest first, and the
instruction as they have left it.  Each of them finds a world of its own, and a
call that breaks down ends the trials.
-/
inductive Drill (id : String) : List Trial → Instruction → Prop
  | fresh : Drill id [] (.operate id none)
  | next {earlier : List Trial} {instruction : Instruction} {handling : Handling}
      {world : World} {attempt : Attempt} (before : Drill id earlier instruction)
      (done : world.handle instruction handling = .ok attempt) :
      Drill id (⟨handling, world, attempt⟩ :: earlier) attempt.instruction

/-- Some use has not been taken back. -/
def IsOwed (trials : List Trial) : Prop :=
  ∃ later use earlier, trials = later ++ use :: earlier ∧ use.IsUse ∧
    ∀ trial ∈ later, ¬trial.IsRefund

/-! ## One trial -/

section

variable {id : String} {used : Option Item} {world : World} {handling : Handling}
  {attempt : Attempt}

/-- A trial fails, or it uses the item that is carried, or it takes the remembered use back. -/
theorem handle_operate_cases (done : world.handle (.operate id used) handling = .ok attempt) :
    (∃ failure, attempt = world.fails (.operate id used) failure) ∨
    (handling = .carryOut ∧ ∃ item effect, world.inventory.find? id = some item ∧
      World.UseOf world item effect ∧ attempt = World.operated id effect) ∨
    (handling = .undo ∧ ∃ item effect, used = some item ∧ World.ReturnOf world item effect ∧
      attempt = effect.world.succeeds (.operate id none) effect.events) := by
  cases handling with
  | carryOut =>
      rcases World.operate_cases done with failed | used
      · exact .inl failed
      · exact .inr (.inl ⟨rfl, used⟩)
  | undo =>
      rcases World.operateBack_eq_ok_iff.mp done with ⟨-, failed⟩ | returned
      · exact .inl ⟨.undoFailed id, failed⟩
      · exact .inr (.inr ⟨rfl, returned⟩)

/-- A use leaves the item in the bag, or takes it from there if it can no longer be used. -/
theorem operated_leaves {item : Item} {effect : ItemEffect}
    (found : world.inventory.find? id = some item) (rule : World.UseOf world item effect) :
    if effect.item.isUsable then
      (World.operated id effect).world.inventory.find? id = some effect.item
    else
      (World.operated id effect).world.inventory = world.inventory.remove id := by
  have sameBag : effect.world.inventory = world.inventory := World.use_inventory rule
  change if effect.item.isUsable then
      (effect.world.inventory.afterUse id effect.item).find? id = some effect.item
    else effect.world.inventory.afterUse id effect.item = world.inventory.remove id
  rw [sameBag]
  split
  · rename_i usable
    exact World.find?_afterUse_of_usable found usable
  · rename_i spent
    rw [Bag.afterUse, if_neg spent]

/-- A failure leaves the world and the instruction as they were. -/
theorem eq_fails_of_failure (done : world.handle (.operate id used) handling = .ok attempt)
    (failed : attempt.failure? ≠ none) :
    ∃ failure, attempt = world.fails (.operate id used) failure := by
  rcases handle_operate_cases done with
    failure | ⟨-, item, effect, -, -, rfl⟩ | ⟨-, item, effect, -, -, rfl⟩
  · exact failure
  · exact absurd rfl failed
  · exact absurd rfl failed

/-- The instruction stays one to operate the same item. -/
theorem exists_operate_of_handle
    (done : world.handle (.operate id used) handling = .ok attempt) :
    ∃ remembered, attempt.instruction = .operate id remembered := by
  rcases handle_operate_cases done with
    ⟨failure, rfl⟩ | ⟨-, item, effect, -, -, rfl⟩ | ⟨-, item, effect, -, -, rfl⟩
  · exact ⟨used, rfl⟩
  · exact ⟨some effect.item, rfl⟩
  · exact ⟨none, rfl⟩

end

theorem Drill.exists_operate {id : String} {trials : List Trial} {instruction : Instruction}
    (drilled : Drill id trials instruction) :
    ∃ remembered, instruction = .operate id remembered := by
  induction drilled with
  | fresh => exact ⟨none, rfl⟩
  | next before done ih =>
      rcases ih with ⟨used, rfl⟩
      exact exists_operate_of_handle done

/-! ## Uses that are owed -/

theorem not_isOwed_nil : ¬IsOwed [] := by
  rintro ⟨later, use, earlier, parted, -, -⟩
  simp at parted

theorem isOwed_of_isUse {trial : Trial} (use : trial.IsUse) (earlier : List Trial) :
    IsOwed (trial :: earlier) :=
  ⟨[], trial, earlier, rfl, use, List.forall_mem_nil _⟩

theorem not_isUse_of_isRefund {trial : Trial} (refund : trial.IsRefund) : ¬trial.IsUse := by
  intro use
  cases refund.1.symm.trans use.1

/-- A trial that is no use and no refund does not change what is owed; a refund settles it. -/
theorem isOwed_cons_iff {trial : Trial} {earlier : List Trial} (unused : ¬trial.IsUse) :
    IsOwed (trial :: earlier) ↔ ¬trial.IsRefund ∧ IsOwed earlier := by
  constructor
  · rintro ⟨later, use, before, parted, used, unrefunded⟩
    cases later with
    | nil =>
        cases parted
        exact absurd used unused
    | cons latest later =>
        cases parted
        have ⟨first, others⟩ := List.forall_mem_cons.mp unrefunded
        exact ⟨first, later, use, before, rfl, used, others⟩
  · rintro ⟨unrefunded, later, use, before, rfl, used, others⟩
    exact ⟨trial :: later, use, before, rfl, used,
      List.forall_mem_cons.mpr ⟨unrefunded, others⟩⟩

/-- If a use is owed, there is one since the latest refund. -/
theorem exists_isUse_of_isOwed {between earlier : List Trial} {refund : Trial}
    (refunded : refund.IsRefund) (owed : IsOwed (between ++ refund :: earlier)) :
    ∃ use ∈ between, use.IsUse := by
  induction between with
  | nil =>
      have settled := (isOwed_cons_iff (not_isUse_of_isRefund refunded)).mp owed
      exact absurd refunded settled.1
  | cons trial between ih =>
      by_cases use : trial.IsUse
      · exact ⟨trial, List.mem_cons_self, use⟩
      · rcases ih ((isOwed_cons_iff use).mp owed).2 with ⟨found, member, used⟩
        exact ⟨found, List.mem_cons_of_mem trial member, used⟩

/-! ## Many trials -/

namespace Drill

variable {id : String} {trials : List Trial} {instruction : Instruction}

/-- What an instruction remembers is a use that is owed. -/
theorem used?_ne_none_iff (drilled : Drill id trials instruction) :
    instruction.used? ≠ none ↔ IsOwed trials := by
  induction drilled with
  | fresh => exact ⟨fun remembers => absurd rfl remembers, fun owed => absurd owed not_isOwed_nil⟩
  | @next earlier instruction handling world attempt before done ih =>
      rcases before.exists_operate with ⟨used, rfl⟩
      rcases handle_operate_cases done with
        ⟨failure, rfl⟩ | ⟨rfl, item, effect, -, -, rfl⟩ | ⟨rfl, item, effect, -, -, rfl⟩
      · have unused : ¬Trial.IsUse ⟨handling, world, world.fails (.operate id used) failure⟩ :=
          fun use => nomatch use.2
        have unrefunded :
            ¬Trial.IsRefund ⟨handling, world, world.fails (.operate id used) failure⟩ :=
          fun refund => nomatch refund.2
        rw [isOwed_cons_iff unused, ← ih]
        exact (and_iff_right unrefunded).symm
      · exact ⟨fun _ => isOwed_of_isUse ⟨rfl, rfl⟩ earlier, fun _ => nofun⟩
      · have refunded : Trial.IsRefund
            ⟨.undo, world, effect.world.succeeds (.operate id none) effect.events⟩ := ⟨rfl, rfl⟩
        constructor
        · exact fun remembers => absurd rfl remembers
        · intro owed
          have settled := (isOwed_cons_iff (not_isUse_of_isRefund refunded)).mp owed
          exact absurd refunded settled.1

/-- The trials up to one of them are trials of the same instruction. -/
theorem exists_before {later earlier : List Trial} {trial : Trial}
    (drilled : Drill id (later ++ trial :: earlier) instruction) :
    ∃ before, Drill id earlier before ∧
      trial.world.handle before trial.handling = .ok trial.attempt := by
  induction later generalizing instruction with
  | nil =>
      cases drilled with
      | next before done => exact ⟨_, before, done⟩
  | cons latest later ih =>
      cases drilled with
      | next before done => exact ih before

/-- What is taken back is a use that is owed. -/
theorem isOwed_of_isRefund {later earlier : List Trial} {refund : Trial}
    (drilled : Drill id (later ++ refund :: earlier) instruction) (refunded : refund.IsRefund) :
    IsOwed earlier := by
  rcases drilled.exists_before with ⟨before, drilledBefore, done⟩
  rw [← drilledBefore.used?_ne_none_iff]
  rcases drilledBefore.exists_operate with ⟨used, rfl⟩
  rcases refunded with ⟨undone, succeeded⟩
  rcases handle_operate_cases done with
    ⟨failure, failed⟩ | ⟨used, -⟩ | ⟨-, item, effect, rfl, -, -⟩
  · rw [failed] at succeeded
    cases succeeded
  · cases undone.symm.trans used
  · exact nofun

end Drill

/--
One instruction to operate an item, carried out and undone in any order, each
time in any world.  Between two undoings that succeed there is a use that does.
The instruction remembers something exactly if some use has not been taken back
since; right after a use that is the carried item as the use has left it, still
in the bag or, if it can no longer be used, taken from there.  What fails
changes neither what is remembered nor the world, and while nothing is
remembered every undoing fails.
-/
theorem uses_are_refunded_once {id : String} {trials : List Trial} {instruction : Instruction}
    (drilled : Drill id trials instruction) :
    (∀ later second between first earlier,
      trials = later ++ second :: (between ++ first :: earlier) → second.IsRefund →
        first.IsRefund → ∃ use ∈ between, use.IsUse) ∧
    (instruction.used? ≠ none ↔
      ∃ later use earlier, trials = later ++ use :: earlier ∧ use.IsUse ∧
        ∀ trial ∈ later, ¬trial.IsRefund) ∧
    (∀ (world : World) attempt, world.execute instruction = .ok attempt →
      attempt.failure? = none →
      ∃ item effect, world.inventory.find? id = some item ∧ World.UseOf world item effect ∧
        attempt.instruction.used? = some effect.item ∧
        if effect.item.isUsable then
          attempt.world.inventory.find? id = some effect.item
        else
          attempt.world.inventory = world.inventory.remove id) ∧
    (∀ (world : World) handling attempt, world.handle instruction handling = .ok attempt →
      attempt.failure? ≠ none →
        attempt.instruction = instruction ∧ attempt.world = world ∧ attempt.events = []) ∧
    (instruction.used? = none → ∀ world : World,
      world.undo instruction = .ok (world.fails instruction (.undoFailed id))) := by
  refine ⟨?_, drilled.used?_ne_none_iff, ?_⟩
  · rintro later second between first earlier rfl refunded refundedBefore
    exact exists_isUse_of_isOwed refundedBefore (drilled.isOwed_of_isRefund refunded)
  · rcases drilled.exists_operate with ⟨used, rfl⟩
    refine ⟨?_, ?_, ?_⟩
    · intro world attempt done succeeded
      rcases World.operate_cases done with ⟨failure, rfl⟩ | ⟨item, effect, found, rule, rfl⟩
      · cases succeeded
      · exact ⟨item, effect, found, rule, rfl, operated_leaves found rule⟩
    · intro world handling attempt done failed
      rcases eq_fails_of_failure done failed with ⟨failure, rfl⟩
      exact ⟨rfl, rfl, rfl⟩
    · rintro ⟨⟩ world
      rfl

/-- A cell with some uses left. -/
def spare (times : Quantity) : Item :=
  ⟨"cell", "Spare", .fuel (.nearest 10) times⟩

/-- A robot on a heath that carries some items. -/
def onTheHeath (items : List Item) : World where
  robot := .fresh .standard
  navigation := ⟨⟨[⟨"Heath", "A heath", false, .empty⟩], []⟩, 0, .north, by decide⟩
  inventory := .ofItems items

/-- A cell is used up, and put back where nobody carries one; and so once more, but not again. -/
theorem spare_is_refunded_twice :
    ∃ first second third fourth, Drill "cell"
      [⟨.undo, onTheHeath [], fourth⟩, ⟨.carryOut, onTheHeath [spare .one], third⟩,
        ⟨.undo, onTheHeath [], second⟩, ⟨.carryOut, onTheHeath [spare .one], first⟩]
      (.operate "cell" none) ∧
    (∃ use ∈ [Trial.mk .carryOut (onTheHeath [spare .one]) third], use.IsUse) ∧
    (onTheHeath []).undo (.operate "cell" none) =
      .ok ((onTheHeath []).fails (.operate "cell" none) (.undoFailed "cell")) := by
  have use : ∃ attempt,
      (onTheHeath [spare .one]).handle (.operate "cell" none) .carryOut = .ok attempt ∧
        attempt.failure? = none ∧ attempt.instruction = .operate "cell" (some (spare .zero)) :=
    ⟨_, rfl, rfl, rfl⟩
  have refund : ∃ attempt,
      (onTheHeath []).handle (.operate "cell" (some (spare .zero))) .undo = .ok attempt ∧
        attempt.failure? = none ∧ attempt.instruction = .operate "cell" none :=
    ⟨_, rfl, rfl, rfl⟩
  rcases use with ⟨use, used, -, remembered⟩
  rcases refund with ⟨refund, refunded, succeeded, forgotten⟩
  have once := Drill.fresh.next used
  rw [remembered] at once
  have back := once.next refunded
  rw [forgotten] at back
  have again := back.next used
  rw [remembered] at again
  have drilled := again.next refunded
  rw [forgotten] at drilled
  rcases uses_are_refunded_once drilled with ⟨between, -, -, -, nothing⟩
  refine ⟨use, refund, use, refund, drilled, ?_, nothing rfl _⟩
  exact between [] _ _ _ _ rfl ⟨rfl, succeeded⟩ ⟨rfl, succeeded⟩

end Rover
