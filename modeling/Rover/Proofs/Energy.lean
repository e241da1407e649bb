import Mathlib.Algebra.BigOperators.Group.Multiset.Basic
import Mathlib.Algebra.Order.BigOperators.Group.Multiset
import Rover.Proofs.Run
import Rover.Proofs.Stock

/-!
# Fuel runs out

The energy of a world is the fuel in the tank and all that its fuel cells have
to give, wherever they lie.  No instruction adds to it: to pick and to drop
move cells about, a use gives to the tank no more than it takes from the cell,
and a walk or a turn spends its cost.  So energy pays for every walk and every
turn of a run that is not over, and such a run is short.
-/

namespace Rover

/-- What the uses of an item can still give to the tank. -/
def Item.energy (item : Item) : Int :=
  match item.kind with
  | .fuel power times => max power.value 0 * times.value
  | _ => 0

/-- The uses of an item that gives fuel do not count from below nought. -/
def Item.IsStocked (item : Item) : Prop :=
  ∀ power times, item.kind = .fuel power times → 0 ≤ times.value

theorem Item.IsStocked.energy_nonneg {item : Item} (stocked : item.IsStocked) :
    0 ≤ item.energy := by
  unfold energy
  split
  · rename_i power times kind
    exact Int.mul_nonneg (Int.le_max_right _ _) (stocked power times kind)
  · exact Int.le_refl 0

namespace Robot

/-- Fuel is added to a tank at most in full. -/
theorem fuel_addFuel_le {robot : Robot} (fuelled : 0 ≤ robot.fuel.value) (amount : Quantity) :
    (robot.addFuel amount).fuel.value ≤ robot.fuel.value + max amount.value 0 := by
  rw [fuel_addFuel]
  omega

/-- A robot that has paid and has fuel left has paid in full. -/
theorem fuel_addFuel_of_negate {robot : Robot} {cost amount : Quantity}
    (paid : cost.negate = .ok amount) (running : 0 < (robot.addFuel amount).fuel.value) :
    (robot.addFuel amount).fuel.value + cost.value ≤ robot.fuel.value := by
  have negated := Quantity.negate_eq_ok_iff.mp paid
  rw [fuel_addFuel] at running ⊢
  omega

end Robot

namespace World

/-! ## Energy -/

/-- What the items of a stock can still give to the tank. -/
def energyOf (stock : Multiset Item) : Int :=
  (stock.map Item.energy).sum

/-- The fuel in the tank, and what the items of the world can still give to it. -/
def energy (world : World) : Int :=
  world.robot.fuel.value + energyOf world.stock

/-- Every fuel cell of a world has a number of uses. -/
def IsStocked (world : World) : Prop :=
  ∀ item ∈ world.stock, item.IsStocked

theorem energyOf_cons (item : Item) (rest : Multiset Item) :
    energyOf (item ::ₘ rest) = item.energy + energyOf rest := by
  rw [energyOf, Multiset.map_cons, Multiset.sum_cons]
  rfl

theorem energyOf_nonneg {stock : Multiset Item} (stocked : ∀ item ∈ stock, item.IsStocked) :
    0 ≤ energyOf stock := by
  apply Multiset.sum_nonneg
  intro amount member
  rcases Multiset.mem_map.mp member with ⟨item, inside, rfl⟩
  exact (stocked item inside).energy_nonneg

theorem energyOf_le {fewer stock : Multiset Item} (le : fewer ≤ stock)
    (stocked : ∀ item ∈ stock, item.IsStocked) : energyOf fewer ≤ energyOf stock := by
  rcases Multiset.le_iff_exists_add.mp le with ⟨others, rfl⟩
  have more := energyOf_nonneg fun item member =>
    stocked item (Multiset.mem_add.mpr (Or.inr member))
  have split : energyOf (fewer + others) = energyOf fewer + energyOf others := by
    rw [energyOf, Multiset.map_add, Multiset.sum_add]
    rfl
  omega

variable {world : World}

theorem IsStocked.of_le {other : World} (stocked : world.IsStocked)
    (le : other.stock ≤ world.stock) : other.IsStocked :=
  fun item member => stocked item (Multiset.mem_of_le le member)

/-- The use of an item takes from it what it gives to the tank. -/
theorem UseOf.energy_le {item : Item} {effect : ItemEffect} (rule : UseOf world item effect)
    (fuelled : 0 ≤ world.robot.fuel.value) :
    effect.world.robot.fuel.value + effect.item.energy ≤
      world.robot.fuel.value + item.energy := by
  cases rule with
  | @fuel id description power times fewer usable lowered =>
      have gained := Robot.fuel_addFuel_le fuelled power
      have spent : max power.value 0 * fewer.value =
          max power.value 0 * times.value - max power.value 0 := by
        rw [Quantity.decrement_eq_ok_iff.mp lowered, Int.mul_sub, Int.mul_one]
      show (world.robot.addFuel power).fuel.value + max power.value 0 * fewer.value ≤
        world.robot.fuel.value + max power.value 0 * times.value
      omega
  | garbage usable lowered => exact Int.le_refl _
  | codeCard worked => exact Int.le_refl _

/-- A use leaves a fuel cell with a number of uses. -/
theorem UseOf.isStocked {item : Item} {effect : ItemEffect} (rule : UseOf world item effect)
    (stocked : item.IsStocked) : effect.item.IsStocked := by
  cases rule with
  | @fuel id description power times fewer usable lowered =>
      rintro _ _ ⟨rfl, rfl⟩
      have before := stocked power times rfl
      have some : times.value ≠ 0 := fun none => usable (Quantity.ext none)
      rw [Quantity.decrement_eq_ok_iff.mp lowered]
      omega
  | garbage usable lowered =>
      intro power times kind
      cases kind
  | codeCard worked =>
      intro power times kind
      cases kind

/-! ## Instructions -/

theorem Performs.isStocked {instruction : Instruction} {attempt : Attempt}
    (rule : Performs world instruction attempt) (stocked : world.IsStocked) :
    attempt.world.IsStocked := by
  cases rule with
  | move went paid => exact stocked.of_le (stock_walked went _ _).le
  | pick found free => exact stocked.of_le (stock_picked_le found _)
  | drop found free => exact stocked.of_le (stock_dropped_le found _)
  | operate found rule =>
      rcases stock_operated found rule with ⟨rest, before, after⟩
      unfold IsStocked at stocked ⊢
      rw [before, Multiset.forall_mem_cons] at stocked
      rw [after]
      split
      · exact Multiset.forall_mem_cons.mpr ⟨rule.isStocked stocked.1, stocked.2⟩
      · exact stocked.2
  | _ => exact stocked

end World

/-- What a robot with some settings pays for an instruction. -/
def Instruction.cost (settings : EngineSettings) : Instruction → Int
  | .move => settings.moveCost.value
  | .turn _ => settings.turnCost.value
  | _ => 0

namespace World

variable {world : World}

theorem energy_le_of_stock_le {other : World} (sameRobot : other.robot.fuel = world.robot.fuel)
    (le : other.stock ≤ world.stock) (stocked : world.IsStocked) :
    other.energy ≤ world.energy := by
  have less := energyOf_le le stocked
  rw [energy, energy, sameRobot]
  omega

/-- An instruction that succeeds and leaves fuel in the tank has been paid for. -/
theorem Performs.energy_le {instruction : Instruction} {attempt : Attempt}
    (rule : Performs world instruction attempt) (stocked : world.IsStocked)
    (fuelled : 0 < world.robot.fuel.value) (running : 0 < attempt.world.robot.fuel.value) :
    attempt.world.energy + instruction.cost world.robot.settings ≤ world.energy := by
  cases rule with
  | @move moved amount went paid =>
      have spent := Robot.fuel_addFuel_of_negate paid running
      rw [energy, energy, stock_walked went]
      show (world.robot.addFuel amount).fuel.value + energyOf world.stock +
        world.robot.settings.moveCost.value ≤ _
      omega
  | @turn rotation amount paid =>
      have spent := Robot.fuel_addFuel_of_negate paid running
      show (world.robot.addFuel amount).fuel.value + energyOf world.stock +
        world.robot.settings.turnCost.value ≤ world.robot.fuel.value + energyOf world.stock
      omega
  | @pick id item found free =>
      have le : (world.picked (.pick id) id item).world.energy ≤ world.energy :=
        energy_le_of_stock_le rfl (stock_picked_le found _) stocked
      exact (Int.add_zero _).trans_le le
  | @drop id item found free =>
      have le : (world.dropped (.drop id) id item).world.energy ≤ world.energy :=
        energy_le_of_stock_le rfl (stock_dropped_le found _) stocked
      exact (Int.add_zero _).trans_le le
  | @operate id used item effect found rule =>
      rcases stock_operated found rule with ⟨rest, before, after⟩
      have given := rule.energy_le (Int.le_of_lt fuelled)
      have left := (rule.isStocked (stocked item (by rw [before]; simp))).energy_nonneg
      have cells : energyOf (operated id effect).world.stock ≤
          effect.item.energy + energyOf rest := by
        rw [after]
        split
        · exact (energyOf_cons _ _).le
        · omega
      have total : world.energy = world.robot.fuel.value + (item.energy + energyOf rest) := by
        rw [energy, before, energyOf_cons]
      show effect.world.robot.fuel.value + energyOf (operated id effect).world.stock + 0 ≤ _
      omega
  | _ => exact (Int.add_zero _).le

end World

/-! ## Runs -/

/-- Whether an instruction is one that a robot pays for. -/
def Instruction.isTravel : Instruction → Bool
  | .move => true
  | .turn _ => true
  | _ => false

/-- The least that a robot pays for a walk or a turn. -/
def EngineSettings.leastCost (settings : EngineSettings) : Int :=
  min settings.moveCost.value settings.turnCost.value

theorem Instruction.leastCost_le_cost (instruction : Instruction) (settings : EngineSettings) :
    (if instruction.isTravel then settings.leastCost else 0) ≤ instruction.cost settings := by
  cases instruction with
  | move => exact Int.min_le_left _ _
  | turn rotation => exact Int.min_le_right _ _
  | _ => exact Int.le_refl 0

namespace Engine

/-- The answers to some instructions that are carried out one after the other. -/
def executeAll (engine : Engine) : List Instruction → Except Breakdown (List Answer)
  | [] => return []
  | instruction :: rest => do
      let answer ← engine.execute instruction
      let answers ← answer.engine.executeAll rest
      return answer :: answers

/-- Whether an answer is that the robot has walked or turned. -/
def hasTravelled (instruction : Instruction) (answer : Answer) : Bool :=
  instruction.isTravel && answer.outcome? == some .executed

/-- How many of some instructions are walks and turns that succeeded. -/
def travels (instructions : List Instruction) (answers : List Answer) : Nat :=
  (instructions.zip answers).countP fun (instruction, answer) => hasTravelled instruction answer

variable {engine : Engine} {instruction : Instruction} {answer : Answer}

theorem fuel_pos_of_isOver_eq_false (goesOn : engine.isOver = false) :
    0 < engine.world.robot.fuel.value := by
  unfold isOver at goesOn
  rw [Bool.or_eq_false_iff, Bool.or_eq_false_iff, decide_eq_false_iff_not] at goesOn
  omega

theorem energy_pos (stocked : engine.world.IsStocked) (goesOn : engine.isOver = false) :
    0 < engine.world.energy := by
  have fuelled := fuel_pos_of_isOver_eq_false goesOn
  have cells := World.energyOf_nonneg stocked
  rw [World.energy]
  omega

theorem isStocked_execute (stocked : engine.world.IsStocked)
    (answered : engine.execute instruction = .ok answer) : answer.engine.world.IsStocked := by
  rcases execute_cases_of_any answered with ⟨failure, -, rfl⟩ | ⟨attempt, rule | mislays, rfl⟩
  · exact stocked
  · exact rule.isStocked stocked
  · exact stocked.of_le mislays.stock_le

/-- An instruction adds no energy, and a walk or a turn costs the least cost or more. -/
theorem energy_execute_le (stocked : engine.world.IsStocked) (goes : engine.isOver = false)
    (answered : engine.execute instruction = .ok answer)
    (goesOn : answer.engine.isOver = false) :
    answer.engine.world.energy +
        (if hasTravelled instruction answer then engine.world.robot.settings.leastCost else 0) ≤
      engine.world.energy := by
  have fuelled := fuel_pos_of_isOver_eq_false goes
  have running := fuel_pos_of_isOver_eq_false goesOn
  rcases execute_cases_of_any answered with ⟨failure, -, rfl⟩ | ⟨attempt, rule | mislays, rfl⟩
  · have rests : hasTravelled instruction (engine.rejected failure) = false :=
      Bool.and_false _
    rw [rests]
    exact (Int.add_zero _).le
  · have paid : attempt.world.energy + instruction.cost engine.world.robot.settings ≤
        engine.world.energy := rule.energy_le stocked fuelled running
    have least := instruction.leastCost_le_cost engine.world.robot.settings
    have travelled : hasTravelled instruction (engine.performed attempt) =
        instruction.isTravel := Bool.and_true _
    rw [travelled]
    exact (Int.add_le_add_left least _).trans paid
  · have rests : instruction.isTravel = false := by
      cases mislays with
      | astray handled found different => rcases handled with rfl | rfl <;> rfl
    have le : attempt.world.energy ≤ engine.world.energy := by
      refine World.energy_le_of_stock_le ?_ mislays.stock_le stocked
      cases mislays
      rfl
    rw [hasTravelled, rests]
    exact (Int.add_zero _).trans_le le

theorem travels_cons (instruction : Instruction) (answer : Answer)
    (instructions : List Instruction) (answers : List Answer) :
    travels (instruction :: instructions) (answer :: answers) =
      travels instructions answers + if hasTravelled instruction answer then 1 else 0 := by
  rw [travels, List.zip_cons_cons, List.countP_cons]
  rfl

/-- As long as a run is not over, its walks and turns have not used up the energy. -/
theorem leastCost_mul_travels_lt {instructions : List Instruction} {answers : List Answer}
    (stocked : engine.world.IsStocked) (ran : engine.executeAll instructions = .ok answers)
    (goes : engine.isOver = false) (goesOn : ∀ answer ∈ answers, answer.engine.isOver = false) :
    engine.world.robot.settings.leastCost * travels instructions answers <
      engine.world.energy := by
  induction instructions generalizing engine answers with
  | nil =>
      cases ran
      rw [travels, List.zip_nil_left, List.countP_nil, Int.natCast_zero, Int.mul_zero]
      exact energy_pos stocked goes
  | cons instruction rest ih =>
      rcases bind_eq_ok_iff.mp ran with ⟨answer, answered, further⟩
      rcases bind_eq_ok_iff.mp further with ⟨answers, ranOn, told⟩
      cases told
      rw [List.forall_mem_cons] at goesOn
      have called : engine.call (.execute instruction) = .ok answer := answered
      have settings := (keeps_call called).settings
      have paid := energy_execute_le stocked goes answered goesOn.1
      have later := ih (isStocked_execute stocked answered) ranOn goesOn.1 goesOn.2
      rw [settings] at later
      rw [travels_cons]
      split at paid
      · rename_i travelled
        rw [if_pos travelled, Int.natCast_add, Int.mul_add, Int.natCast_one, Int.mul_one]
        omega
      · rename_i rests
        rw [if_neg rests, Nat.add_zero]
        omega

/--
Fuel runs out.  In a run of instructions, none undone, that is not over at any
moment, what the walks and turns cost at least is less than the energy at the
start; so a run with as many of them as the energy can pay for has been over on
the way.
-/
theorem fuel_runs_out {instructions : List Instruction} {answers : List Answer}
    (stocked : engine.world.IsStocked) (ran : engine.executeAll instructions = .ok answers) :
    (engine.isOver = false → (∀ answer ∈ answers, answer.engine.isOver = false) →
      engine.world.robot.settings.leastCost * travels instructions answers <
        engine.world.energy) ∧
    (engine.world.energy ≤
        engine.world.robot.settings.leastCost * travels instructions answers →
      engine.isOver = true ∨ ∃ answer ∈ answers, answer.engine.isOver = true) := by
  refine ⟨leastCost_mul_travels_lt stocked ran, fun spent => ?_⟩
  by_contra running
  rw [not_or, Bool.not_eq_true, not_exists] at running
  have goesOn : ∀ answer ∈ answers, answer.engine.isOver = false := by
    intro answer member
    exact Bool.eq_false_iff.mpr fun ended => running.2 answer ⟨member, ended⟩
  have bound := leastCost_mul_travels_lt stocked ran running.1 goesOn
  exact absurd spent (Int.not_le.mpr bound)

/-- A robot on a meadow with fuel for two turns, and a cell there with fuel for two more. -/
def onTheMeadow : Engine where
  world :=
    { robot := .fresh
        { initialFuel := ⟨13, by decide, by decide⟩
          moveCost := ⟨8, by decide, by decide⟩
          turnCost := ⟨6, by decide, by decide⟩ }
      navigation :=
        { city :=
            { places :=
                [⟨"Meadow", "A meadow", false, .ofItems
                  [⟨"cell", "A cell", .fuel ⟨12, by decide, by decide⟩ .one⟩]⟩]
              streets := [] }
          current := 0
          heading := .north
          exists_current := by decide }
      inventory := .empty }
  history := []

/-- Four turns with the cell used between them, and a walk that fails. -/
def meadowTurns : List Instruction :=
  [.pick "cell", .turn .left, .turn .left, .operate "cell" none, .move, .turn .left, .turn .right]

theorem onTheMeadow_isStocked : onTheMeadow.world.IsStocked := by
  have stock : onTheMeadow.world.stock =
      {⟨"cell", "A cell", .fuel ⟨12, by decide, by decide⟩ .one⟩} := rfl
  intro item member power times kind
  rw [stock, Multiset.mem_singleton] at member
  subst member
  cases kind
  decide

/-- Four turns at six each are less than the energy of five and twenty. -/
theorem meadowTurns_are_paid_for :
    onTheMeadow.world.IsStocked ∧ onTheMeadow.world.energy = 25 ∧
      ∃ answers, onTheMeadow.executeAll meadowTurns = .ok answers ∧
        onTheMeadow.isOver = false ∧ (∀ answer ∈ answers, answer.engine.isOver = false) ∧
        travels meadowTurns answers = 4 ∧
        onTheMeadow.world.robot.settings.leastCost * travels meadowTurns answers <
          onTheMeadow.world.energy := by
  have ends : (onTheMeadow.executeAll meadowTurns).map (fun answers =>
      (answers.all fun answer => !answer.engine.isOver, travels meadowTurns answers)) =
        .ok (true, 4) := by
    decide
  have goes : onTheMeadow.isOver = false := by decide
  refine ⟨onTheMeadow_isStocked, rfl, ?_⟩
  cases ran : onTheMeadow.executeAll meadowTurns with
  | error breakdown =>
      rw [ran] at ends
      cases ends
  | ok answers =>
      rw [ran] at ends
      have ⟨running, count⟩ := Prod.mk.inj (Except.ok.inj ends)
      have goesOn : ∀ answer ∈ answers, answer.engine.isOver = false := by
        intro answer member
        exact (Bool.not_eq_true' _).mp (List.all_eq_true.mp running answer member)
      exact ⟨answers, rfl, goes, goesOn, count,
        (fuel_runs_out onTheMeadow_isStocked ran).1 goes goesOn⟩

end Engine

end Rover
