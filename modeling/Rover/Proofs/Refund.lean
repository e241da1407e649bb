import Rover.Proofs.Fuel
import Rover.Proofs.History

/-!
# What an undo gives back

An instruction adds something to one counter at most, and its undoing adds the
opposite.  Both additions stop at the ends of the counter, and the second knows
nothing of what the first has cut off.  So the counters are what they were
exactly if the first one found room.  A robot with too little in its tank for
what it pays gets the whole price back, which is more than it had.
-/

namespace Rover

namespace Robot

variable {robot middle last : Robot}

/-- An addition and its opposite leave the counters as they were if there was room for the first. -/
theorem Gains.restores_iff {given : Option Addition} (gains : robot.Gains given middle)
    (returns : middle.Gains (given.map Addition.opposite) last)
    (fuelled : 0 ≤ robot.fuel.value) :
    (last.fuel = robot.fuel ∧ last.recycled = robot.recycled) ↔
      ∀ addition ∈ given, robot.HasRoomFor addition := by
  cases gains with
  | nothing sameFuel sameRecycled =>
      cases returns with
      | nothing fuel recycled =>
          refine iff_of_true ⟨fuel.trans sameFuel, recycled.trans sameRecycled⟩ ?_
          intro addition member
          cases member
  | @fuel amount value same =>
      cases returns with
      | @fuel back _ opposite =>
          have upper := robot.fuel.upper
          have amountFits := amount.upper
          have backFits := back.upper
          have sum : ((robot.addFuel amount).addFuel back).fuel = robot.fuel ↔
              0 ≤ robot.fuel.value + value ∧ robot.fuel.value + value ≤ 2147483647 := by
            rw [Quantity.ext_iff, fuel_addFuel, fuel_addFuel]
            omega
          simpa [HasRoomFor, addFuel] using sum
  | @recycled amount value same =>
      cases returns with
      | @recycled back _ opposite =>
          have lower := robot.recycled.lower
          have upper := robot.recycled.upper
          have amountFits := amount.upper
          have backFits := back.upper
          have sum : ((robot.addRecycled amount).addRecycled back).recycled = robot.recycled ↔
              -2147483648 ≤ robot.recycled.value + value ∧
                robot.recycled.value + value ≤ 2147483647 := by
            rw [Quantity.ext_iff, recycled_addRecycled, recycled_addRecycled]
            omega
          simpa [HasRoomFor, addRecycled] using sum

/-- An addition and its opposite leave more fuel than there was if the first went below nought. -/
theorem Gains.exceeds_iff {given : Option Addition} (gains : robot.Gains given middle)
    (returns : middle.Gains (given.map Addition.opposite) last)
    (fuelled : 0 ≤ robot.fuel.value) :
    robot.fuel.value < last.fuel.value ↔
      ∃ amount, given = some (.fuel amount) ∧ robot.fuel.value + amount < 0 := by
  cases gains with
  | nothing sameFuel sameRecycled =>
      cases returns with
      | nothing fuel recycled => simp [fuel, sameFuel]
  | @fuel amount value same =>
      cases returns with
      | @fuel back _ opposite =>
          have upper := robot.fuel.upper
          have backFits := back.upper
          have sum : robot.fuel.value < ((robot.addFuel amount).addFuel back).fuel.value ↔
              robot.fuel.value + value < 0 := by
            rw [fuel_addFuel, fuel_addFuel]
            omega
          simpa using sum
  | recycled same =>
      cases returns with
      | recycled opposite => simp [addRecycled]

end Robot

namespace World

/-- Neither counter has a part in mislaying an item. -/
theorem Mislays.gain_eq_none {world : World} {instruction : Instruction} {attempt : Attempt}
    (mislays : Mislays world instruction attempt) (settings : EngineSettings) :
    instruction.gain settings = none ∧ attempt.instruction.gain settings = none := by
  cases mislays with
  | astray handled found different => rcases handled with rfl | rfl <;> exact ⟨rfl, rfl⟩

theorem Mislays.robot_eq {world : World} {instruction : Instruction} {attempt : Attempt}
    (mislays : Mislays world instruction attempt) : attempt.world.robot = world.robot := by
  cases mislays
  rfl

end World

namespace Engine

variable {engine : Engine} {answer : Answer}

/-- An instruction that is executed is kept for what it has added. -/
theorem gains_of_execute {instruction : Instruction}
    (done : engine.execute instruction = .ok answer)
    (executed : answer.outcome? = some .executed) :
    ∃ latest, answer.engine.history = latest :: engine.history ∧
      engine.world.robot.Gains (latest.gain engine.world.robot.settings)
        answer.engine.world.robot := by
  rcases execute_cases_of_any done with ⟨failure, -, rfl⟩ | ⟨attempt, rule | mislays, rfl⟩
  · cases executed
  · exact ⟨attempt.instruction, rfl, rule.gains⟩
  · refine ⟨attempt.instruction, rfl, ?_⟩
    rw [(mislays.gain_eq_none _).2]
    exact .nothing (congrArg Robot.fuel mislays.robot_eq)
      (congrArg Robot.recycled mislays.robot_eq)

/-- An undo that is executed adds the opposite of what the latest instruction is kept for. -/
theorem gains_of_undo {latest : Instruction} {earlier : List Instruction}
    (history : engine.history = latest :: earlier) (done : engine.undo = .ok answer)
    (executed : answer.outcome? = some .executed) :
    engine.world.robot.Gains
      ((latest.gain engine.world.robot.settings).map Addition.opposite)
      answer.engine.world.robot := by
  rcases undo_cases_of_any done with
    ⟨-, rfl⟩ | ⟨last, rest, found, ⟨failure, -, rfl⟩ | ⟨attempt, rule | mislays, rfl⟩⟩
  · cases executed
  · cases executed
  · cases history.symm.trans found
    exact rule.gains
  · cases history.symm.trans found
    rw [(mislays.gain_eq_none _).1]
    exact .nothing (congrArg Robot.fuel mislays.robot_eq)
      (congrArg Robot.recycled mislays.robot_eq)

/-- A tank that did not start in debt is never in debt. -/
theorem Course.fuel_nonneg {city : City} {place : PlaceId} {heading : Direction}
    {settings : EngineSettings} {last : Engine} {events : List Event}
    (started : start city place heading settings = .ok engine)
    (fuelled : 0 ≤ settings.initialFuel.value) (course : engine.Course last events) :
    0 ≤ last.world.robot.fuel.value := by
  have admitted := course.leadsTo.fuel
  rw [robot_of_start started, admits_fresh_iff] at admitted
  rcases admitted with positive | same
  · exact positive
  · rw [same]
    exact fuelled

/--
Wherever an engine has got to from a start without a debt, an instruction that
is executed and undone at once leaves fuel and recycled material as they were
exactly if what it added stayed between the ends of its counter.  It leaves more
fuel than there was exactly if it took more than was in the tank.
-/
theorem undo_restores_counters_iff {city : City} {place : PlaceId} {heading : Direction}
    {settings : EngineSettings} {reached : Engine} {events : List Event}
    {instruction : Instruction} {back : Answer}
    (started : start city place heading settings = .ok engine)
    (fuelled : 0 ≤ settings.initialFuel.value) (course : engine.Course reached events)
    (done : reached.execute instruction = .ok answer)
    (executed : answer.outcome? = some .executed)
    (undone : answer.engine.undo = .ok back) (retracted : back.outcome? = some .executed) :
    ((back.engine.world.robot.fuel = reached.world.robot.fuel ∧
        back.engine.world.robot.recycled = reached.world.robot.recycled) ↔
      ∀ addition ∈ Call.addition reached answer (.execute instruction),
        reached.world.robot.HasRoomFor addition) ∧
    (reached.world.robot.fuel.value < back.engine.world.robot.fuel.value ↔
      ∃ amount, Call.addition reached answer (.execute instruction) = some (.fuel amount) ∧
        reached.world.robot.fuel.value + amount < 0) := by
  have solvent := course.fuel_nonneg started fuelled
  have answered : reached.call (.execute instruction) = .ok answer := done
  have costs := (keeps_call answered).settings
  rcases gains_of_execute done executed with ⟨latest, history, gains⟩
  have returns := gains_of_undo history undone retracted
  rw [costs] at returns
  have added : Call.addition reached answer (.execute instruction) =
      latest.gain reached.world.robot.settings := by
    show (answer.engine.history.head?.bind fun latest => _) = _
    rw [history]
    rfl
  rw [added]
  exact ⟨gains.restores_iff returns solvent, gains.exceeds_iff returns solvent⟩

/-- Settings for a run that starts with less fuel than a turn costs. -/
def nearlyDry : EngineSettings :=
  { EngineSettings.standard with initialFuel := .nearest 3 }

/-- A robot in a lane at the start of such a run. -/
def onReserve : Engine where
  world :=
    ⟨.fresh nearlyDry, ⟨⟨[⟨"Lane", "A lane", false, .empty⟩], []⟩, 0, .north, by decide⟩, .empty⟩
  history := []

/-- It turns with what it has, and has the price of the turn once that is undone. -/
theorem onReserve_has_more_fuel_after_undo :
    start onReserve.world.navigation.city 0 .north nearlyDry = .ok onReserve ∧
      ∃ answer back, onReserve.execute (.turn .left) = .ok answer ∧
        answer.outcome? = some .executed ∧ answer.engine.undo = .ok back ∧
        back.outcome? = some .executed ∧
        onReserve.world.robot.fuel.value < back.engine.world.robot.fuel.value ∧
        ¬ (back.engine.world.robot.fuel = onReserve.world.robot.fuel ∧
          back.engine.world.robot.recycled = onReserve.world.robot.recycled) := by
  have started : start onReserve.world.navigation.city 0 .north nearlyDry = .ok onReserve := rfl
  refine ⟨started, _, _, rfl, rfl, rfl, rfl, ?_⟩
  have law := undo_restores_counters_iff started (by decide) .none
    (show onReserve.execute (.turn .left) = .ok _ from rfl) rfl rfl rfl
  refine ⟨law.2.mpr ⟨-5, rfl, by decide⟩, fun restored => ?_⟩
  have room := (law.1.mp restored (.fuel (-5)) rfl).1
  cases room

end Engine

end Rover
