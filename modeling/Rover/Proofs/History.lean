import Mathlib.Algebra.Group.Prod
import Mathlib.Algebra.Group.Int.Defs
import Rover.Proofs.Retrace
import Rover.Proofs.Run

/-!
# The history as a log

A run that starts in an orderly world with nothing to undo is at all times
where its history leads: to carry out afresh what is left of the history gives
the same place, heading, doors, items and bag.  Counters agree as well if none
of them met an end of its range on the way.
-/

namespace Rover

/-! ## What counters gain -/

/-- An amount that goes to a counter; a loss is a negative amount. -/
inductive Addition where
  | fuel (amount : Int)
  | recycled (amount : Int)

namespace Addition

/-- The amounts for the fuel and for the recycled material. -/
def amounts : Addition → Int × Int
  | .fuel amount => (amount, 0)
  | .recycled amount => (0, amount)

/-- The addition that takes an addition back. -/
def opposite : Addition → Addition
  | .fuel amount => .fuel (-amount)
  | .recycled amount => .recycled (-amount)

/-- The amounts of an addition, if there is one. -/
def total (addition : Option Addition) : Int × Int :=
  (addition.map amounts).getD (0, 0)

theorem total_opposite (addition : Option Addition) :
    total (addition.map opposite) = -total addition := by
  rcases addition with _ | _ | _ <;> simp [total, opposite, amounts]

end Addition

/-- What a use of an item of the kind adds. -/
def ItemKind.gain : ItemKind → Option Addition
  | .fuel power _ => some (.fuel power.value)
  | .garbage material _ => some (.recycled material.value)
  | .codeCard _ => none
  | .generic => none

/-- What an instruction has added, as it is remembered. -/
def Instruction.gain (settings : EngineSettings) : Instruction → Option Addition
  | .move => some (.fuel (-settings.moveCost.value))
  | .turn _ => some (.fuel (-settings.turnCost.value))
  | .operate _ used => used.bind fun item => item.kind.gain
  | _ => none

namespace Robot

/-- The fuel and the recycled material. -/
def tally (robot : Robot) : Int × Int :=
  (robot.fuel.value, robot.recycled.value)

/-- Whether an addition stays between the ends of its counter: nought and the greatest for fuel. -/
def HasRoomFor (robot : Robot) : Addition → Prop
  | .fuel amount =>
      0 ≤ robot.fuel.value + amount ∧ robot.fuel.value + amount ≤ 2147483647
  | .recycled amount =>
      -2147483648 ≤ robot.recycled.value + amount ∧
        robot.recycled.value + amount ≤ 2147483647

theorem tally_addFuel {robot : Robot} {amount : Quantity} {value : Int}
    (same : amount.value = value) (room : robot.HasRoomFor (.fuel value)) :
    (robot.addFuel amount).tally = robot.tally + (value, 0) := by
  subst same
  rcases room with ⟨lower, upper⟩
  refine Prod.ext ?_ ?_
  · show (robot.addFuel amount).fuel.value = robot.fuel.value + amount.value
    rw [fuel_addFuel]
    omega
  · exact (add_zero robot.recycled.value).symm

theorem tally_addRecycled {robot : Robot} {amount : Quantity} {value : Int}
    (same : amount.value = value) (room : robot.HasRoomFor (.recycled value)) :
    (robot.addRecycled amount).tally = robot.tally + (0, value) := by
  subst same
  rcases room with ⟨lower, upper⟩
  refine Prod.ext ?_ ?_
  · exact (add_zero robot.fuel.value).symm
  · show (robot.addRecycled amount).recycled.value = robot.recycled.value + amount.value
    rw [recycled_addRecycled]
    omega

/--
A robot becomes another one by an addition that stops at the ends of its counter,
or both of its counters stay as they are.
-/
inductive Gains (robot : Robot) : Option Addition → Robot → Prop
  | nothing {after : Robot} (fuel : after.fuel = robot.fuel)
      (recycled : after.recycled = robot.recycled) : Gains robot none after
  | fuel {amount : Quantity} {value : Int} (same : amount.value = value) :
      Gains robot (some (.fuel value)) (robot.addFuel amount)
  | recycled {amount : Quantity} {value : Int} (same : amount.value = value) :
      Gains robot (some (.recycled value)) (robot.addRecycled amount)

/-- With room in the counters, an addition adds in full. -/
theorem Gains.tally_eq {robot after : Robot} {given : Option Addition}
    (gains : robot.Gains given after)
    (room : ∀ addition ∈ given, robot.HasRoomFor addition) :
    after.tally = robot.tally + Addition.total given := by
  cases gains with
  | nothing fuel recycled =>
      have same : after.tally = robot.tally := by rw [tally, fuel, recycled, tally]
      exact same.trans (add_zero robot.tally).symm
  | fuel same => exact tally_addFuel same (room _ rfl)
  | recycled same => exact tally_addRecycled same (room _ rfl)

end Robot

namespace World

theorem UseOf.gain_eq {world : World} {item : Item} {effect : ItemEffect}
    (rule : UseOf world item effect) : effect.item.kind.gain = item.kind.gain := by
  cases rule <;> rfl

theorem UseOf.gains {world : World} {item : Item} {effect : ItemEffect}
    (rule : UseOf world item effect) : world.robot.Gains item.kind.gain effect.world.robot := by
  cases rule with
  | fuel => exact .fuel rfl
  | garbage => exact .recycled rfl
  | codeCard => exact .nothing rfl rfl

/-- An instruction adds what it is remembered for. -/
theorem Performs.gains {world : World} {instruction : Instruction} {attempt : Attempt}
    (rule : Performs world instruction attempt) :
    world.robot.Gains (attempt.instruction.gain world.robot.settings) attempt.world.robot := by
  cases rule with
  | move went paid => exact .fuel (Quantity.negate_eq_ok_iff.mp paid)
  | turn paid => exact .fuel (Quantity.negate_eq_ok_iff.mp paid)
  | @operate id used item effect found rule =>
      show world.robot.Gains effect.item.kind.gain effect.world.robot
      rw [rule.gain_eq]
      exact rule.gains
  | _ => exact .nothing rfl rfl

theorem ReturnOf.gains {world : World} {item : Item} {effect : ItemEffect}
    (rule : ReturnOf world item effect) :
    world.robot.Gains (item.kind.gain.map Addition.opposite) effect.world.robot := by
  cases rule with
  | held kind negated present raised =>
      rw [kind]
      exact .fuel (Quantity.negate_eq_ok_iff.mp negated)
  | fuel kind negated missing raised =>
      rw [kind]
      exact .fuel (Quantity.negate_eq_ok_iff.mp negated)
  | garbage kind negated =>
      rw [kind]
      exact .recycled (Quantity.negate_eq_ok_iff.mp negated)
  | codeCard kind worked =>
      rw [kind]
      exact .nothing rfl rfl

/-- An undoing adds the opposite. -/
theorem Retracts.gains {world : World} {instruction : Instruction} {attempt : Attempt}
    (rule : Retracts world instruction attempt) :
    world.robot.Gains ((instruction.gain world.robot.settings).map Addition.opposite)
      attempt.world.robot := by
  cases rule with
  | move went => exact .fuel (neg_neg _).symm
  | turn => exact .fuel (neg_neg _).symm
  | operate rule => exact rule.gains
  | _ => exact .nothing rfl rfl

end World

namespace Engine

/-! ## Runs within the range -/

/-- What a call that succeeded has added: an undo the opposite of what it takes back. -/
def Call.addition (engine : Engine) (answer : Answer) : Call → Option Addition
  | .execute _ =>
      answer.engine.history.head?.bind fun latest => latest.gain engine.world.robot.settings
  | .undo =>
      (engine.history.head?.bind fun latest =>
        latest.gain engine.world.robot.settings).map Addition.opposite
  | _ => none

/-- Whether a call, by its answer, finds room in the counters for what it adds. -/
def HasRoom (engine : Engine) (request : Call) (answer : Answer) : Prop :=
  answer.outcome? = some .executed →
    ∀ addition ∈ request.addition engine answer, engine.world.robot.HasRoomFor addition

/-- Whether all calls of a run find room in the counters for what they add. -/
def RunsUnclamped (engine : Engine) : List Call → Prop
  | [] => True
  | request :: rest =>
      ∀ answer, engine.call request = .ok answer →
        engine.HasRoom request answer ∧ answer.engine.RunsUnclamped rest

/-! ## Where a history leads -/

/--
Where the instructions of a history lead from a start, each carried out as it
was given and with success, the oldest first.
-/
inductive Replays (start : Engine) : List Instruction → Engine → Prop
  | start : Replays start [] start
  | next {history : List Instruction} {engine : Engine} {remembered : Instruction}
      {answer : Answer} (earlier : Replays start history engine)
      (done : engine.execute remembered.fresh = .ok answer)
      (succeeded : answer.outcome? = some .executed) :
      Replays start (remembered :: history) answer.engine

/-- Where a history leads, by the rules of its instructions; counted if counters add up. -/
inductive Retraces (counted : Prop) (start : World) : List Instruction → World → Prop
  | start : Retraces counted start [] start
  | next {history : List Instruction} {world : World} {instruction : Instruction}
      {attempt : Attempt} (earlier : Retraces counted start history world)
      (fresh : instruction.fresh = instruction)
      (rule : World.Performs world instruction attempt)
      (adds : counted → attempt.world.robot.tally =
        world.robot.tally + Addition.total (attempt.instruction.gain world.robot.settings)) :
      Retraces counted start (attempt.instruction :: history) attempt.world

variable {counted : Prop} {start : World} {engine : Engine}

theorem Retraces.isOrderly {history : List Instruction} {world : World}
    (orderly : start.IsOrderly) (leads : Retraces counted start history world) :
    world.IsOrderly := by
  induction leads with
  | start => exact orderly
  | next earlier fresh rule adds ih => exact rule.isOrderly ih

theorem performs_fresh {world : World} {instruction : Instruction} {attempt : Attempt}
    (rule : World.Performs world instruction attempt) :
    attempt.instruction.fresh = instruction.fresh := by
  cases rule <;> rfl

theorem Retraces.replays {history : List Instruction} {world : World}
    (orderly : engine.world.IsOrderly) (leads : Retraces counted engine.world history world) :
    ∃ replayed, engine.Replays history replayed ∧ replayed.world = world := by
  induction leads with
  | start => exact ⟨engine, .start, rfl⟩
  | @next history world instruction attempt earlier fresh rule adds ih =>
      rcases ih with ⟨reached, replays, rfl⟩
      have keyed := (earlier.isOrderly orderly).keyed.inventory
      have done : reached.execute attempt.instruction.fresh = .ok (reached.performed attempt) := by
        rw [performs_fresh rule, fresh]
        exact execute_of_performs keyed rule
      exact ⟨_, .next replays done rfl, rfl⟩

/-- An engine is where its history leads. -/
def Logged (counted : Prop) (start : World) (engine : Engine) : Prop :=
  ∃ world, Retraces counted start engine.history world ∧ world.Agrees engine.world ∧
    (counted → engine.world.robot.tally = world.robot.tally)

theorem Logged.isKeyed (orderly : start.IsOrderly) (logged : Logged counted start engine) :
    engine.world.IsKeyed := by
  rcases logged with ⟨world, leads, agrees, -⟩
  exact agrees.isKeyed (leads.isOrderly orderly).keyed

theorem hasRoomFor_of_tally {left right : Robot} (same : left.tally = right.tally)
    {addition : Addition} (room : left.HasRoomFor addition) : right.HasRoomFor addition := by
  rcases Prod.mk.inj same with ⟨sameFuel, sameRecycled⟩
  cases addition with
  | fuel amount =>
      show 0 ≤ right.fuel.value + amount ∧ right.fuel.value + amount ≤ 2147483647
      rw [← sameFuel]
      exact room
  | recycled amount =>
      show -2147483648 ≤ right.recycled.value + amount ∧
        right.recycled.value + amount ≤ 2147483647
      rw [← sameRecycled]
      exact room

theorem Logged.performed (logged : Logged counted start engine) {instruction : Instruction}
    (fresh : instruction.fresh = instruction) {attempt : Attempt}
    (rule : World.Performs engine.world instruction attempt)
    (room : counted → ∀ addition ∈ attempt.instruction.gain engine.world.robot.settings,
      engine.world.robot.HasRoomFor addition) :
    Logged counted start (engine.performed attempt).engine := by
  rcases logged with ⟨world, leads, agrees, tally⟩
  have back : engine.world.Agrees world :=
    ⟨agrees.settings.symm, agrees.navigation.symm, agrees.inventory.symm⟩
  rcases rule.of_agrees back with ⟨same, sameRule, sameInstruction, further⟩
  have adds : counted → same.world.robot.tally = world.robot.tally +
      Addition.total (same.instruction.gain world.robot.settings) := by
    intro counting
    apply sameRule.gains.tally_eq
    rw [sameInstruction, back.settings]
    intro addition gained
    exact hasRoomFor_of_tally (tally counting) (room counting addition gained)
  refine ⟨same.world, ?_, ?_, ?_⟩
  · show Retraces counted start (attempt.instruction :: engine.history) same.world
    rw [← sameInstruction]
    exact .next leads fresh sameRule adds
  · exact ⟨further.settings.symm, further.navigation.symm, further.inventory.symm⟩
  · intro counting
    show attempt.world.robot.tally = same.world.robot.tally
    rw [adds counting, rule.gains.tally_eq (room counting), tally counting, sameInstruction,
      back.settings]

/-- The last instruction can be undone, and what is left of the history leads to where that is. -/
theorem Logged.undo (orderly : start.IsOrderly) (logged : Logged counted start engine)
    {remembered : Instruction} {history : List Instruction}
    (latest : engine.history = remembered :: history) {answer : Answer}
    (answered : engine.undo = .ok answer) :
    answer.outcome? = some .executed ∧
      ((counted → ∀ addition ∈
          (remembered.gain engine.world.robot.settings).map Addition.opposite,
          engine.world.robot.HasRoomFor addition) →
        Logged counted start answer.engine) := by
  have keyed := (logged.isKeyed orderly).inventory
  rcases logged with ⟨world, leads, agrees, tally⟩
  rw [latest] at leads
  cases leads with
  | @next _ world instruction attempt earlier fresh rule adds =>
      rcases undo_cases keyed answered with ⟨nothing, -⟩ | ⟨last, rest, found, outcome⟩
      · cases latest.symm.trans nothing
      · cases latest.symm.trans found
        have undone : ∀ undone, engine.world.undo attempt.instruction = .ok undone →
            World.Retracts engine.world attempt.instruction undone ∧
              world.Agrees undone.world :=
          fun _ => rule.undone (earlier.isOrderly orderly) agrees
        rcases outcome with ⟨failure, tried, -⟩ | ⟨back, retracted, rfl⟩
        · have impossible := retracts_failure? (undone _ tried).1
          cases impossible
        · have reached := (undone back (retracted.undo keyed)).2
          refine ⟨rfl, fun room => ⟨world, earlier, reached, fun counting => ?_⟩⟩
          show back.world.robot.tally = world.robot.tally
          have settings : engine.world.robot.settings = world.robot.settings :=
            agrees.settings.trans rule.keeps.settings
          rw [retracted.gains.tally_eq (room counting), tally counting, adds counting,
            Addition.total_opposite, settings, add_neg_cancel_right]

theorem Logged.call (orderly : start.IsOrderly) (logged : Logged counted start engine)
    {request : Call} (play : request.IsPlay) {answer : Answer}
    (answered : engine.call request = .ok answer)
    (room : counted → engine.HasRoom request answer) :
    Logged counted start answer.engine := by
  have keyed := (logged.isKeyed orderly).inventory
  cases request with
  | execute instruction =>
      rcases execute_cases keyed answered with ⟨failure, -, rfl⟩ | ⟨attempt, rule, rfl⟩
      · exact logged
      · exact logged.performed play rule fun counting => room counting rfl
  | undo =>
      cases latest : engine.history with
      | nil =>
          rcases undo_cases keyed answered with ⟨-, rfl⟩ | ⟨last, rest, found, -⟩
          · exact logged
          · cases latest.symm.trans found
      | cons remembered history =>
          rcases logged.undo orderly latest answered with ⟨executed, leads⟩
          refine leads fun counting addition taken => ?_
          apply room counting executed addition
          show addition ∈ (engine.history.head?.bind fun latest =>
            latest.gain engine.world.robot.settings).map Addition.opposite
          rw [latest]
          exact taken
  | _ => cases play

theorem Logged.run (orderly : start.IsOrderly) (logged : Logged counted start engine)
    {calls : List Call} (play : ∀ request ∈ calls, request.IsPlay)
    (room : counted → engine.RunsUnclamped calls) {last : Engine} {events : List Event}
    (ran : engine.run calls = .ok (last, events)) : Logged counted start last := by
  induction calls generalizing engine events with
  | nil =>
      cases ran
      exact logged
  | cons request rest ih =>
      rw [Engine.run] at ran
      rcases bind_eq_ok_iff.mp ran with ⟨answer, answered, further⟩
      rcases bind_eq_ok_iff.mp further with ⟨reached, ranOn, told⟩
      cases told
      have next := logged.call orderly (play request List.mem_cons_self) answered
        fun counting => (room counting answer answered).1
      exact ih next (fun later member => play later (List.mem_cons_of_mem _ member))
        (fun counting => (room counting answer answered).2) ranOn

/--
A run of instructions and undos that starts in an orderly world without a
history is where its history leads, carried out afresh with success throughout,
and the last entry of the history can be undone.  Fuel and recycled material
agree too if the run found room for all that it added to them.
-/
theorem run_is_where_history_leads {first last : Engine} {calls : List Call}
    {events : List Event} (nothing : first.history = []) (orderly : first.world.IsOrderly)
    (play : ∀ request ∈ calls, request.IsPlay)
    (ran : first.run calls = .ok (last, events)) :
    (∀ answer, last.history ≠ [] → last.undo = .ok answer →
      answer.outcome? = some .executed) ∧
    ∃ replayed, first.Replays last.history replayed ∧
      last.world.navigation = replayed.world.navigation ∧
      last.world.inventory = replayed.world.inventory ∧
      (first.RunsUnclamped calls →
        last.world.robot.fuel = replayed.world.robot.fuel ∧
        last.world.robot.recycled = replayed.world.robot.recycled) := by
  have outset : Logged (first.RunsUnclamped calls) first.world first := by
    refine ⟨first.world, ?_, .refl _, fun _ => rfl⟩
    rw [nothing]
    exact .start
  have logged := outset.run orderly play id ran
  constructor
  · intro answer something answered
    rcases List.exists_cons_of_ne_nil something with ⟨remembered, history, latest⟩
    exact (logged.undo orderly latest answered).1
  · rcases logged with ⟨world, leads, agrees, tally⟩
    rcases leads.replays orderly with ⟨replayed, replays, rfl⟩
    refine ⟨replayed, replays, agrees.navigation, agrees.inventory, fun counted => ?_⟩
    rcases Prod.mk.inj (tally counted) with ⟨sameFuel, sameRecycled⟩
    exact ⟨Quantity.ext sameFuel, Quantity.ext sameRecycled⟩

/-- A robot in a yard with a card for the gate to the hall, where a can lies. -/
def atTheGate : Engine where
  world :=
    { robot := .fresh .standard
      navigation :=
        { city :=
            { places :=
                [⟨"Yard", "A yard", false, .ofItems [⟨"card", "A card", .codeCard "red"⟩]⟩,
                  ⟨"Hall", "A hall", false, .ofItems [⟨"can", "A can", .garbage .one .one⟩]⟩]
              streets := [⟨0, .north, 1, false, "red"⟩] }
          current := 0
          heading := .north
          exists_current := by decide }
      inventory := .empty }
  history := []

/-- Through the gate and back, with the can left used behind it. -/
def throughTheGate : List Call :=
  [.execute (.pick "card"), .execute (.operate "card" none), .execute .move,
    .execute (.pick "can"), .execute (.operate "can" none), .undo, .undo, .undo]

theorem atTheGate_isOrderly : atTheGate.world.IsOrderly where
  keyed := ⟨by simp only [Bag.IsKeyed]; decide, Bag.isKeyed_empty⟩
  single := by
    refine ⟨?_, Bag.all_empty⟩
    intro place member
    rcases List.mem_pair.mp member with rfl | rfl
    · exact Bag.all_empty.add trivial
    · exact Bag.all_empty.add rfl
  distinct := List.pairwise_singleton _ _

/-- The robot is back in the yard, with the gate open. -/
theorem atTheGate_is_where_history_leads :
    atTheGate.history = [] ∧ atTheGate.world.IsOrderly ∧
      (∀ request ∈ throughTheGate, request.IsPlay) ∧
      ∃ last events, atTheGate.run throughTheGate = .ok (last, events) ∧
        last.history = [.operate "card" (some ⟨"card", "A card", .codeCard "red"⟩),
          .pick "card"] ∧
        (∀ answer, last.history ≠ [] → last.undo = .ok answer →
          answer.outcome? = some .executed) ∧
        ∃ replayed, atTheGate.Replays last.history replayed ∧
          last.world.navigation = replayed.world.navigation ∧
          last.world.inventory = replayed.world.inventory ∧
          (atTheGate.RunsUnclamped throughTheGate →
            last.world.robot.fuel = replayed.world.robot.fuel ∧
            last.world.robot.recycled = replayed.world.robot.recycled) := by
  have play : ∀ request ∈ throughTheGate, request.IsPlay := by
    simp [throughTheGate, Call.IsPlay, Instruction.fresh]
  have ends : (atTheGate.run throughTheGate).map (fun reached => reached.1.history) =
      .ok [.operate "card" (some ⟨"card", "A card", .codeCard "red"⟩), .pick "card"] := by
    decide
  refine ⟨rfl, atTheGate_isOrderly, play, ?_⟩
  cases ran : atTheGate.run throughTheGate with
  | error breakdown =>
      rw [ran] at ends
      cases ends
  | ok reached =>
      rw [ran] at ends
      exact ⟨reached.1, reached.2, rfl, Except.ok.inj ends,
        run_is_where_history_leads rfl atTheGate_isOrderly play ran⟩

end Engine

end Rover
