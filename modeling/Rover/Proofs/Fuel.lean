import Rover.Proofs.Run

/-!
# Fuel below nought

Fuel that is added or set stops at nought, but a start fills the tank with
exactly what the settings say.  So there are two kinds of amounts that a tank
ever holds and that onlookers are ever told of: those that are not below
nought, and the initial fuel.  Fuel is never negative, and never seen to be,
exactly if the initial fuel is not.

This holds of all that can be done to an engine: of its calls, and of the work
of somebody to whom it has handed out its parts.
-/

namespace Rover

/-- The fuel that an event tells of. -/
def Event.fuel? : Event → Option Quantity
  | .stateUpdated fuel _ => some fuel
  | _ => none

theorem Quantity.orZero_nonneg (quantity : Quantity) : 0 ≤ quantity.orZero.value :=
  Int.le_max_right _ _

namespace Robot

/-- An amount of fuel is not negative, or it is what the robot has or would start with. -/
def Admits (robot : Robot) (fuel : Quantity) : Prop :=
  0 ≤ fuel.value ∨ fuel = robot.fuel ∨ fuel = robot.settings.initialFuel

/-- A robot becomes another one, and onlookers are told of some events on the way. -/
structure LeadsTo (before after : Robot) (events : List Event) : Prop where
  settings : after.settings = before.settings
  fuel : before.Admits after.fuel
  told : ∀ fuel ∈ events.filterMap Event.fuel?, before.Admits fuel

variable {before middle after : Robot} {events others : List Event}

theorem admits_fuel (robot : Robot) : robot.Admits robot.fuel :=
  Or.inr (Or.inl rfl)

theorem admits_addFuel (robot : Robot) (amount : Quantity) :
    robot.Admits (robot.addFuel amount).fuel :=
  Or.inl (Quantity.orZero_nonneg _)

theorem admits_setFuel (robot : Robot) (amount : Quantity) :
    robot.Admits (robot.setFuel amount).fuel :=
  Or.inl (Quantity.orZero_nonneg _)

/-- Nothing happens to the counters, and onlookers are not told of them. -/
theorem leadsTo_of_silence (silent : events.filterMap Event.fuel? = []) :
    before.LeadsTo before events := by
  refine ⟨rfl, before.admits_fuel, ?_⟩
  rw [silent]
  intro fuel member
  cases member

/-- The counters change, and onlookers are told of them once, after that. -/
theorem leadsTo_of_report (settings : after.settings = before.settings)
    (admitted : before.Admits after.fuel) (told : events.filterMap Event.fuel? = [after.fuel]) :
    before.LeadsTo after events := by
  refine ⟨settings, admitted, ?_⟩
  rw [told]
  intro fuel member
  rw [List.mem_singleton.mp member]
  exact admitted

theorem LeadsTo.admits (leads : before.LeadsTo middle events) {fuel : Quantity}
    (admitted : middle.Admits fuel) : before.Admits fuel := by
  rcases admitted with positive | rfl | rfl
  · exact Or.inl positive
  · exact leads.fuel
  · rw [leads.settings]
    exact Or.inr (Or.inr rfl)

theorem LeadsTo.trans (earlier : before.LeadsTo middle events)
    (later : middle.LeadsTo after others) : before.LeadsTo after (events ++ others) := by
  constructor
  · exact later.settings.trans earlier.settings
  · exact earlier.admits later.fuel
  · intro fuel member
    rw [List.filterMap_append] at member
    rcases List.mem_append.mp member with first | second
    · exact earlier.told fuel first
    · exact earlier.admits (later.told fuel second)

theorem leadsTo_quit (robot : Robot) : robot.LeadsTo robot.quit [] := by
  refine ⟨rfl, robot.admits_fuel, ?_⟩
  intro fuel member
  cases member

end Robot

/-! ## Instructions -/

namespace World

variable {world : World}

theorem UseOf.leadsTo {item : Item} {effect : ItemEffect} (rule : UseOf world item effect) :
    world.robot.LeadsTo effect.world.robot effect.events := by
  cases rule with
  | fuel usable lowered => exact Robot.leadsTo_of_report rfl (Robot.admits_addFuel _ _) rfl
  | garbage usable lowered => exact Robot.leadsTo_of_report rfl (Robot.admits_fuel _) rfl
  | codeCard worked => exact Robot.leadsTo_of_silence rfl

theorem ReturnOf.leadsTo {item : Item} {effect : ItemEffect} (rule : ReturnOf world item effect) :
    world.robot.LeadsTo effect.world.robot effect.events := by
  cases rule with
  | held kind negated found raised =>
      exact Robot.leadsTo_of_report rfl (Robot.admits_addFuel _ _) rfl
  | fuel kind negated missing raised =>
      exact Robot.leadsTo_of_report rfl (Robot.admits_addFuel _ _) rfl
  | garbage kind negated => exact Robot.leadsTo_of_report rfl (Robot.admits_fuel _) rfl
  | codeCard kind worked => exact Robot.leadsTo_of_silence rfl

theorem leadsTo_operated {id : String} {item : Item} {effect : ItemEffect}
    (rule : UseOf world item effect) :
    world.robot.LeadsTo (operated id effect).world.robot (operated id effect).events := by
  apply rule.leadsTo.trans
  apply Robot.leadsTo_of_silence
  split <;> rfl

theorem Performs.leadsTo {instruction : Instruction} {attempt : Attempt}
    (rule : Performs world instruction attempt) :
    world.robot.LeadsTo attempt.world.robot attempt.events := by
  cases rule with
  | move went paid => exact Robot.leadsTo_of_report rfl (Robot.admits_addFuel _ _) rfl
  | turn paid => exact Robot.leadsTo_of_report rfl (Robot.admits_addFuel _ _) rfl
  | operate found rule => exact leadsTo_operated rule
  | quit => exact world.robot.leadsTo_quit
  | _ => exact Robot.leadsTo_of_silence rfl

theorem Retracts.leadsTo {instruction : Instruction} {attempt : Attempt}
    (rule : Retracts world instruction attempt) :
    world.robot.LeadsTo attempt.world.robot attempt.events := by
  cases rule with
  | move went => exact Robot.leadsTo_of_report rfl (Robot.admits_addFuel _ _) rfl
  | turn => exact Robot.leadsTo_of_report rfl (Robot.admits_addFuel _ _) rfl
  | operate rule => exact rule.leadsTo
  | _ => exact Robot.leadsTo_of_silence rfl

theorem Mislays.leadsTo {instruction : Instruction} {attempt : Attempt}
    (mislays : Mislays world instruction attempt) :
    world.robot.LeadsTo attempt.world.robot attempt.events := by
  cases mislays
  exact Robot.leadsTo_of_silence rfl

theorem leadsTo_execute {instruction : Instruction} {attempt : Attempt}
    (done : world.execute instruction = .ok attempt) :
    world.robot.LeadsTo attempt.world.robot attempt.events := by
  rcases execute_cases_of_any done with ⟨failure, rfl⟩ | rule | mislays
  · exact Robot.leadsTo_of_silence rfl
  · exact rule.leadsTo
  · exact mislays.leadsTo

theorem leadsTo_undo {instruction : Instruction} {attempt : Attempt}
    (done : world.undo instruction = .ok attempt) :
    world.robot.LeadsTo attempt.world.robot attempt.events := by
  rcases undo_cases_of_any done with ⟨failure, rfl⟩ | rule | mislays
  · exact Robot.leadsTo_of_silence rfl
  · exact rule.leadsTo
  · exact mislays.leadsTo

end World

/-! ## Deeds -/

namespace Engine

theorem Reports.leadsTo {answer : Answer} {robot : Robot} {world : World} {events : List Event}
    (reports : Reports answer world events) (leads : robot.LeadsTo world.robot events) :
    robot.LeadsTo answer.engine.world.robot answer.events := by
  rcases reports with ⟨rfl, verdicts, told, behind⟩
  rw [told]
  apply leads.trans
  apply Robot.leadsTo_of_silence
  rw [List.filterMap_eq_nil_iff]
  intro event member
  have verdict := behind event member
  cases event <;> first | rfl | cases verdict

theorem leadsTo_call {engine : Engine} {request : Call} {answer : Answer}
    (answered : engine.call request = .ok answer) :
    engine.world.robot.LeadsTo answer.engine.world.robot answer.events := by
  cases request with
  | execute instruction =>
      rcases execute_reports answered with ⟨attempt, tried, reports⟩
      exact reports.leadsTo (World.leadsTo_execute tried)
  | undo =>
      rcases undo_reports answered with reports | ⟨instruction, attempt, tried, reports⟩
      · exact reports.leadsTo (Robot.leadsTo_of_silence rfl)
      · exact reports.leadsTo (World.leadsTo_undo tried)
  | start =>
      cases answered
      exact Robot.leadsTo_of_report rfl (Or.inr (Or.inr rfl)) rfl
  | addFuel amount =>
      cases answered
      exact Robot.leadsTo_of_report rfl (Robot.admits_addFuel _ _) rfl
  | setFuel amount =>
      cases answered
      exact Robot.leadsTo_of_report rfl (Robot.admits_setFuel _ _) rfl
  | addRecycled amount =>
      cases answered
      exact Robot.leadsTo_of_report rfl (Robot.admits_fuel _) rfl
  | setRecycled amount =>
      cases answered
      exact Robot.leadsTo_of_report rfl (Robot.admits_fuel _) rfl
  | initInventory =>
      cases answered
      exact Robot.leadsTo_of_report rfl (Robot.admits_fuel _) rfl
  | requestQuit =>
      cases answered
      exact engine.world.robot.leadsTo_quit
  | _ =>
      cases answered
      exact Robot.leadsTo_of_silence rfl

/--
Something is done to an engine.  Apart from its calls, that is the work of
somebody to whom it has handed out its parts: instructions carried out and
undone on the spot, items used and uses taken back, and anything at all that is
done to the navigation and the bag.
-/
inductive Deed (engine : Engine) : Engine → List Event → Prop
  | call {request : Call} {answer : Answer} (answered : engine.call request = .ok answer) :
      Deed engine answer.engine answer.events
  | execute {instruction : Instruction} {attempt : Attempt}
      (done : engine.world.execute instruction = .ok attempt) :
      Deed engine { engine with world := attempt.world } attempt.events
  | undo {instruction : Instruction} {attempt : Attempt}
      (done : engine.world.undo instruction = .ok attempt) :
      Deed engine { engine with world := attempt.world } attempt.events
  | use {item : Item} {effect : ItemEffect} (used : engine.world.use item = .ok (some effect)) :
      Deed engine { engine with world := effect.world } effect.events
  | takeBack {item : Item} {effect : ItemEffect}
      (returned : engine.world.takeBack item = .ok (some effect)) :
      Deed engine { engine with world := effect.world } effect.events
  | rearrange {navigation : Navigation} {inventory : Bag} {events : List Event}
      (outside : ∀ event ∈ events, event.source ≠ .engine) :
      Deed engine { engine with world := { engine.world with navigation, inventory } } events

/-- Some deeds one after the other, with all the events that they raise. -/
inductive Course (engine : Engine) : Engine → List Event → Prop
  | none : Course engine engine []
  | more {middle last : Engine} {before events : List Event}
      (course : Course engine middle before) (deed : middle.Deed last events) :
      Course engine last (before ++ events)

variable {engine last : Engine} {events : List Event}

theorem Deed.leadsTo (deed : engine.Deed last events) :
    engine.world.robot.LeadsTo last.world.robot events := by
  cases deed with
  | call answered => exact leadsTo_call answered
  | execute done => exact World.leadsTo_execute done
  | undo done => exact World.leadsTo_undo done
  | use used => exact (World.use_eq_some_iff.mp used).leadsTo
  | takeBack returned => exact (World.takeBack_eq_some_iff.mp returned).leadsTo
  | rearrange outside =>
      apply Robot.leadsTo_of_silence
      rw [List.filterMap_eq_nil_iff]
      intro event member
      have elsewhere := outside event member
      cases event <;> first | rfl | exact absurd rfl elsewhere

theorem Course.leadsTo (course : engine.Course last events) :
    engine.world.robot.LeadsTo last.world.robot events := by
  induction course with
  | none => exact Robot.leadsTo_of_silence rfl
  | more course deed ih => exact ih.trans deed.leadsTo

/-! ## Runs from a start -/

theorem robot_of_start {city : City} {place : PlaceId} {heading : Direction}
    {settings : EngineSettings} (started : start city place heading settings = .ok engine) :
    engine.world.robot = .fresh settings := by
  rcases bind_eq_ok_iff.mp started with ⟨navigation, -, made⟩
  cases made
  rfl

theorem admits_fresh_iff {settings : EngineSettings} {fuel : Quantity} :
    (Robot.fresh settings).Admits fuel ↔ 0 ≤ fuel.value ∨ fuel = settings.initialFuel := by
  constructor
  · rintro (positive | same | same)
    · exact Or.inl positive
    · exact Or.inr same
    · exact Or.inr same
  · rintro (positive | same)
    · exact Or.inl positive
    · exact Or.inr (Or.inl same)

/--
From a start on, whatever is done to an engine, the fuel in its tank and the
fuel that onlookers are told of is not negative or is the initial fuel.  So the
fuel is never negative exactly if the initial fuel is not, and it is never seen
to be negative exactly then.
-/
theorem fuel_nonneg_iff {city : City} {place : PlaceId} {heading : Direction}
    {settings : EngineSettings} (started : start city place heading settings = .ok engine) :
    (∀ last events, engine.Course last events →
      (0 ≤ last.world.robot.fuel.value ∨ last.world.robot.fuel = settings.initialFuel) ∧
        ∀ fuel recycled, .stateUpdated fuel recycled ∈ events →
          0 ≤ fuel.value ∨ fuel = settings.initialFuel) ∧
    ((∀ last events, engine.Course last events → 0 ≤ last.world.robot.fuel.value) ↔
      0 ≤ settings.initialFuel.value) ∧
    ((∀ last events, engine.Course last events → ∀ fuel recycled,
        .stateUpdated fuel recycled ∈ events → 0 ≤ fuel.value) ↔
      0 ≤ settings.initialFuel.value) := by
  have fresh : engine.world.robot = .fresh settings := robot_of_start started
  have held : ∀ last events, engine.Course last events →
      0 ≤ last.world.robot.fuel.value ∨ last.world.robot.fuel = settings.initialFuel := by
    intro last events course
    rw [← admits_fresh_iff, ← fresh]
    exact course.leadsTo.fuel
  have seen : ∀ last events, engine.Course last events → ∀ fuel recycled,
      .stateUpdated fuel recycled ∈ events → 0 ≤ fuel.value ∨ fuel = settings.initialFuel := by
    intro last events course fuel recycled told
    rw [← admits_fresh_iff, ← fresh]
    exact course.leadsTo.told fuel (List.mem_filterMap.mpr ⟨_, told, rfl⟩)
  refine ⟨fun last events course => ⟨held last events course, seen last events course⟩, ?_, ?_⟩
  · constructor
    · intro always
      have atOnce := always engine [] .none
      rwa [fresh] at atOnce
    · intro positive last events course
      rcases held last events course with never | same
      · exact never
      · rwa [same]
  · constructor
    · intro always
      have restarted : engine.Course _ ([] ++ [engine.world.robot.restart.report]) :=
        .more .none (.call (show engine.call .start = .ok _ from rfl))
      have told := always _ _ restarted engine.world.robot.restart.fuel .zero List.mem_cons_self
      rwa [fresh] at told
    · intro positive last events course fuel recycled told
      rcases seen last events course fuel recycled told with never | same
      · exact never
      · rwa [same]

/-- Settings for a run that starts with a debt of fuel. -/
def inDebt : EngineSettings :=
  { EngineSettings.standard with initialFuel := ⟨-1, by decide, by decide⟩ }

/-- A robot in a yard at the start of such a run. -/
def indebted : Engine where
  world := ⟨.fresh inDebt, ⟨⟨[⟨"Yard", "A yard", false, .empty⟩], []⟩, 0, .north, by decide⟩, .empty⟩
  history := []

/-- It holds less than nothing, and tells of it as soon as it is started. -/
theorem debt_is_held_and_told :
    start indebted.world.navigation.city 0 .north inDebt = .ok indebted ∧
      (∃ last, indebted.run [.start] = .ok (last, [.stateUpdated inDebt.initialFuel .zero])) ∧
      ¬ ∀ last events, indebted.Course last events → 0 ≤ last.world.robot.fuel.value := by
  have started : start indebted.world.navigation.city 0 .north inDebt = .ok indebted := rfl
  have negative : ¬ 0 ≤ inDebt.initialFuel.value := by decide
  refine ⟨started, ⟨_, rfl⟩, ?_⟩
  exact fun always => negative ((fuel_nonneg_iff started).2.1.mp always)

end Engine

end Rover
