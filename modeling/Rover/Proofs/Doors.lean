import Mathlib.Logic.Relation
import Rover.Proofs.Retrace
import Rover.Proofs.Run

/-!
# Doors and cards

Only a code card works a door: when it is operated, and when that is undone.
It works the door that the robot has before it at that moment, and only if the
street has the same code.

No card is ever made and no code ever changes, and that goes for the copies by
which uses are undone as well.  So a street whose code is on no card keeps its
door as it was at the start, and a robot never gets anywhere but along streets
that were open at the start or have a card.
-/

namespace Rover

/-- A street has its ends at two places. -/
def Street.Joins (street : Street) (place next : PlaceId) : Prop :=
  (place = street.source ∧ next = street.target) ∨
    (place = street.target ∧ next = street.source)

theorem Street.joins_of_farEnd? {street : Street} {place next : PlaceId}
    (leads : street.farEnd? place = some next) : street.Joins place next := by
  unfold farEnd? at leads
  split at leads
  · rename_i atSource
    cases leads
    exact Or.inl ⟨atSource, rfl⟩
  · split at leads
    · rename_i atTarget
      cases leads
      exact Or.inr ⟨atTarget, rfl⟩
    · cases leads

theorem Street.joins_of_course_eq {street other : Street} (same : street.course = other.course)
    {place next : PlaceId} (joins : street.Joins place next) : other.Joins place next := by
  have source : street.source = other.source := (congrArg Street.source same :)
  have target : street.target = other.target := (congrArg Street.target same :)
  rw [Joins, source, target] at joins
  exact joins

namespace Navigation

variable {navigation : Navigation}

/-- The door ahead is worked with a code, and all other streets stay as they are. -/
def Swipes (navigation : Navigation) (code : String) (streets : List Street) : Prop :=
  ∃ index street,
    navigation.city.streetIndex? navigation.current navigation.heading = some index ∧
      navigation.city.streets[index]? = some street ∧ street.accepts code = true ∧
        streets = navigation.city.streets.set index { street with isOpen := !street.isOpen }

theorem swipes_of_toggleAhead? {toggled : Navigation} {code : String}
    (worked : navigation.toggleAhead? code = some toggled) :
    navigation.Swipes code toggled.city.streets := by
  rcases City.workDoor?_eq_some_iff.mp (workDoorAhead?_eq_some_iff.mp worked).1 with
    ⟨index, street, changed, chosen, found, done, reached⟩
  rcases Street.toggle?_eq_some_iff.mp done with ⟨accepted, rfl⟩
  exact ⟨index, street, chosen, found, accepted, congrArg City.streets reached⟩

theorem exists_joins_of_walk {moved : Navigation} {direction : Direction}
    (went : navigation.walk direction = .ok (.ok moved)) :
    ∃ street ∈ navigation.city.streets, street.isOpen = true ∧
      street.Joins navigation.current moved.current := by
  rcases route_eq_ok_iff.mp (walk_eq_moved_iff.mp went).1 with ⟨street, found, isOpen, leads⟩
  exact ⟨street, List.mem_of_find?_eq_some found, isOpen, Street.joins_of_farEnd? leads⟩

end Navigation

namespace World

/-! ## Cards -/

/-- An item lies at a place or is carried. -/
def Holds (world : World) (item : Item) : Prop :=
  (∃ place ∈ world.navigation.city.places, item ∈ place.items.items) ∨
    item ∈ world.inventory.items

/-- There is a code card with a code. -/
def HasCard (world : World) (code : String) : Prop :=
  ∃ item, world.Holds item ∧ item.kind = .codeCard code

/-- There is a code card with the code of a street, whatever its case. -/
def HasCardFor (world : World) (street : Street) : Prop :=
  ∃ code, world.HasCard code ∧ street.accepts code = true

/-- Two places are the ends of a street that is open or has a card. -/
def Allows (world : World) (place next : PlaceId) : Prop :=
  ∃ street ∈ world.navigation.city.streets,
    (street.isOpen = true ∨ world.HasCardFor street) ∧ street.Joins place next

/-- An item has no code but one that was on a card at the start. -/
def Issued (start : World) (item : Item) : Prop :=
  ∀ code, item.kind = .codeCard code → start.HasCard code

variable {start world : World} {item : Item} {effect : ItemEffect} {instruction : Instruction}
  {attempt : Attempt}

theorem everywhere_issued (start : World) : start.Everywhere start.Issued where
  places := fun place member _ inside _ kind => ⟨_, Or.inl ⟨place, member, inside⟩, kind⟩
  inventory := fun _ inside _ kind => ⟨_, Or.inr inside, kind⟩

theorem UseOf.issued (rule : UseOf world item effect) (known : start.Issued item) :
    start.Issued effect.item := by
  cases rule with
  | fuel usable lowered => exact nofun
  | garbage usable lowered => exact nofun
  | codeCard worked => exact known

theorem ReturnOf.issued (rule : ReturnOf world item effect)
    (known : world.Everywhere start.Issued) : effect.world.Everywhere start.Issued := by
  cases rule with
  | held kind negated found raised =>
      exact ⟨known.places, known.inventory.adjust fun _ _ => nofun⟩
  | fuel kind negated missing raised => exact ⟨known.places, known.inventory.add nofun⟩
  | garbage kind negated => exact ⟨known.places, known.inventory.add nofun⟩
  | codeCard kind worked => exact known.toggled worked

/-! ## Doors -/

theorem UseOf.streets_cases (rule : UseOf world item effect) :
    effect.world.navigation.city.streets = world.navigation.city.streets ∨
      ∃ code, item.kind = .codeCard code ∧
        world.navigation.Swipes code effect.world.navigation.city.streets := by
  cases rule with
  | fuel usable lowered => exact Or.inl rfl
  | garbage usable lowered => exact Or.inl rfl
  | codeCard worked => exact Or.inr ⟨_, rfl, Navigation.swipes_of_toggleAhead? worked⟩

theorem ReturnOf.streets_cases (rule : ReturnOf world item effect) :
    effect.world.navigation.city.streets = world.navigation.city.streets ∨
      ∃ code, item.kind = .codeCard code ∧
        world.navigation.Swipes code effect.world.navigation.city.streets := by
  cases rule with
  | held kind negated found raised => exact Or.inl rfl
  | fuel kind negated missing raised => exact Or.inl rfl
  | garbage kind negated => exact Or.inl rfl
  | codeCard kind worked => exact Or.inr ⟨_, kind, Navigation.swipes_of_toggleAhead? worked⟩

/-- An instruction works a door only if it operates a code card. -/
theorem Performs.streets_cases (rule : Performs world instruction attempt) :
    attempt.world.navigation.city.streets = world.navigation.city.streets ∨
      ∃ id used item code, instruction = .operate id used ∧
        world.inventory.find? id = some item ∧ item.kind = .codeCard code ∧
          world.navigation.Swipes code attempt.world.navigation.city.streets := by
  cases rule with
  | move went paid =>
      exact Or.inl (congrArg City.streets (Navigation.walk_eq_moved_iff.mp went).2.1)
  | @operate id used item effect found rule =>
      rcases rule.streets_cases with same | ⟨code, kind, swipes⟩
      · exact Or.inl same
      · exact Or.inr ⟨id, used, item, code, rfl, found, kind, swipes⟩
  | _ => exact Or.inl rfl

/-- To undo an instruction works a door only if the instruction has operated a code card. -/
theorem Retracts.streets_cases (rule : Retracts world instruction attempt) :
    attempt.world.navigation.city.streets = world.navigation.city.streets ∨
      ∃ id item code, instruction = .operate id (some item) ∧ item.kind = .codeCard code ∧
        world.navigation.Swipes code attempt.world.navigation.city.streets := by
  cases rule with
  | move went => exact Or.inl (congrArg City.streets (Navigation.walk_eq_moved_iff.mp went).2.1)
  | @operate id item effect rule =>
      rcases rule.streets_cases with same | ⟨code, kind, swipes⟩
      · exact Or.inl same
      · exact Or.inr ⟨id, item, code, rfl, kind, swipes⟩
  | _ => exact Or.inl rfl

/-! ## Ways -/

/-- A robot stays where it was, or it has walked an open street. -/
def Passes (before after : World) : Prop :=
  after.navigation.current = before.navigation.current ∨
    ∃ street ∈ before.navigation.city.streets, street.isOpen = true ∧
      street.Joins before.navigation.current after.navigation.current

theorem UseOf.passes (rule : UseOf world item effect) : world.Passes effect.world := by
  cases rule with
  | fuel usable lowered => exact Or.inl rfl
  | garbage usable lowered => exact Or.inl rfl
  | codeCard worked => exact Or.inl (Navigation.workDoorAhead?_eq_some_iff.mp worked).2.1

theorem ReturnOf.passes (rule : ReturnOf world item effect) : world.Passes effect.world := by
  cases rule with
  | codeCard kind worked => exact Or.inl (Navigation.workDoorAhead?_eq_some_iff.mp worked).2.1
  | _ => exact Or.inl rfl

theorem Performs.passes (rule : Performs world instruction attempt) :
    world.Passes attempt.world := by
  cases rule with
  | move went paid => exact Or.inr (Navigation.exists_joins_of_walk went)
  | operate found rule => exact rule.passes
  | _ => exact Or.inl rfl

theorem Retracts.passes (rule : Retracts world instruction attempt) :
    world.Passes attempt.world := by
  cases rule with
  | move went => exact Or.inr (Navigation.exists_joins_of_walk went)
  | operate rule => exact rule.passes
  | _ => exact Or.inl rfl

end World

namespace Engine

variable {engine : Engine} {request : Call} {answer : Answer} {start : World}

/-- A call operates an item, or undoes what operated one. -/
inductive Operates (engine : Engine) : Call → Item → Prop
  | execute {id : String} {used : Option Item} {item : Item}
      (found : engine.world.inventory.find? id = some item) :
      Operates engine (.execute (.operate id used)) item
  | undo {id : String} {item : Item} {earlier : List Instruction}
      (latest : engine.history = .operate id (some item) :: earlier) :
      Operates engine .undo item

/-- A call works a door only if it operates a code card, or undoes what operated one. -/
theorem Works.streets_cases {after : World} (works : engine.Works request after) :
    after.navigation.city.streets = engine.world.navigation.city.streets ∨
      ∃ item code, engine.Operates request item ∧ item.kind = .codeCard code ∧
        engine.world.navigation.Swipes code after.navigation.city.streets := by
  cases works with
  | rests settings => exact Or.inl rfl
  | performs rule =>
      rcases rule.streets_cases with same | ⟨id, used, item, code, rfl, found, kind, swipes⟩
      · exact Or.inl same
      · exact Or.inr ⟨item, code, .execute found, kind, swipes⟩
  | retracts latest rule =>
      rcases rule.streets_cases with same | ⟨id, item, code, rfl, kind, swipes⟩
      · exact Or.inl same
      · exact Or.inr ⟨item, code, .undo latest, kind, swipes⟩
  | mislays mislays =>
      cases mislays
      exact Or.inl rfl

theorem Works.passes {after : World} (works : engine.Works request after) :
    engine.world.Passes after := by
  cases works with
  | rests settings => exact Or.inl rfl
  | performs rule => exact rule.passes
  | retracts latest rule => exact rule.passes
  | mislays mislays =>
      cases mislays
      exact Or.inl rfl

/-! ## Runs -/

/-- All cards, and all that is remembered of cards, have codes that were on cards at the start. -/
structure IsIssuedBy (engine : Engine) (start : World) : Prop where
  items : engine.world.Everywhere start.Issued
  uses : ∀ instruction ∈ engine.history, ∀ item ∈ instruction.used?, start.Issued item

theorem IsIssuedBy.operates {item : Item} (issued : engine.IsIssuedBy start)
    (operates : engine.Operates request item) : start.Issued item := by
  cases operates with
  | execute found => exact issued.items.inventory.of_find? found
  | undo latest => exact issued.uses _ (by rw [latest]; exact List.mem_cons_self) item rfl

theorem IsIssuedBy.call (issued : engine.IsIssuedBy start)
    (answered : engine.call request = .ok answer) : answer.engine.IsIssuedBy start := by
  cases request with
  | execute instruction =>
      rcases execute_cases_of_any answered with
        ⟨failure, -, rfl⟩ | ⟨attempt, rule | mislays, rfl⟩
      · exact issued
      · have items := issued.items.performs rule (fun _ => id) fun _ _ own used _ =>
          used.issued own
        have remembered := issued.items.remembers rule fun _ _ own used => used.issued own
        exact ⟨items, List.forall_mem_cons.mpr ⟨remembered, issued.uses⟩⟩
      · refine ⟨issued.items.mislaid mislays, List.forall_mem_cons.mpr ⟨?_, issued.uses⟩⟩
        intro item used
        cases mislays.used?_eq_none.symm.trans used
  | undo =>
      rcases undo_cases_of_any answered with
        ⟨-, rfl⟩ | ⟨instruction, history, latest,
          ⟨failure, -, rfl⟩ | ⟨attempt, rule | mislays, rfl⟩⟩
      · exact issued
      all_goals
        have uses := issued.uses
        rw [latest, List.forall_mem_cons] at uses
      · exact ⟨issued.items, uses.2⟩
      · refine ⟨issued.items.retracts rule fun item effect used returned => ?_, uses.2⟩
        exact returned.issued issued.items
      · exact ⟨issued.items.mislaid mislays, uses.2⟩
  | _ =>
      cases answered
      exact ⟨⟨issued.items.places, issued.items.inventory⟩, issued.uses⟩

/-- How an engine stands to the world that its run started in. -/
structure KeepsShut (start : World) (engine : Engine) : Prop where
  plan : engine.world.navigation.city.plan = start.navigation.city.plan
  issued : engine.IsIssuedBy start
  /-- A street without a card is as it was. -/
  doors : ∀ (index : Nat) (street : Street),
    start.navigation.city.streets[index]? = some street → ¬ start.HasCardFor street →
      engine.world.navigation.city.streets[index]? = some street
  way : Relation.ReflTransGen start.Allows start.navigation.current
    engine.world.navigation.current

theorem KeepsShut.of_history_eq_nil (nothing : engine.history = []) :
    KeepsShut engine.world engine where
  plan := rfl
  issued := by
    refine ⟨engine.world.everywhere_issued, ?_⟩
    rw [nothing]
    exact List.forall_mem_nil _
  doors := fun _ _ found _ => found
  way := .refl

/-- A street that the robot may walk now was open at the start or had a card. -/
theorem KeepsShut.allows (shut : KeepsShut start engine) {street : Street}
    {place next : PlaceId} (member : street ∈ engine.world.navigation.city.streets)
    (isOpen : street.isOpen = true) (joins : street.Joins place next) :
    start.Allows place next := by
  rcases List.getElem?_of_mem member with ⟨index, found⟩
  rcases City.exists_course_eq_of_plan_eq shut.plan found with ⟨original, first, same⟩
  refine ⟨original, List.mem_of_getElem? first, ?_, Street.joins_of_course_eq same joins⟩
  by_cases carded : start.HasCardFor original
  · exact Or.inr carded
  · left
    have unchanged := shut.doors index original first carded
    cases found.symm.trans unchanged
    exact isOpen

theorem KeepsShut.call (shut : KeepsShut start engine)
    (answered : engine.call request = .ok answer) : KeepsShut start answer.engine where
  plan := (keeps_call answered).plan.trans shut.plan
  issued := shut.issued.call answered
  doors := by
    intro index street found uncarded
    have before := shut.doors index street found uncarded
    rcases (works_call answered).streets_cases with
      same | ⟨item, code, operates, kind, worked, old, -, present, accepted, changed⟩
    · rw [same]
      exact before
    · have elsewhere : worked ≠ index := by
        rintro rfl
        cases present.symm.trans before
        exact uncarded ⟨code, shut.issued.operates operates code kind, accepted⟩
      rw [changed, List.getElem?_set_ne elsewhere]
      exact before
  way := by
    rcases (works_call answered).passes with same | ⟨street, member, isOpen, joins⟩
    · rw [same]
      exact shut.way
    · exact shut.way.tail (shut.allows member isOpen joins)

theorem KeepsShut.run (shut : KeepsShut start engine) {calls : List Call} {last : Engine}
    {events : List Event} (ran : engine.run calls = .ok (last, events)) :
    KeepsShut start last :=
  run_induction ran shut fun _ _ _ _ holds answered => holds.call answered

/-- A call changes a door only ahead of the robot, by a code card that it operates. -/
theorem operates_of_isOpen_ne (answered : engine.call request = .ok answer) {index : Nat}
    (changed : (answer.engine.world.navigation.city.streets[index]?).map Street.isOpen ≠
      (engine.world.navigation.city.streets[index]?).map Street.isOpen) :
    ∃ item code street, engine.Operates request item ∧ item.kind = .codeCard code ∧
      engine.world.navigation.city.streetIndex? engine.world.navigation.current
        engine.world.navigation.heading = some index ∧
      engine.world.navigation.city.streets[index]? = some street ∧
      Text.lowercase street.code = Text.lowercase code ∧
      ∀ other, other ≠ index → answer.engine.world.navigation.city.streets[other]? =
        engine.world.navigation.city.streets[other]? := by
  rcases (works_call answered).streets_cases with
    same | ⟨item, code, operates, kind, worked, street, ahead, found, accepted, swiped⟩
  · rw [same] at changed
    exact absurd rfl changed
  · have here : worked = index := by
      by_contra elsewhere
      rw [swiped, List.getElem?_set_ne elsewhere] at changed
      exact changed rfl
    subst here
    refine ⟨item, code, street, operates, kind, ahead, found, beq_iff_eq.mp accepted, ?_⟩
    intro other elsewhere
    rw [swiped, List.getElem?_set_ne elsewhere.symm]

/--
Locked streets stay locked without a card.  After any run that starts without a
history the courses of the streets are what they were; a call changes a door
only by a card that works it and only ahead of the robot; every street without a
card has its door as it was; and the robot is where streets lead that were open
or have a card.
-/
theorem doors_need_cards {first last : Engine} {calls : List Call} {events : List Event}
    (nothing : first.history = []) (ran : first.run calls = .ok (last, events)) :
    last.world.navigation.city.courses = first.world.navigation.city.courses ∧
    (∀ request answer (index : Nat), last.call request = .ok answer →
      (answer.engine.world.navigation.city.streets[index]?).map Street.isOpen ≠
        (last.world.navigation.city.streets[index]?).map Street.isOpen →
      ∃ item code street, last.Operates request item ∧ item.kind = .codeCard code ∧
        last.world.navigation.city.streetIndex? last.world.navigation.current
          last.world.navigation.heading = some index ∧
        last.world.navigation.city.streets[index]? = some street ∧
        Text.lowercase street.code = Text.lowercase code ∧
        ∀ other, other ≠ index → answer.engine.world.navigation.city.streets[other]? =
          last.world.navigation.city.streets[other]?) ∧
    (∀ (index : Nat) (street : Street),
      first.world.navigation.city.streets[index]? = some street →
        ¬ first.world.HasCardFor street →
          last.world.navigation.city.streets[index]? = some street) ∧
    Relation.ReflTransGen first.world.Allows first.world.navigation.current
      last.world.navigation.current := by
  have shut := (KeepsShut.of_history_eq_nil nothing).run ran
  exact ⟨City.courses_eq_of_plan_eq shut.plan,
    fun _ _ _ answered changed => operates_of_isOpen_ne answered changed, shut.doors, shut.way⟩

/-- A robot in a yard with a red card, between a red gate and a vault with a blue door. -/
def outsideTheVault : Engine where
  world :=
    { robot := .fresh .standard
      navigation :=
        { city :=
            { places :=
                [⟨"Yard", "A yard", false, .empty⟩, ⟨"Hall", "A hall", false, .empty⟩,
                  ⟨"Vault", "A vault", false, .empty⟩]
              streets := [⟨0, .north, 1, false, "red"⟩, ⟨0, .east, 2, false, "blue"⟩] }
          current := 0
          heading := .north
          exists_current := by decide }
      inventory := .ofItems [⟨"card", "A card", .codeCard "RED"⟩] }
  history := []

theorem not_hasCardFor_vault :
    ¬ outsideTheVault.world.HasCardFor ⟨0, .east, 2, false, "blue"⟩ := by
  rintro ⟨code, ⟨item, ⟨place, member, inside⟩ | carried, kind⟩, accepted⟩
  · have bare : place.items = .empty := by
      rcases List.mem_cons.mp member with rfl | later
      · rfl
      · rcases List.mem_pair.mp later with rfl | rfl <;> rfl
    rw [bare] at inside
    cases inside
  · cases List.mem_singleton.mp carried
    cases kind
    revert accepted
    decide

/-- Through the gate, and a card tried where no street is ahead. -/
def throughTheRedGate : List Call :=
  [.execute (.operate "card" none), .execute .move, .execute (.operate "card" none)]

/-- The robot has come through the gate, and the vault is shut. -/
theorem vault_stays_shut :
    outsideTheVault.history = [] ∧
      ∃ last events, outsideTheVault.run throughTheRedGate = .ok (last, events) ∧
        last.world.navigation.city.streets[1]? = some ⟨0, .east, 2, false, "blue"⟩ ∧
        Relation.ReflTransGen outsideTheVault.world.Allows 0 last.world.navigation.current ∧
        last.world.navigation.current = 1 := by
  have ends : (outsideTheVault.run throughTheRedGate).map
      (fun reached => reached.1.world.navigation.current) = .ok 1 := by
    decide
  refine ⟨rfl, ?_⟩
  cases ran : outsideTheVault.run throughTheRedGate with
  | error breakdown =>
      rw [ran] at ends
      cases ends
  | ok reached =>
      rw [ran] at ends
      have ⟨_, _, doors, way⟩ := doors_need_cards rfl ran
      exact ⟨reached.1, reached.2, rfl, doors 1 _ rfl not_hasCardFor_vault, way,
        Except.ok.inj ends⟩

end Engine

end Rover
