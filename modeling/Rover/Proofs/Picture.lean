import Mathlib.Data.List.Nodup
import Rover.Proofs.Run
import Rover.Station

/-!
# What an onlooker makes of events

An onlooker can keep a picture of the engine without asking it anything: every
event replaces the parts of the picture that it tells of.  The picture has the
counters, the heading, the place as it is seen and the identifiers of what is
carried; doors, costs and the history are no part of it.

Every instruction, and every undoing, tells of all that it changes about the
picture after the last change.  So once an onlooker has been told where the
robot is and what it carries, the picture is right after every call.  That
holds of all engines, keyed or not.
-/

namespace Rover

/-- An engine as far as events tell of it. -/
@[ext]
structure Picture where
  fuel : Quantity
  recycled : Quantity
  heading : Direction
  place : PlaceView
  carried : List String
  deriving DecidableEq, Repr

namespace Picture

/-- The picture after an event, which replaces what it tells of. -/
def see (picture : Picture) : Event → Picture
  | .headingChanged heading => { picture with heading }
  | .navigationInitialized place heading => { picture with place, heading }
  | .placeChanged place => { picture with place }
  | .placeScanned place => { picture with place }
  | .robotArrived _ place => { picture with place }
  | .stateUpdated fuel recycled => { picture with fuel, recycled }
  | .inventoryChanged items => { picture with carried := items.map Item.id }
  | .helpRequested _ => picture
  | .engineShutDown _ => picture
  | .communicationEnded => picture
  | .robotSpeaks _ => picture
  | .errorRaised _ => picture

/-- The picture after some events, one after the other. -/
def seeAll (picture : Picture) (events : List Event) : Picture :=
  events.foldl see picture

@[simp]
theorem seeAll_nil (picture : Picture) : picture.seeAll [] = picture := rfl

@[simp]
theorem seeAll_cons (picture : Picture) (event : Event) (events : List Event) :
    picture.seeAll (event :: events) = (picture.see event).seeAll events := rfl

@[simp]
theorem seeAll_append (picture : Picture) (first second : List Event) :
    picture.seeAll (first ++ second) = (picture.seeAll first).seeAll second :=
  List.foldl_append

/-! ## Pictures that agree in part -/

/-- Two pictures that show the robot at the same place with the same heading. -/
structure SameWay (picture other : Picture) : Prop where
  heading : picture.heading = other.heading
  place : picture.place = other.place

/-- Two pictures that show the same counters and the same load. -/
structure SameLoad (picture other : Picture) : Prop where
  fuel : picture.fuel = other.fuel
  recycled : picture.recycled = other.recycled
  carried : picture.carried = other.carried

variable {picture other : Picture}

theorem SameWay.eq_of_sameLoad (way : picture.SameWay other) (load : picture.SameLoad other) :
    picture = other := by
  cases picture
  cases other
  cases way
  cases load
  simp_all

theorem SameWay.see (way : picture.SameWay other) (event : Event) :
    (picture.see event).SameWay (other.see event) := by
  cases event with
  | headingChanged heading => exact ⟨rfl, way.place⟩
  | navigationInitialized place heading => exact ⟨rfl, rfl⟩
  | placeChanged place => exact ⟨way.heading, rfl⟩
  | placeScanned place => exact ⟨way.heading, rfl⟩
  | robotArrived travel place => exact ⟨way.heading, rfl⟩
  | _ => exact ⟨way.heading, way.place⟩

theorem SameLoad.see (load : picture.SameLoad other) (event : Event) :
    (picture.see event).SameLoad (other.see event) := by
  cases event with
  | stateUpdated fuel recycled => exact ⟨rfl, rfl, load.carried⟩
  | inventoryChanged items => exact ⟨load.fuel, load.recycled, rfl⟩
  | _ => exact ⟨load.fuel, load.recycled, load.carried⟩

theorem SameWay.seeAll (way : picture.SameWay other) (events : List Event) :
    (picture.seeAll events).SameWay (other.seeAll events) := by
  induction events generalizing picture other with
  | nil => exact way
  | cons event rest ih => exact ih (way.see event)

theorem SameLoad.seeAll (load : picture.SameLoad other) (events : List Event) :
    (picture.seeAll events).SameLoad (other.seeAll events) := by
  induction events generalizing picture other with
  | nil => exact load
  | cons event rest ih => exact ih (load.see event)

end Picture

/-! ## What instructions tell -/

namespace Bag

/-- An item that is changed in place and keeps its identifier leaves the row of identifiers as it was. -/
theorem ids_adjust {bag : Bag} {id : String} {item left : Item}
    (found : bag.find? id = some item) (same : left.id = item.id) :
    (bag.adjust id fun _ => left).ids = bag.ids := by
  simp only [ids, items, adjust, List.map_map]
  apply List.map_congr_left
  rintro ⟨key, held⟩ member
  simp only [Function.comp_apply]
  split
  · rename_i here
    have present := (bag.mem_entries_iff_atKey? key held).mp member
    have alike : item = held := by
      apply Option.some.inj
      rw [← found, ← present, here]
      rfl
    rw [same, alike]
  · rfl

end Bag

namespace World

/-- A world as far as events tell of it. -/
def picture (world : World) : Picture where
  fuel := world.robot.fuel
  recycled := world.robot.recycled
  heading := world.navigation.heading
  place := world.navigation.view
  carried := world.inventory.ids

/-- Who has the right picture before some events has it after them. -/
def IsShown (before after : World) (events : List Event) : Prop :=
  before.picture.seeAll events = after.picture

theorem view_of_same_place {navigation other : Navigation}
    (places : navigation.city.places = other.city.places)
    (current : navigation.current = other.current) : navigation.view = other.view := by
  have here : navigation.here = other.here := by
    simp only [Navigation.here, List.get_eq_getElem, places, current]
  rw [Navigation.view, here, Navigation.view]

variable {world : World}

theorem isShown_walked {direction : Direction} {moved : Navigation}
    (went : world.navigation.walk direction = .ok (.ok moved)) (instruction : Instruction)
    (amount : Quantity) :
    world.IsShown (world.walked instruction direction moved amount).world
      (world.walked instruction direction moved amount).events := by
  obtain ⟨-, -, sameHeading⟩ := Navigation.walk_eq_moved_iff.mp went
  apply Picture.ext
  case heading => exact sameHeading.symm
  all_goals rfl

theorem isShown_turned (instruction : Instruction) (rotation : Rotation) (amount : Quantity) :
    world.IsShown (world.turned instruction rotation amount).world
      (world.turned instruction rotation amount).events :=
  rfl

theorem isShown_picked (instruction : Instruction) (id : String) (item : Item) :
    world.IsShown (world.picked instruction id item).world
      (world.picked instruction id item).events :=
  rfl

theorem isShown_dropped (instruction : Instruction) (id : String) (item : Item) :
    world.IsShown (world.dropped instruction id item).world
      (world.dropped instruction id item).events :=
  rfl

/-- Doors are no part of the picture. -/
theorem isShown_toggled {code : String} {toggled : Navigation}
    (worked : world.navigation.toggleAhead? code = some toggled) :
    world.IsShown { world with navigation := toggled } [] := by
  obtain ⟨-, sameCurrent, sameHeading⟩ := Navigation.workDoorAhead?_eq_some_iff.mp worked
  have sameView : toggled.view = world.navigation.view :=
    view_of_same_place (Navigation.places_toggleAhead? worked) sameCurrent
  apply Picture.ext
  case heading => exact sameHeading.symm
  case place => exact sameView.symm
  all_goals rfl

theorem UseOf.isShown {item : Item} {effect : ItemEffect} (rule : UseOf world item effect) :
    world.IsShown effect.world effect.events := by
  cases rule with
  | fuel usable lowered => rfl
  | garbage usable lowered => rfl
  | codeCard worked => exact isShown_toggled worked

theorem isShown_operated {id : String} {item : Item} {effect : ItemEffect}
    (found : world.inventory.find? id = some item) (rule : UseOf world item effect) :
    world.IsShown (operated id effect).world (operated id effect).events := by
  have shown := rule.isShown
  change (world.picture.seeAll (effect.events ++ _)) = _
  rw [Picture.seeAll_append, show world.picture.seeAll effect.events = _ from shown]
  cases usable : effect.item.isUsable with
  | true =>
      have held : effect.world.inventory.find? id = some item := by
        rw [use_inventory rule]
        exact found
      have sameIds : (effect.world.inventory.adjust id fun _ => effect.item).ids =
          effect.world.inventory.ids := Bag.ids_adjust held rule.id_eq
      simp only [operated, succeeds, picture, Bag.afterUse, usable, if_true,
        Picture.seeAll_nil, sameIds]
  | false =>
      simp only [operated, succeeds, Bag.afterUse, usable]
      rfl

theorem ReturnOf.isShown {item : Item} {effect : ItemEffect} (rule : ReturnOf world item effect) :
    world.IsShown effect.world effect.events := by
  cases rule with
  | @held id description power times loss heldPower heldTimes more kind negated found raised =>
      have sameIds : (world.inventory.adjust item.id fun _ =>
          ⟨id, description, .fuel heldPower more⟩).ids = world.inventory.ids :=
        Bag.ids_adjust found rfl
      apply Picture.ext
      case carried => exact sameIds.symm
      all_goals rfl
  | fuel kind negated missing raised => rfl
  | garbage kind negated => rfl
  | codeCard kind worked => exact isShown_toggled worked

theorem Performs.isShown {instruction : Instruction} {attempt : Attempt}
    (rule : Performs world instruction attempt) :
    world.IsShown attempt.world attempt.events := by
  cases rule with
  | move went paid => exact isShown_walked went _ _
  | turn paid => exact isShown_turned _ _ _
  | pick found free => exact isShown_picked _ _ _
  | drop found free => exact isShown_dropped _ _ _
  | operate found rule => exact isShown_operated found rule
  | _ => rfl

theorem Retracts.isShown {instruction : Instruction} {attempt : Attempt}
    (rule : Retracts world instruction attempt) :
    world.IsShown attempt.world attempt.events := by
  cases rule with
  | move went => exact isShown_walked went _ _
  | turn => exact isShown_turned _ _ _
  | pick found free => exact isShown_dropped _ _ _
  | drop found free => exact isShown_picked _ _ _
  | operate rule => exact rule.isShown
  | _ => rfl

theorem Mislays.isShown {instruction : Instruction} {attempt : Attempt}
    (mislays : Mislays world instruction attempt) :
    world.IsShown attempt.world attempt.events := by
  cases mislays
  rfl

/-- Every attempt at an instruction shows what it leaves, if it fails or not. -/
theorem isShown_execute {instruction : Instruction} {attempt : Attempt}
    (done : world.execute instruction = .ok attempt) :
    world.IsShown attempt.world attempt.events := by
  rcases execute_cases_of_any done with ⟨failure, rfl⟩ | rule | mislays
  · rfl
  · exact rule.isShown
  · exact mislays.isShown

/-- Every attempt at an undoing shows what it leaves, if it fails or not. -/
theorem isShown_undo {instruction : Instruction} {attempt : Attempt}
    (done : world.undo instruction = .ok attempt) :
    world.IsShown attempt.world attempt.events := by
  rcases undo_cases_of_any done with ⟨failure, rfl⟩ | rule | mislays
  · rfl
  · exact rule.isShown
  · exact mislays.isShown

end World

/-! ## What calls tell -/

namespace Engine

theorem see_of_isVerdict (picture : Picture) {event : Event} (verdict : event.isVerdict = true) :
    picture.see event = picture := by
  cases event <;> first | rfl | cases verdict

theorem seeAll_of_isVerdict (picture : Picture) {events : List Event}
    (verdicts : ∀ event ∈ events, event.isVerdict = true) : picture.seeAll events = picture := by
  induction events with
  | nil => rfl
  | cons event rest ih =>
      rw [Picture.seeAll_cons, see_of_isVerdict picture (verdicts event List.mem_cons_self)]
      exact ih fun later member => verdicts later (List.mem_cons_of_mem _ member)

theorem Reports.isShown {answer : Answer} {before after : World} {events : List Event}
    (reports : Reports answer after events) (shown : before.IsShown after events) :
    before.IsShown answer.engine.world answer.events := by
  rcases reports with ⟨rfl, verdicts, told, behind⟩
  rw [World.IsShown, told, Picture.seeAll_append, seeAll_of_isVerdict _ behind]
  exact shown

/-- Every call shows what it leaves of the engine. -/
theorem isShown_call {engine : Engine} {request : Call} {answer : Answer}
    (answered : engine.call request = .ok answer) :
    engine.world.IsShown answer.engine.world answer.events := by
  cases request with
  | execute instruction =>
      rcases execute_reports answered with ⟨attempt, tried, reports⟩
      exact reports.isShown (World.isShown_execute tried)
  | undo =>
      rcases undo_reports answered with reports | ⟨instruction, attempt, tried, reports⟩
      · exact reports.isShown rfl
      · exact reports.isShown (World.isShown_undo tried)
  | _ =>
      cases answered
      rfl

/-- To be told where the robot is puts right the place and the heading. -/
theorem sameWay_of_initNavigation {engine : Engine} {answer : Answer}
    (answered : engine.call .initNavigation = .ok answer) (guess : Picture) :
    (guess.seeAll answer.events).SameWay answer.engine.world.picture := by
  cases answered
  exact ⟨rfl, rfl⟩

/-- To be told what the robot carries puts right that and the counters. -/
theorem sameLoad_of_initInventory {engine : Engine} {answer : Answer}
    (answered : engine.call .initInventory = .ok answer) (guess : Picture) :
    (guess.seeAll answer.events).SameLoad answer.engine.world.picture := by
  cases answered
  exact ⟨rfl, rfl, rfl⟩

end Engine

/-! ## What an onlooker is told -/

namespace Audience

/-- The events of some notices that go to one onlooker. -/
def heardBy (onlooker : Onlooker) (notices : List Notice) : List Event :=
  (notices.filter fun notice => notice.onlooker = onlooker).map Notice.event

theorem heardBy_append (onlooker : Onlooker) (first second : List Notice) :
    heardBy onlooker (first ++ second) = heardBy onlooker first ++ heardBy onlooker second := by
  simp only [heardBy, List.filter_append, List.map_append]

/-- Nobody is told of an event twice, and who is held or has not signed up is not told of it. -/
theorem heardBy_notices (audience : Audience) (held : List Onlooker) (onlooker : Onlooker)
    (event : Event) : heardBy onlooker (audience.notices held event) =
      if onlooker ∈ (audience.of event.source).list ∧ onlooker ∉ held then [event] else [] := by
  let hearing := (audience.of event.source).hearing held
  have member : onlooker ∈ hearing ↔
      onlooker ∈ (audience.of event.source).list ∧ onlooker ∉ held := by
    simp [hearing, Onlookers.hearing]
  have once : hearing.Nodup := (audience.of event.source).nodup.filter _
  have sent : heardBy onlooker (audience.notices held event) =
      ((hearing.filter fun other => other = onlooker).map fun other => ⟨other, event⟩).map
        Notice.event := by
    rw [heardBy, notices, List.filter_map]
    rfl
  rw [sent, List.filter_eq, once.count, if_congr member rfl rfl]
  split <;> rfl

/-- Who has signed up everywhere and is not held hears of every event, once and in order. -/
theorem heardBy_deliver {audience : Audience} {held : List Onlooker} {onlooker : Onlooker}
    (signedUp : ∀ source, (audience.of source).contains onlooker = true) (free : onlooker ∉ held)
    (events : List Event) : heardBy onlooker (audience.deliver held events) = events := by
  induction events with
  | nil => rfl
  | cons event rest ih =>
      change heardBy onlooker (audience.notices held event ++ audience.deliver held rest) = _
      have member := List.contains_iff_mem.mp (signedUp event.source)
      rw [heardBy_append, heardBy_notices, if_pos ⟨member, free⟩, ih]
      rfl

end Audience

namespace Station

/-- All that an onlooker has been told. -/
def toldTo (station : Station) (onlooker : Onlooker) : List Event :=
  Audience.heardBy onlooker station.log

/-- An onlooker has signed up for every source. -/
def IsWatchedBy (station : Station) (onlooker : Onlooker) : Prop :=
  ∀ source, (station.audience.of source).contains onlooker = true

/-- What an onlooker has been told shows the way of the robot, whatever it was taken for at first. -/
def ShowsWay (station : Station) (onlooker : Onlooker) : Prop :=
  ∀ guess : Picture, (guess.seeAll (station.toldTo onlooker)).SameWay station.engine.world.picture

/-- What an onlooker has been told shows the load and the counters, whatever they were taken for. -/
def ShowsLoad (station : Station) (onlooker : Onlooker) : Prop :=
  ∀ guess : Picture, (guess.seeAll (station.toldTo onlooker)).SameLoad station.engine.world.picture

variable {station next : Station} {held : List Onlooker} {request : Engine.Call}
  {outcome : Option Outcome} {onlooker : Onlooker}

theorem toldTo_call (watched : station.IsWatchedBy onlooker) (free : onlooker ∉ held)
    (done : station.call held request = .ok (outcome, next)) :
    ∃ answer, station.engine.call request = .ok answer ∧ next.engine = answer.engine ∧
      next.IsWatchedBy onlooker ∧
        next.toldTo onlooker = station.toldTo onlooker ++ answer.events := by
  rcases engine_call done with ⟨answer, answered, -, rfl⟩
  refine ⟨answer, answered, rfl, watched, ?_⟩
  rw [toldTo, publish, Audience.heardBy_append, Audience.heardBy_deliver watched free]
  rfl

theorem ShowsWay.call (shows : station.ShowsWay onlooker) (watched : station.IsWatchedBy onlooker)
    (free : onlooker ∉ held) (done : station.call held request = .ok (outcome, next)) :
    next.ShowsWay onlooker := by
  rcases toldTo_call watched free done with ⟨answer, answered, reached, -, told⟩
  intro guess
  rw [told, reached, Picture.seeAll_append, ← Engine.isShown_call answered]
  exact (shows guess).seeAll answer.events

theorem ShowsLoad.call (shows : station.ShowsLoad onlooker)
    (watched : station.IsWatchedBy onlooker) (free : onlooker ∉ held)
    (done : station.call held request = .ok (outcome, next)) : next.ShowsLoad onlooker := by
  rcases toldTo_call watched free done with ⟨answer, answered, reached, -, told⟩
  intro guess
  rw [told, reached, Picture.seeAll_append, ← Engine.isShown_call answered]
  exact (shows guess).seeAll answer.events

theorem showsWay_of_initNavigation (watched : station.IsWatchedBy onlooker)
    (free : onlooker ∉ held) (done : station.call held .initNavigation = .ok (outcome, next)) :
    next.ShowsWay onlooker := by
  rcases toldTo_call watched free done with ⟨answer, answered, reached, -, told⟩
  intro guess
  rw [told, reached, Picture.seeAll_append]
  exact Engine.sameWay_of_initNavigation answered _

theorem showsLoad_of_initInventory (watched : station.IsWatchedBy onlooker)
    (free : onlooker ∉ held) (done : station.call held .initInventory = .ok (outcome, next)) :
    next.ShowsLoad onlooker := by
  rcases toldTo_call watched free done with ⟨answer, answered, reached, -, told⟩
  intro guess
  rw [told, reached, Picture.seeAll_append]
  exact Engine.sameLoad_of_initInventory answered _

/--
What one call brings about and every call keeps holds at the end of a run in
which that call is made, as long as an onlooker who watches is never held.
-/
theorem run_brings_about {property : Station → Prop} {cause : Engine.Call}
    (brought : ∀ {station next : Station} {held outcome}, station.IsWatchedBy onlooker →
      onlooker ∉ held → station.call held cause = .ok (outcome, next) → property next)
    (kept : ∀ {station next : Station} {held request outcome}, property station →
      station.IsWatchedBy onlooker → onlooker ∉ held →
        station.call held request = .ok (outcome, next) → property next)
    {last : Station} {calls : List (List Onlooker × Engine.Call)}
    {outcomes : List (Option Outcome)} (watched : station.IsWatchedBy onlooker)
    (free : ∀ call ∈ calls, onlooker ∉ call.1)
    (ran : station.run calls = .ok (outcomes, last))
    (holds : property station ∨ cause ∈ calls.map Prod.snd) : property last := by
  induction calls generalizing station outcomes with
  | nil =>
      cases ran
      rcases holds with already | impossible
      · exact already
      · cases impossible
  | cons call rest ih =>
      rcases call with ⟨held, request⟩
      rw [run] at ran
      rcases bind_eq_ok_iff.mp ran with ⟨⟨outcome, next⟩, done, further⟩
      rcases bind_eq_ok_iff.mp further with ⟨⟨others, reached⟩, ranOn, told⟩
      cases told
      have unheld : onlooker ∉ held := free (held, request) List.mem_cons_self
      rcases toldTo_call watched unheld done with ⟨-, -, -, watchedOn, -⟩
      apply ih watchedOn (fun call member => free call (List.mem_cons_of_mem _ member)) ranOn
      rcases holds with already | made
      · exact Or.inl (kept already watched unheld done)
      · rcases List.mem_cons.mp made with rfl | later
        · exact Or.inl (brought watched unheld done)
        · exact Or.inr later

/--
An onlooker who has signed up for everything, is never held and has been told
where the robot is and what it carries has the right picture of the engine after
every further call, from what events told alone.
-/
theorem seeAll_toldTo_eq_picture {last : Station}
    {calls : List (List Onlooker × Engine.Call)} {outcomes : List (Option Outcome)}
    (watched : station.IsWatchedBy onlooker) (free : ∀ call ∈ calls, onlooker ∉ call.1)
    (placed : .initNavigation ∈ calls.map Prod.snd)
    (loaded : .initInventory ∈ calls.map Prod.snd)
    (ran : station.run calls = .ok (outcomes, last)) (guess : Picture) :
    guess.seeAll (last.toldTo onlooker) = last.engine.world.picture := by
  have way : last.ShowsWay onlooker :=
    run_brings_about showsWay_of_initNavigation ShowsWay.call watched free ran (Or.inr placed)
  have load : last.ShowsLoad onlooker :=
    run_brings_about showsLoad_of_initInventory ShowsLoad.call watched free ran (Or.inr loaded)
  exact (way guess).eq_of_sameLoad (load guess)

/-- Two onlookers watch a robot that carries a cell with a single use. -/
def withOneCell : Station where
  engine :=
    { world :=
        { robot := .fresh .standard
          navigation := ⟨⟨[⟨"Shed", "A shed", false, .empty⟩], []⟩, 0, .north, by decide⟩
          inventory := .ofItems
            [⟨"Cell", "spare", .fuel ⟨7, by decide, by decide⟩ .one⟩] }
      history := [] }
  audience := (Audience.nobody.addEverywhere 0).addEverywhere 1
  log := []

/-- The cell used up, and its use undone, while the second onlooker misses everything. -/
def cellUsedAndBack : List (List Onlooker × Engine.Call) :=
  [([1], .initNavigation), ([1], .initInventory), ([1], .execute (.operate "cell" none)),
    ([1], .undo)]

/-- The first onlooker has seen the cell come back. -/
theorem seeAll_toldTo_cellUsedAndBack :
    withOneCell.IsWatchedBy 0 ∧ (∀ call ∈ cellUsedAndBack, 0 ∉ call.1) ∧
      ∃ outcomes last, withOneCell.run cellUsedAndBack = .ok (outcomes, last) ∧
        outcomes = [none, none, some .executed, some .executed] ∧
        ∀ guess : Picture, guess.seeAll (last.toldTo 0) = last.engine.world.picture := by
  have watched : withOneCell.IsWatchedBy 0 := by
    intro source
    cases source <;> rfl
  have free : ∀ call ∈ cellUsedAndBack, 0 ∉ call.1 := by decide
  refine ⟨watched, free, _, _, rfl, by decide +kernel, ?_⟩
  exact seeAll_toldTo_eq_picture watched free (by decide) (by decide) rfl

end Station

end Rover
