import Rover.Proofs.Picture

/-!
# Who looks on

Somebody who signs up at a station, or who is held while it works, changes
nothing about the work: what tasks come to and the events that they raise are
told by the engine alone.  An onlooker, for his part, is told of every event
from a source that he has signed up for, once and in order, but for the tasks
that he is held in; and those who are told of an event are told in the order in
which they first signed up for its source.

All this is said of happenings at a station: sign-ups and tasks in any order.
A task is a call to the engine, or work on the parts that it hands out.  A task
that breaks off has told what it had to tell by then.
-/

namespace Rover

namespace Engine

/-! ## Tasks -/

/-- Something to do for an engine or, behind its back, with the parts that it hands out. -/
inductive Task where
  | call (request : Call)
  /-- An instruction carried out on the spot, without a history. -/
  | execute (instruction : Instruction)
  /-- An instruction undone on the spot. -/
  | undo (instruction : Instruction)
  | use (item : Item)
  | takeBack (item : Item)
  | navigate (request : Navigation.Request)
  | handle (request : Bag.Request)
  deriving DecidableEq, Repr

/-- What a task comes to. -/
inductive Reply where
  | outcome (outcome? : Option Outcome)
  | attempt (instruction : Instruction) (failure? : Option Failure)
  /-- Whether there was a use for the item, and what is left of it. -/
  | item (worked : Bool) (left : Item)
  | navigation (reply : Navigation.Reply)
  | bag (reply : Bag.Reply)
  deriving DecidableEq, Repr

/-- The engine after a task, what the task came to, and the events it raised in order. -/
structure Result where
  reply : Reply
  engine : Engine
  events : List Event

/-- What is left of an attempt when only the world is changed by it. -/
def ofAttempt (engine : Engine) (attempt : Attempt) : Result where
  reply := .attempt attempt.instruction attempt.failure?
  engine := { engine with world := attempt.world }
  events := attempt.events

/-- What the work of an item comes to, if it had any. -/
def ofEffect (engine : Engine) (item : Item) : Option ItemEffect → Result
  | none => { reply := .item false item, engine, events := [] }
  | some effect =>
      { reply := .item true effect.item
        engine := { engine with world := effect.world }
        events := effect.events }

/-- A task carried out. -/
def carryOut (engine : Engine) : Task → Except Breakdown Result
  | .call request => do
      let answer ← engine.call request
      return { reply := .outcome answer.outcome?, engine := answer.engine, events := answer.events }
  | .execute instruction => return engine.ofAttempt (← engine.world.execute instruction)
  | .undo instruction => return engine.ofAttempt (← engine.world.undo instruction)
  | .use item => return engine.ofEffect item (← engine.world.use item)
  | .takeBack item => return engine.ofEffect item (← engine.world.takeBack item)
  | .navigate request => do
      let (reply, navigation, events) ←
        afterTelling [] (engine.world.navigation.serve request)
      return {
        reply := .navigation reply
        engine := { engine with world := { engine.world with navigation } }
        events }
  | .handle request =>
      let (reply, inventory, events) := engine.world.inventory.serve request
      return {
        reply := .bag reply
        engine := { engine with world := { engine.world with inventory } }
        events }

/--
What some tasks come to, one after the other: the replies, the events that each
task has told of, and the engine after them or the fault that cut them short.
-/
structure Account where
  replies : List Reply
  told : List (List Event)
  reached : Except Fault Engine

/-- The account of some tasks, which nobody needs to watch. -/
def account (engine : Engine) : List Task → Account
  | [] => { replies := [], told := [], reached := .ok engine }
  | task :: rest =>
      match engine.carryOut task with
      | .error breakdown =>
          { replies := [], told := [breakdown.events], reached := .error breakdown.fault }
      | .ok result =>
          let later := result.engine.account rest
          { replies := result.reply :: later.replies
            told := result.events :: later.told
            reached := later.reached }

end Engine

/-! ## Sign-ups -/

namespace Audience

/-- Those who have signed up for a source, each once, in the order in which they first did. -/
def queue (signUps : List (Source × Onlooker)) (source : Source) : List Onlooker :=
  ((signUps.filter fun signUp => signUp.1 = source).map Prod.snd).eraseDups

/-- The sign-ups of an audience, as if they had come source by source. -/
def signUps (audience : Audience) : List (Source × Onlooker) :=
  audience.navigation.list.map (Prod.mk .navigation) ++
    audience.engine.list.map (Prod.mk .engine) ++
      audience.inventory.list.map (Prod.mk .inventory)

/-- An audience has come about by some sign-ups. -/
def IsMadeBy (audience : Audience) (signUps : List (Source × Onlooker)) : Prop :=
  ∀ source, (audience.of source).list = queue signUps source

theorem eraseDups_concat (earlier : List Onlooker) (last : Onlooker) :
    (earlier ++ [last]).eraseDups =
      if last ∈ earlier then earlier.eraseDups else earlier.eraseDups ++ [last] := by
  rw [List.eraseDups_append]
  by_cases known : last ∈ earlier
  · simp [List.removeAll, known]
  · simp [List.removeAll, known, List.eraseDups_cons]

theorem eraseDups_of_nodup {list : List Onlooker} (once : list.Nodup) : list.eraseDups = list := by
  induction list with
  | nil => rfl
  | cons first rest ih =>
      have ⟨fresh, onceRest⟩ := List.nodup_cons.mp once
      have kept : (rest.filter fun other => !other == first) = rest := by
        apply List.filter_eq_self.mpr
        intro other member
        rw [Bool.not_eq_true', beq_eq_false_iff_ne]
        rintro rfl
        exact fresh member
      rw [List.eraseDups_cons, kept, ih onceRest]

theorem isMadeBy_signUps (audience : Audience) : audience.IsMadeBy audience.signUps := by
  intro source
  have own : ((audience.signUps.filter fun signUp => signUp.1 = source).map Prod.snd) =
      (audience.of source).list := by
    cases source <;>
      simp [signUps, List.filter_append, List.filter_map, Function.comp_def, of]
  rw [queue, own, eraseDups_of_nodup (audience.of source).nodup]

variable {audience : Audience} {signUps : List (Source × Onlooker)}

theorem list_of_add (audience : Audience) (source other : Source) (onlooker : Onlooker) :
    ((audience.add source onlooker).of other).list =
      if other = source ∧ onlooker ∉ (audience.of other).list then
        (audience.of other).list ++ [onlooker]
      else
        (audience.of other).list := by
  have added (onlookers : Onlookers) : (onlookers.add onlooker).list =
      if onlooker ∉ onlookers.list then onlookers.list ++ [onlooker] else onlookers.list := by
    unfold Onlookers.add
    split <;> rfl
  cases source <;> cases other <;> simp [add, of, added]

/-- One more sign-up comes last, unless that onlooker is in the queue already. -/
theorem IsMadeBy.add (made : audience.IsMadeBy signUps) (source : Source) (onlooker : Onlooker) :
    (audience.add source onlooker).IsMadeBy (signUps ++ [(source, onlooker)]) := by
  intro other
  have before := made other
  rw [list_of_add, before, queue, queue, List.filter_append, List.map_append]
  by_cases same : other = source
  · subst same
    simp [eraseDups_concat]
  · simp [same, Ne.symm same]

theorem IsMadeBy.mem_iff (made : audience.IsMadeBy signUps) {source : Source}
    {onlooker : Onlooker} :
    onlooker ∈ (audience.of source).list ↔ (source, onlooker) ∈ signUps := by
  simp [made source, queue]

end Audience

/-! ## Happenings -/

/-- What happens at a station: somebody signs up, or a task is done while some are held. -/
inductive Happening where
  | watch (source : Source) (onlooker : Onlooker)
  | work (held : List Onlooker) (task : Engine.Task)
  deriving DecidableEq, Repr

/-- The task of a happening, if it is one. -/
def Happening.task? : Happening → Option Engine.Task
  | .watch _ _ => none
  | .work _ task => some task

/-- The circumstances of a task: who has signed up for what before it, and who is held. -/
structure Scene where
  signUps : List (Source × Onlooker)
  held : List Onlooker

namespace Scene

/-- Who is told of the events of a task, event by event and in the order of the first sign-ups. -/
def notices (scene : Scene) (events : List Event) : List Notice :=
  events.flatMap fun event =>
    ((Audience.queue scene.signUps event.source).filter fun onlooker =>
      onlooker ∉ scene.held).map fun onlooker => ⟨onlooker, event⟩

/-- The events of a task that an onlooker is told of. -/
def hears (scene : Scene) (onlooker : Onlooker) (events : List Event) : List Event :=
  if onlooker ∈ scene.held then
    []
  else
    events.filter fun event => (event.source, onlooker) ∈ scene.signUps

variable {audience : Audience} {scene : Scene}

theorem deliver_eq_notices (made : audience.IsMadeBy scene.signUps) (events : List Event) :
    audience.deliver scene.held events = scene.notices events := by
  rw [Audience.deliver, notices]
  apply congrArg (List.flatMap · events)
  funext event
  rw [Audience.notices, Onlookers.hearing, made event.source]
  simp

theorem heardBy_notices (made : audience.IsMadeBy scene.signUps) (onlooker : Onlooker)
    (events : List Event) :
    Audience.heardBy onlooker (scene.notices events) = scene.hears onlooker events := by
  rw [← deliver_eq_notices made]
  induction events with
  | nil => simp [hears, Audience.deliver, Audience.heardBy]
  | cons event rest ih =>
      change Audience.heardBy onlooker
        (audience.notices scene.held event ++ audience.deliver scene.held rest) = _
      rw [Audience.heardBy_append, Audience.heardBy_notices, ih]
      simp only [made.mem_iff]
      by_cases held : onlooker ∈ scene.held
      · simp [hears, held]
      · by_cases signedUp : (event.source, onlooker) ∈ scene.signUps <;>
          simp [hears, held, signedUp]

end Scene

/-- The circumstances of all tasks among some happenings, after some sign-ups. -/
def scenes (signUps : List (Source × Onlooker)) : List Happening → List Scene
  | [] => []
  | .watch source onlooker :: rest => scenes (signUps ++ [(source, onlooker)]) rest
  | .work held _ :: rest => ⟨signUps, held⟩ :: scenes signUps rest

/--
What has come of some happenings: the replies to the tasks, the engine after
them or the fault that cut them short, and all that onlookers have been told.
-/
structure Attendance where
  replies : List Engine.Reply
  reached : Except Fault Engine
  log : List Notice

namespace Station

/-- A station attended through some happenings. -/
def attend (station : Station) : List Happening → Attendance
  | [] => { replies := [], reached := .ok station.engine, log := station.log }
  | .watch source onlooker :: rest => (station.watch source onlooker).attend rest
  | .work held task :: rest =>
      match station.engine.carryOut task with
      | .error breakdown =>
          { replies := []
            reached := .error breakdown.fault
            log := (station.publish held station.engine breakdown.events).log }
      | .ok result =>
          let later := (station.publish held result.engine result.events).attend rest
          { later with replies := result.reply :: later.replies }

/-- The account that the engine of a station gives of the tasks among some happenings. -/
def account (station : Station) (happenings : List Happening) : Engine.Account :=
  station.engine.account (happenings.filterMap Happening.task?)

/-- What happens at a station comes to what its engine makes of the tasks alone. -/
theorem attend_eq_account (station : Station) (happenings : List Happening) :
    (station.attend happenings).replies = (station.account happenings).replies ∧
      (station.attend happenings).reached = (station.account happenings).reached := by
  induction happenings generalizing station with
  | nil => exact ⟨rfl, rfl⟩
  | cons happening rest ih =>
      cases happening with
      | watch source onlooker => exact ih (station.watch source onlooker)
      | work held task =>
          have tasks : station.account (.work held task :: rest) =
              station.engine.account (task :: rest.filterMap Happening.task?) := rfl
          rw [attend, tasks, Engine.account]
          cases carried : station.engine.carryOut task with
          | error breakdown => exact ⟨rfl, rfl⟩
          | ok result =>
              have ⟨replies, reached⟩ := ih (station.publish held result.engine result.events)
              exact ⟨congrArg (result.reply :: ·) replies, reached⟩

/-- The log grows task by task, by what those are told who have signed up and are not held. -/
theorem log_attend {station : Station} {signUps : List (Source × Onlooker)}
    (made : station.audience.IsMadeBy signUps) (happenings : List Happening) :
    (station.attend happenings).log = station.log ++
      ((scenes signUps happenings).zip (station.account happenings).told).flatMap
        fun shown => shown.1.notices shown.2 := by
  induction happenings generalizing station signUps with
  | nil => simp [attend, scenes]
  | cons happening rest ih =>
      cases happening with
      | watch source onlooker => exact ih (made.add source onlooker)
      | work held task =>
          have tasks : station.account (.work held task :: rest) =
              station.engine.account (task :: rest.filterMap Happening.task?) := rfl
          have delivered (events : List Event) : station.audience.deliver held events =
              (Scene.mk signUps held).notices events :=
            @Scene.deliver_eq_notices station.audience ⟨signUps, held⟩ made events
          rw [attend, tasks, Engine.account, scenes]
          cases carried : station.engine.carryOut task with
          | error breakdown => simp [publish, delivered]
          | ok result =>
              have later := @ih (station.publish held result.engine result.events) signUps made
              dsimp only
              rw [later, publish, delivered, List.zip_cons_cons, List.flatMap_cons,
                ← List.append_assoc]
              rfl

/--
What onlookers are told while a station is attended, if `told` has the events
that the tasks told of, task by task.
-/
structure IsOverheard (station : Station) (happenings : List Happening)
    (told : List (List Event)) : Prop where
  /-- Each event goes to the queue for its source, but for those who are held. -/
  log : (station.attend happenings).log = station.log ++
    ((scenes station.audience.signUps happenings).zip told).flatMap
      fun shown => shown.1.notices shown.2
  /-- To one onlooker go the events from sources that he has signed up for by then. -/
  heard : ∀ onlooker, Audience.heardBy onlooker (station.attend happenings).log =
    Audience.heardBy onlooker station.log ++
      ((scenes station.audience.signUps happenings).zip told).flatMap
        fun shown => shown.1.hears onlooker shown.2

theorem exists_isMadeBy_of_mem_scenes {audience : Audience} {signUps : List (Source × Onlooker)}
    (made : audience.IsMadeBy signUps) {happenings : List Happening} {scene : Scene}
    (member : scene ∈ scenes signUps happenings) :
    ∃ grown : Audience, grown.IsMadeBy scene.signUps := by
  induction happenings generalizing audience signUps with
  | nil => cases member
  | cons happening rest ih =>
      cases happening with
      | watch source onlooker => exact ih (made.add source onlooker) member
      | work held task =>
          rcases List.mem_cons.mp member with rfl | later
          · exact ⟨audience, made⟩
          · exact ih made later

theorem heardBy_flatMap_notices (onlooker : Onlooker) (shown : List (Scene × List Event))
    (made : ∀ one ∈ shown, ∃ audience : Audience, audience.IsMadeBy one.1.signUps) :
    Audience.heardBy onlooker (shown.flatMap fun one => one.1.notices one.2) =
      shown.flatMap fun one => one.1.hears onlooker one.2 := by
  induction shown with
  | nil => rfl
  | cons first rest ih =>
      rcases made first List.mem_cons_self with ⟨audience, grown⟩
      rw [List.flatMap_cons, List.flatMap_cons, Audience.heardBy_append,
        Scene.heardBy_notices grown, ih fun one member => made one (List.mem_cons_of_mem _ member)]

theorem isOverheard_account (station : Station) (happenings : List Happening) :
    station.IsOverheard happenings (station.account happenings).told := by
  have made := station.audience.isMadeBy_signUps
  have grown := log_attend made happenings
  refine ⟨grown, fun onlooker => ?_⟩
  rw [grown, Audience.heardBy_append, heardBy_flatMap_notices]
  intro shown member
  exact exists_isMadeBy_of_mem_scenes made (List.of_mem_zip member).1

/--
Onlookers only listen.  Two stations with one engine, whoever watches them,
signs up or is held in between, come to the same through the same tasks: the
same replies, the same engine or the same fault.  And what the tasks tell of is
the same for both: each onlooker is told of every event from the sources that he
has signed up for, once and in order, but for the tasks that he is held in, and
within an event the onlookers are told in the order of their first sign-ups.
-/
theorem onlookers_only_listen {station other : Station} {happenings others : List Happening}
    (engines : other.engine = station.engine)
    (tasks : others.filterMap Happening.task? = happenings.filterMap Happening.task?) :
    (other.attend others).replies = (station.attend happenings).replies ∧
    (other.attend others).reached = (station.attend happenings).reached ∧
    station.IsOverheard happenings (station.account happenings).told ∧
    other.IsOverheard others (station.account happenings).told := by
  have accounts : other.account others = station.account happenings := by
    rw [account, account, engines, tasks]
  have ⟨replies, reached⟩ := station.attend_eq_account happenings
  have ⟨otherReplies, otherReached⟩ := other.attend_eq_account others
  refine ⟨?_, ?_, station.isOverheard_account happenings, ?_⟩
  · rw [otherReplies, accounts, replies]
  · rw [otherReached, accounts, reached]
  · rw [← accounts]
    exact other.isOverheard_account others

/-- A cell whose use nobody can take back. -/
def dud : Item :=
  ⟨"Dud", "leaking", .fuel (.nearest (-2147483648)) .one⟩

/-- The cell used up and its use undone before two onlookers, until a dud breaks everything off. -/
def busyEvening : List Happening :=
  [.work [1] (.call .initInventory), .watch .engine 0,
    .work [] (.call (.execute (.operate "CELL" none))), .work [0] (.call .undo),
    .work [] (.takeBack dud)]

/-- The same tasks before somebody who comes later, signs up twice and misses the undoing. -/
def quietEvening : List Happening :=
  [.work [] (.call .initInventory), .watch .engine 2, .watch .inventory 2, .watch .engine 2,
    .work [] (.call (.execute (.operate "CELL" none))), .work [2] (.call .undo),
    .work [] (.takeBack dud)]

/-- Both evenings end alike, and the one who came later has seen the cell used up. -/
theorem quietEvening_as_busyEvening :
    (unwatched withOneCell.engine).engine = withOneCell.engine ∧
      quietEvening.filterMap Happening.task? = busyEvening.filterMap Happening.task? ∧
      ((unwatched withOneCell.engine).attend quietEvening).reached =
        (withOneCell.attend busyEvening).reached ∧
      Audience.heardBy 2 ((unwatched withOneCell.engine).attend quietEvening).log =
        [.stateUpdated ⟨107, by decide, by decide⟩ .zero,
          .robotSpeaks "What a pity! I have no more CELL in my inventory",
          .inventoryChanged []] := by
  have tasks : quietEvening.filterMap Happening.task? =
      busyEvening.filterMap Happening.task? := by
    decide
  have ⟨_, reached, _, overheard⟩ :=
    onlookers_only_listen (show (unwatched withOneCell.engine).engine = withOneCell.engine from rfl)
      tasks
  refine ⟨rfl, tasks, reached, ?_⟩
  rw [overheard.heard 2]
  decide +kernel

end Station

end Rover
