import Rover.Proofs.Served
import Rover.Proofs.Verdict

/-!
# The end of a game

The engine takes its leave with the instruction that ends the run, and only
with an instruction.  A game that stops without a failure is over, and its
console has been told so at most once.  If it has been told, that was last of
all and in words that suit the engine as it is left.  It has not been told
exactly if the run was over from the start, or if the player ended it by
undoing.
-/

namespace Rover

/-- Whether a cue tells the player that the run is over. -/
def Cue.isFarewell : Cue → Bool
  | .event told => told.isTerminal
  | _ => false

/-- Some cues of which none tells the player that the run is over. -/
def Hushed (cues : List Cue) : Prop :=
  ∀ cue ∈ cues, cue.isFarewell = false

theorem hushed_nil : Hushed [] := by
  intro cue member
  cases member

theorem Hushed.append {first second : List Cue} (earlier : Hushed first)
    (later : Hushed second) : Hushed (first ++ second) := by
  intro cue member
  rcases List.mem_append.mp member with before | after
  · exact earlier cue before
  · exact later cue after

theorem hushed_of_events {events : List Event}
    (untold : ∀ event ∈ events, event.isTerminal = false) : Hushed (events.map Cue.event) := by
  intro cue member
  rcases List.mem_map.mp member with ⟨event, told, rfl⟩
  exact untold event told

/-! ## Engines -/

namespace Engine

variable {engine : Engine} {instruction : Instruction} {answer : Answer}

/-- An answer ends a run: it takes leave once, and in the end. -/
structure Leaves (answer : Answer) : Prop where
  ended : answer.engine.isOver = true
  told : ∃ before, answer.events = before ++ [answer.engine.farewell] ∧
    ∀ event ∈ before, event.isTerminal = false

/-- The last words on a run: the spaceship goes before the tank, and the tank before giving up. -/
inductive LastWords (engine : Engine) : Event → Prop
  | home (arrived : engine.world.navigation.atSpaceship = true) :
      LastWords engine (.engineShutDown true)
  | dry (away : engine.world.navigation.atSpaceship = false)
      (empty : engine.world.robot.fuel.value ≤ 0) : LastWords engine (.engineShutDown false)
  | givenUp (away : engine.world.navigation.atSpaceship = false)
      (fueled : 0 < engine.world.robot.fuel.value)
      (asked : engine.world.robot.quitRequested = true) : LastWords engine .communicationEnded

theorem LastWords.source_eq {event : Event} (words : engine.LastWords event) :
    event.source = .engine := by
  cases words <;> rfl

theorem lastWords_farewell (ended : engine.isOver = true) : engine.LastWords engine.farewell := by
  rw [farewell]
  split
  case isTrue arrived => exact .home arrived
  case isFalse away =>
    have away := Bool.eq_false_iff.mpr away
    split
    case isTrue empty => exact .dry away empty
    case isFalse fueled =>
      apply LastWords.givenUp away (Int.not_le.mp fueled)
      simpa [isOver, away, fueled] using ended

theorem LastWords.isTerminal_eq {event : Event} (words : engine.LastWords event) :
    event.isTerminal = true := by
  cases words <;> rfl

theorem untold_of_tellsNoVerdict {events : List Event} (silent : TellsNoVerdict events) :
    ∀ event ∈ events, event.isTerminal = false := by
  intro event member
  exact (tellsNoVerdict_iff.mp silent event member).2

theorem untold_of_failure {events : List Event} (silent : TellsNoVerdict events)
    (message : String) :
    ∀ event ∈ events ++ [.errorRaised message], event.isTerminal = false := by
  intro event member
  rcases List.mem_append.mp member with before | last
  · exact untold_of_tellsNoVerdict silent event before
  · rw [List.mem_singleton.mp last]
    rfl

/--
An instruction that fails takes no leave and changes nothing.  One that succeeds
takes leave exactly if the run is over with it.
-/
theorem execute_parts (done : engine.execute instruction = .ok answer) :
    (answer.outcome? = some .failed ∧ answer.engine = engine ∧
        ∀ event ∈ answer.events, event.isTerminal = false) ∨
      answer.outcome? = some .executed ∧
        (answer.engine.isOver = false ∧ (∀ event ∈ answer.events, event.isTerminal = false) ∨
          Leaves answer) := by
  rcases execute_answers done with
    ⟨attempt, tried, ⟨failure, failed, outcome, left, told⟩ | rfl⟩
  · rw [World.eq_of_failure_of_execute tried failed] at left
    refine Or.inl ⟨outcome, left, ?_⟩
    rw [told]
    exact untold_of_failure (World.tellsNoVerdict_execute tried) failure.message
  · have untold := untold_of_tellsNoVerdict (World.tellsNoVerdict_execute tried)
    refine Or.inr ⟨rfl, ?_⟩
    cases ended : (engine.performed attempt).engine.isOver with
    | false =>
        have told : (engine.performed attempt).events = attempt.events ++ [] :=
          congrArg (attempt.events ++ ·) (if_neg (Bool.eq_false_iff.mp ended))
        refine Or.inl ⟨rfl, ?_⟩
        rw [told, List.append_nil]
        exact untold
    | true =>
        have told : (engine.performed attempt).events =
            attempt.events ++ [(engine.performed attempt).engine.farewell] :=
          congrArg (attempt.events ++ ·) (if_pos ended)
        exact Or.inr ⟨ended, attempt.events, told, untold⟩

/-- An instruction that does not end the run takes no leave, and one that does takes it. -/
theorem execute_leaves_or_goes_on (going : engine.isOver = false)
    (done : engine.execute instruction = .ok answer) :
    (answer.engine.isOver = false ∧ ∀ event ∈ answer.events, event.isTerminal = false) ∨
      Leaves answer := by
  rcases execute_parts done with ⟨-, left, untold⟩ | ⟨-, parts⟩
  · refine Or.inl ⟨?_, untold⟩
    rw [left]
    exact going
  · exact parts

/-- Giving up ends the run. -/
theorem isOver_of_quit (done : engine.execute .quit = .ok answer) :
    answer.engine.isOver = true := by
  cases done
  exact Bool.or_true _

/-- An undo takes no leave, whether or not it ends the run. -/
theorem untold_of_undo (done : engine.undo = .ok answer) :
    ∀ event ∈ answer.events, event.isTerminal = false := by
  rcases undo_answers done with
    ⟨-, told⟩ | ⟨instruction, attempt, tried, -, told | ⟨failure, told⟩⟩
  · have nothing : TellsNoVerdict [] := rfl
    rw [told]
    exact untold_of_failure nothing Failure.nothingToUndo.message
  · rw [told]
    exact untold_of_tellsNoVerdict (World.tellsNoVerdict_undo tried)
  · rw [told]
    exact untold_of_failure (World.tellsNoVerdict_undo tried) failure.message

end Engine

/-! ## Endings -/

namespace Ending

/-- The player has not been told that the run is over. -/
def IsSilent (ending : Ending) : Prop :=
  Hushed ending.shown

/-- The player has been told once that the run is over, last of all and in words that suit the end. -/
def SaysGoodbye (ending : Ending) : Prop :=
  ∃ before last, ending.shown = before ++ [.event last] ∧ Hushed before ∧
    ending.game.engine.LastWords last

instance (ending : Ending) : Decidable ending.IsSilent :=
  inferInstanceAs (Decidable (∀ cue ∈ ending.shown, cue.isFarewell = false))

variable {ending : Ending} {next : Game → Ending}

theorem SaysGoodbye.not_isSilent (said : ending.SaysGoodbye) : ¬ending.IsSilent := by
  rcases said with ⟨before, last, shown, -, words⟩
  intro silent
  have member : .event last ∈ ending.shown := by
    rw [shown]
    exact List.mem_append_right before (List.mem_singleton_self _)
  cases (silent _ member).symm.trans words.isTerminal_eq

/--
A game has stopped because its run is over.  The player has been told so, once and
last of all, unless there is a reason for silence.
-/
structure Closes (ending : Ending) (reason : Prop) : Prop where
  ended : ending.game.engine.isOver = true
  parting : ending.IsSilent ∧ reason ∨ ending.SaysGoodbye ∧ ¬reason

namespace Closes

variable {reason other : Prop}

theorem isSilent_iff (closes : ending.Closes reason) : ending.IsSilent ↔ reason := by
  rcases closes.parting with ⟨silent, given⟩ | ⟨said, missing⟩
  · exact iff_of_true silent given
  · exact iff_of_false said.not_isSilent missing

theorem congr (closes : ending.Closes reason) (same : reason ↔ other) : ending.Closes other := by
  rw [← propext same]
  exact closes

theorem andThen (done : ending.result = .ok ()) (silent : ending.IsSilent)
    (closes : (next ending.game).Closes reason) : (ending.andThen next).Closes reason := by
  rw [andThen_of_ok done]
  refine ⟨closes.ended, ?_⟩
  rcases closes.parting with ⟨still, given⟩ | ⟨⟨before, last, shown, hushed, words⟩, missing⟩
  · exact Or.inl ⟨Hushed.append silent still, given⟩
  · refine Or.inr ⟨⟨ending.shown ++ before, last, ?_, Hushed.append silent hushed, words⟩, missing⟩
    rw [List.append_assoc, ← shown]

end Closes

end Ending

/-! ## Prompts -/

namespace Game

variable {game : Game} {request : Engine.Call} {answer : Answer}

theorem shown_checked (turn : Turn) : turn.checked.shown = turn.shown := by
  rw [Turn.checked]
  cases turn.outcome <;> rfl

theorem shown_call_of_ok (answered : game.engine.call request = .ok answer) :
    (game.call request).shown = answer.events.map Cue.event := by
  rw [call, answered]

/-- A call that a game survives is answered, and the console is shown the answer. -/
theorem exists_answer_of_checked (done : (game.call request).checked.result = .ok ()) :
    ∃ answer, game.engine.call request = .ok answer ∧
      (game.call request).checked.game.engine = answer.engine ∧
      (game.call request).checked.shown = answer.events.map Cue.event := by
  cases answered : game.engine.call request with
  | error breakdown =>
      have broken := call_faults_iff.mpr ⟨breakdown.events, answered⟩
      cases done.symm.trans (checked_faults_iff.mpr broken)
  | ok answer =>
      refine ⟨answer, rfl, ?_, ?_⟩
      · rw [engine_checked, engine_call_of_ok answered]
      · rw [shown_checked, shown_call_of_ok answered]

theorem closes_of_leaves {reason : Prop} {ending : Ending} (leaves : Engine.Leaves answer)
    (left : ending.game.engine = answer.engine)
    (shown : ending.shown = answer.events.map Cue.event) (missing : ¬reason) :
    ending.Closes reason := by
  rcases leaves with ⟨ended, before, told, untold⟩
  have words : ending.game.engine.LastWords answer.engine.farewell :=
    left.symm ▸ Engine.lastWords_farewell ended
  refine ⟨left ▸ ended,
    Or.inr ⟨⟨before.map Cue.event, _, ?_, hushed_of_events untold, words⟩, missing⟩⟩
  rw [shown, told, List.map_append]
  rfl

theorem requested?_cases {input : Option (Option String)}
    (requested : requested? input = some request) :
    request = .undo ∨ ∃ instruction, request = .execute instruction := by
  have play := requested?_isPlay requested
  cases request with
  | undo => exact Or.inl rfl
  | execute instruction => exact Or.inr ⟨instruction, rfl⟩
  | _ => cases play

/-- A line that asks the engine for nothing is answered without a goodbye. -/
theorem isSilent_answer_of_refused {input : Option (Option String)}
    (nothing : requested? input = none) : (game.answer input).IsSilent := by
  rcases input with _ | _ | line
  · cases nothing
  · exact hushed_nil
  · by_cases undo : asksUndo line = true
    · rw [requested?, if_pos undo] at nothing
      cases nothing
    · rw [requested?, if_neg undo] at nothing
      show Hushed (game.handle line).checked.shown
      rw [shown_checked, handle, if_neg undo]
      cases read : interpret InstructionKind.all line with
      | ok instruction =>
          rw [read] at nothing
          cases nothing
      | error refusal =>
          intro cue member
          rcases List.mem_pair.mp member with rfl | rfl <;> rfl

/--
After the player's answer the run goes on in silence, or it is over: in silence if
the player has undone something, and with a goodbye otherwise.
-/
theorem answer_goes_on_or_closes {input : Option (Option String)}
    (going : game.engine.isOver = false) (done : (game.answer input).result = .ok ()) :
    ((game.answer input).game.engine.isOver = false ∧ (game.answer input).IsSilent) ∨
      (game.answer input).Closes (requested? input = some .undo) := by
  rcases game.answer_cases input with ⟨request, requested, same⟩ | ⟨nothing, left, -⟩
  · rw [same] at done ⊢
    rcases exists_answer_of_checked done with ⟨answer, answered, left, shown⟩
    rcases requested?_cases requested with rfl | ⟨instruction, rfl⟩
    · have silent : (game.call .undo).checked.IsSilent := by
        rw [Ending.IsSilent, shown]
        exact hushed_of_events (Engine.untold_of_undo answered)
      cases ended : answer.engine.isOver with
      | false => exact Or.inl ⟨left ▸ ended, silent⟩
      | true => exact Or.inr ⟨left ▸ ended, Or.inl ⟨silent, requested⟩⟩
    · rcases Engine.execute_leaves_or_goes_on going answered with ⟨onwards, untold⟩ | leaves
      · refine Or.inl ⟨left ▸ onwards, ?_⟩
        rw [Ending.IsSilent, shown]
        exact hushed_of_events untold
      · refine Or.inr (closes_of_leaves leaves left shown ?_)
        rw [requested]
        exact nofun
  · refine Or.inl ⟨?_, isSilent_answer_of_refused nothing⟩
    rw [left]
    exact going

/-- The end of input closes the game with a goodbye. -/
theorem answer_none_closes (going : game.engine.isOver = false)
    (done : (game.answer none).result = .ok ()) : (game.answer none).Closes False := by
  rcases answer_goes_on_or_closes going done with ⟨onwards, -⟩ | closes
  · rcases exists_answer_of_checked done with ⟨answer, answered, left, -⟩
    have ended : (game.answer none).game.engine.isOver = true := by
      refine left ▸ Engine.isOver_of_quit answered
    cases onwards.symm.trans ended
  · exact closes.congr (iff_of_false nofun id)

theorem isSilent_ask (game : Game) : game.ask.IsSilent := by
  intro cue member
  rw [List.mem_singleton.mp member]
  rfl

/-! ## Rounds -/

/--
A game with some lines to come is ended by an undo: at some prompt the player undoes
an instruction, and the run is over after that.
-/
def EndsOnUndo (game : Game) (input : List (Option String)) : Prop :=
  ∃ last left answer, game.Reaches input last left ∧ last.IsPrompting ∧
    requested? left.head? = some .undo ∧ last.engine.undo = .ok answer ∧
      answer.engine.isOver = true

theorem not_endsOnUndo_of_isOver {input : List (Option String)}
    (ended : game.engine.isOver = true) : ¬game.EndsOnUndo input := by
  rintro ⟨last, left, answer, reached, prompting, -⟩
  cases reached with
  | here => cases ended.symm.trans prompting.going
  | later going => cases ended.symm.trans going

theorem not_endsOnUndo_nil : ¬game.EndsOnUndo [] := by
  rintro ⟨last, left, answer, reached, -, requested, -⟩
  cases reached with
  | here => cases requested

/-- A game is ended by an undo of the line at hand, or of a later one. -/
theorem endsOnUndo_cons_iff {line : Option String} (rest : List (Option String))
    (prompting : game.IsPrompting)
    (done : (game.ask.game.answer (some line)).result = .ok ()) :
    game.EndsOnUndo (line :: rest) ↔
      (requested? (some line) = some .undo ∧
          (game.ask.game.answer (some line)).game.engine.isOver = true) ∨
        (game.ask.game.answer (some line)).game.EndsOnUndo rest := by
  constructor
  · rintro ⟨last, left, answer, reached, stopping, requested, undone, ended⟩
    cases reached with
    | here =>
        refine Or.inl ⟨requested, ?_⟩
        rcases game.ask.game.answer_cases (some line) with
          ⟨request, asked, same⟩ | ⟨nothing, -, -⟩
        · cases requested.symm.trans asked
          have answered : game.ask.game.engine.call .undo = .ok answer := by
            rw [engine_ask]
            exact undone
          rw [same, engine_checked, engine_call_of_ok answered]
          exact ended
        · cases requested.symm.trans nothing
    | later going asked answered onward =>
        exact Or.inr ⟨last, left, answer, onward, stopping, requested, undone, ended⟩
  · rintro (⟨requested, ended⟩ | ⟨last, left, answer, onward, stopping, requested, undone, ended⟩)
    · rcases game.ask.game.answer_cases (some line) with ⟨request, asked, same⟩ | ⟨nothing, -, -⟩
      · cases requested.symm.trans asked
        rw [same] at done ended
        rcases exists_answer_of_checked done with ⟨answer, answered, left, -⟩
        rw [engine_ask] at answered
        exact ⟨game, line :: rest, answer, .here game _, prompting, requested, answered,
          left ▸ ended⟩
      · cases requested.symm.trans nothing
    · exact ⟨last, left, answer, .later prompting.going prompting.asked done onward, stopping,
        requested, undone, ended⟩

/-- A game that is over already stops without a word. -/
theorem rounds_of_isOver {input : List (Option String)} (ended : game.engine.isOver = true) :
    game.rounds input = { game, result := .ok (), shown := [] } := by
  cases input <;> rw [rounds, if_pos ended]

theorem andThen_rounds_of_isOver {ending : Ending} {input : List (Option String)}
    (done : ending.result = .ok ()) (ended : ending.game.engine.isOver = true) :
    (ending.andThen fun game => game.rounds input) = ending := by
  rw [Ending.andThen_of_ok done, rounds_of_isOver ended, List.append_nil, ← done]

/-- A game that is over already closes in silence. -/
theorem rounds_closes_of_isOver {input : List (Option String)}
    (ended : game.engine.isOver = true) :
    (game.rounds input).Closes (game.engine.isOver = true ∨ game.EndsOnUndo input) := by
  rw [rounds_of_isOver ended]
  exact ⟨ended, Or.inl ⟨hushed_nil, Or.inl ended⟩⟩

/--
Rounds that stop without a failure close the game: in silence if it was over already
or is ended by an undo.
-/
theorem rounds_closes {input : List (Option String)}
    (done : (game.rounds input).result = .ok ()) :
    (game.rounds input).Closes (game.engine.isOver = true ∨ game.EndsOnUndo input) := by
  -- Induction on the lines to come: a round is silent unless it is the last one.
  induction input generalizing game with
  | nil =>
      by_cases ended : game.engine.isOver = true
      · exact rounds_closes_of_isOver ended
      · rw [rounds, if_neg ended] at done ⊢
        rcases Ending.ok_of_andThen done with ⟨asked, answered⟩
        have going : game.ask.game.engine.isOver = false :=
          game.engine_ask ▸ Bool.eq_false_iff.mpr ended
        refine (Ending.Closes.andThen asked game.isSilent_ask
          (answer_none_closes going answered)).congr ?_
        exact iff_of_false id (not_or.mpr ⟨ended, not_endsOnUndo_nil⟩)
  | cons line rest ih =>
      by_cases ended : game.engine.isOver = true
      · exact rounds_closes_of_isOver ended
      · rw [rounds, if_neg ended] at done ⊢
        rcases Ending.ok_of_andThen done with ⟨asked, after⟩
        rcases Ending.ok_of_andThen after with ⟨answered, onwards⟩
        have prompting : game.IsPrompting := ⟨Bool.eq_false_iff.mpr ended, asked⟩
        have going : game.ask.game.engine.isOver = false := game.engine_ask ▸ prompting.going
        have next := endsOnUndo_cons_iff rest prompting answered
        refine Ending.Closes.andThen asked game.isSilent_ask ?_
        rcases answer_goes_on_or_closes going answered with ⟨onward, silent⟩ | closes
        · -- The run goes on, so the line at hand is not the one that ends it.
          refine (Ending.Closes.andThen answered silent (ih onwards)).congr ?_
          rw [next]
          simp [ended, onward]
        · -- The run is over, so no later line is answered.
          rw [andThen_rounds_of_isOver answered closes.ended]
          refine closes.congr ?_
          rw [next]
          simp [ended, closes.ended, not_endsOnUndo_of_isOver closes.ended]

/-! ## Whole games -/

theorem isSilent_opening (game : Game) : game.opening.IsSilent := by
  intro cue member
  rcases List.mem_pair.mp member with rfl | rfl <;> rfl

/-- After its opening a run is over at a spaceship, or if it starts with an empty tank. -/
theorem isOver_opening_iff (game : Game) :
    game.opening.game.engine.isOver = true ↔
      game.engine.world.navigation.atSpaceship = true ∨
        game.engine.world.robot.settings.initialFuel.value ≤ 0 := by
  rw [engine_opening]
  show (decide (_ ≤ (0 : Int)) || game.engine.world.navigation.atSpaceship || false) = true ↔ _
  rw [Bool.or_false, Bool.or_eq_true, decide_eq_true_eq, or_comm]
  rfl

theorem play_closes {input : List (Option String)} (done : (game.play input).result = .ok ()) :
    (game.play input).Closes
      ((game.engine.world.navigation.atSpaceship = true ∨
          game.engine.world.robot.settings.initialFuel.value ≤ 0) ∨
        game.opening.game.EndsOnUndo input) := by
  rcases Ending.ok_of_andThen done with ⟨opened, ended⟩
  rw [← isOver_opening_iff]
  apply Ending.Closes.andThen opened game.isSilent_opening
  exact rounds_closes ended

/--
A game on a map stops without a failure if its sink takes everything, all its input
is text and the engine meets no fault.  A game that stops without a failure is over,
and the player is told so at most once: last of all, and in words that suit the
engine as it is left.  The player is not told exactly if the run starts at a
spaceship or with an empty tank, or if the player ends it by undoing.  What the
player is told is what the console has taken, and a sink that takes everything has
taken just the words of it.
-/
theorem play_says_goodbye {map : String} {loaded : Atlas.Loaded}
    (load : Atlas.load map = .ok loaded) (heading : Direction) (settings : Settings) (sink : Sink)
    (input : List (Option String)) :
    ∃ engine ending,
      Engine.start loaded.city loaded.start heading settings.engine = .ok engine ∧
      (writingTo sink engine settings).play input = ending ∧
      ending.Displays (writingTo sink engine settings) ∧
      (sink.IsBoundless → none ∉ input → ending.IsWritten (writingTo sink engine settings) ∧
        ((∀ cause, ending.result ≠ .error (.fault cause)) → ending.result = .ok ())) ∧
      (ending.result = .ok () →
        ending.game.engine.isOver = true ∧ (ending.IsSilent ∨ ending.SaysGoodbye) ∧
        (ending.IsSilent ↔
          (engine.world.navigation.atSpaceship = true ∨ settings.engine.initialFuel.value ≤ 0) ∨
            (writingTo sink engine settings).opening.game.EndsOnUndo input)) := by
  rcases loaded with ⟨city, start⟩
  obtain ⟨read, rfl : start = Atlas.firstPlace⟩ := Atlas.load_eq_ok_iff.mp load
  have inhabited := (Atlas.read_isSound read).2
  rcases Engine.exists_start inhabited heading settings.engine with
    ⟨navigation, started, -, -, -⟩
  let engine : Engine := { world := ⟨.fresh settings.engine, navigation, .empty⟩, history := [] }
  refine ⟨engine, _, started, rfl, displays_play _ input, ?_, ?_⟩
  · intro boundless texts
    have reliable : (writingTo sink engine settings).console.IsReliable := ⟨boundless, rfl⟩
    refine ⟨isWritten_play reliable texts, fun sound => ?_⟩
    rcases (isServed_play reliable texts).result with done | ⟨cause, faulty⟩
    · exact done
    · exact absurd faulty (sound cause)
  · intro done
    have closes := play_closes done
    refine ⟨closes.ended, ?_, closes.isSilent_iff⟩
    rcases closes.parting with ⟨silent, -⟩ | ⟨said, -⟩
    · exact Or.inl silent
    · exact Or.inr said

/-- A yard, a hall and a ship, with ways from the hall to the ship and from the yard to the hall. -/
def homeward : City where
  places := [⟨"Yard", "A yard", false, .empty⟩, ⟨"Hall", "A hall", false, .empty⟩,
    ⟨"Ship", "The ship", true, .empty⟩]
  streets := [⟨1, .south, 2, true, ""⟩, ⟨0, .north, 1, true, ""⟩]

/-- A robot at the start of a game there. -/
def inTheYard : Engine where
  world := ⟨.fresh .standard, ⟨homeward, Atlas.firstPlace, .north, by decide⟩, .empty⟩
  history := []

theorem load_render_homeward : Atlas.load (Atlas.render homeward) = .ok ⟨homeward, 0⟩ := by
  rw [Atlas.load, Atlas.render, String.toList_ofList]
  decide +kernel

/-- The way to the ship, and a line more. -/
def wayHome : List (Option String) :=
  [some "MOVE", some "TURN LEFT", some "TURN LEFT", some "MOVE", some "RADAR"]

/-- What the player reads on the way home, with the four prompts in between. -/
def wayHomeText : String :=
  "\n".intercalate [
    "Yard",
    "A yard",
    "The place is empty. There are no objects to pick",
    "WALL·E is looking at direction NORTH",
    "      * My power is 100",
    "      * My recycled material is 0",
    "WALL·E> WALL·E says: Moving in direction NORTH",
    "Hall",
    "A hall",
    "The place is empty. There are no objects to pick",
    "      * My power is 95",
    "      * My recycled material is 0",
    "WALL·E> WALL·E is looking at direction WEST",
    "      * My power is 90",
    "      * My recycled material is 0",
    "WALL·E> WALL·E is looking at direction SOUTH",
    "      * My power is 85",
    "      * My recycled material is 0",
    "WALL·E> WALL·E says: Moving in direction SOUTH",
    "Ship",
    "The ship",
    "The place is empty. There are no objects to pick",
    "      * My power is 80",
    "      * My recycled material is 0",
    "WALL·E says: I am at my spaceship. Bye bye",
    ""]

/-- The robot says goodbye when it has come to the ship, and the last line is not read. -/
theorem wayHome_ends_with_goodbye :
    Atlas.load (Atlas.render homeward) = .ok ⟨homeward, 0⟩ ∧
      Engine.start homeward 0 .north .standard = .ok inTheYard ∧
      Sink.boundless.IsBoundless ∧ none ∉ wayHome ∧
      ∃ ending, (writingTo .boundless inTheYard .standard).play wayHome = ending ∧
        ending.IsWritten (writingTo .boundless inTheYard .standard) ∧
        ending.game.console.sink.taken = wayHomeText.toUTF8 ∧
        ending.result = .ok () ∧ ending.SaysGoodbye ∧
          ending.shown.getLast? = some (.event (.engineShutDown true)) := by
  have started : Engine.start homeward 0 .north .standard = .ok inTheYard := rfl
  have boundless : Sink.boundless.IsBoundless := ⟨rfl, rfl⟩
  have texts : none ∉ wayHome := by decide
  refine ⟨load_render_homeward, started, boundless, texts, _, rfl, ?_⟩
  rcases play_says_goodbye load_render_homeward .north .standard .boundless wayHome with
    ⟨engine, ending, alsoStarted, rfl, -, ends, closes⟩
  cases Except.ok.inj (started.symm.trans alsoStarted)
  have ⟨written, finishes⟩ := ends boundless texts
  have done := finishes nofun
  have script : ((writingTo .boundless inTheYard .standard).console.wording.script
      ((writingTo .boundless inTheYard .standard).play wayHome).shown) = wayHomeText := by
    decide +kernel
  have taken := written.taken
  rw [script] at taken
  refine ⟨written, taken.trans ByteArray.empty_append, done, ?_, by decide +kernel⟩
  rcases (closes done).2.1 with silent | said
  · exact absurd silent (by decide +kernel)
  · exact said

/-- A ship with nothing around it. -/
def berth : City where
  places := [⟨"Ship", "The ship", true, .empty⟩]
  streets := []

/-- A robot at the start of a game there. -/
def atTheBerth : Engine where
  world := ⟨.fresh .standard, ⟨berth, Atlas.firstPlace, .north, by decide⟩, .empty⟩
  history := []

/--
Neither the game that starts at a ship nor the one that gets to it by undoing a
move says goodbye, though both stop without a failure.
-/
theorem robots_at_ships_say_nothing :
    (Atlas.load (Atlas.render berth) = .ok ⟨berth, 0⟩ ∧
      ∃ engine ending, Engine.start berth 0 .north .standard = .ok engine ∧
        (writingTo .boundless engine .standard).play [] = ending ∧
        ending.result = .ok () ∧ ending.game.engine.isOver = true ∧ ending.IsSilent ∧
          ¬ending.SaysGoodbye) ∧
      Atlas.load (Atlas.render homeward) = .ok ⟨homeward, 0⟩ ∧
        ∃ engine ending, Engine.start homeward 0 .north .standard = .ok engine ∧
          (writingTo .boundless engine .standard).play [some "MOVE", some "UNDO"] = ending ∧
          ending.result = .ok () ∧ ending.game.engine.isOver = true ∧ ending.IsSilent ∧
            ¬ending.SaysGoodbye := by
  have load : Atlas.load (Atlas.render berth) = .ok ⟨berth, 0⟩ := by
    rw [Atlas.load, Atlas.render, String.toList_ofList]
    decide +kernel
  have began : ((writingTo .boundless atTheBerth .standard).play []).IsSilent := by
    decide +kernel
  have undone : ((writingTo .boundless inTheYard .standard).play
      [some "MOVE", some "UNDO"]).IsSilent := by
    decide +kernel
  constructor
  · exact ⟨load, atTheBerth, _, rfl, rfl, rfl, rfl, began, fun said => said.not_isSilent began⟩
  · exact ⟨load_render_homeward, inTheYard, _, rfl, rfl, rfl, rfl, undone,
      fun said => said.not_isSilent undone⟩

end Game

end Rover
