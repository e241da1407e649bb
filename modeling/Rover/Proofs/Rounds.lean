import Rover.Atlas.Printer
import Rover.Game
import Rover.Proofs.Margin

/-!
# Rounds of a game

A game goes from prompt to prompt.  What it asks its engine at a prompt is read
off the line that the player answers with, and it breaks down with a fault
exactly if the engine does.  So a game on a map meets a fault exactly if it
comes to a prompt at which the player's answer leaves the range of quantities.
-/

namespace Rover

theorem Ending.andThen_faults_iff {ending : Ending} {next : Game → Ending} {cause : Fault} :
    (ending.andThen next).result = .error (.fault cause) ↔
      ending.result = .error (.fault cause) ∨
        ending.result = .ok () ∧ (next ending.game).result = .error (.fault cause) := by
  unfold andThen
  cases came : ending.result with
  | error error => simp [came]
  | ok done => simp

theorem fresh_of_withParameters {kind : InstructionKind} {words : List (List Char)}
    {instruction : Instruction} (made : kind.withParameters words = some instruction) :
    instruction.fresh = instruction := by
  unfold InstructionKind.withParameters at made
  split at made <;> try cases made <;> try rfl
  split at made <;> cases made
  rfl

/-- An instruction that is read from a line remembers nothing. -/
theorem fresh_of_interpret {kinds : List InstructionKind} {line : String}
    {instruction : Instruction} (read : interpret kinds line = .ok instruction) :
    instruction.fresh = instruction := by
  unfold interpret at read
  split at read
  · rename_i found
    cases read
    rcases List.exists_of_findSome?_eq_some found with ⟨kind, -, parsed⟩
    unfold InstructionKind.parse InstructionKind.ofWords? at parsed
    split at parsed
    · cases parsed
    · split at parsed
      · exact fresh_of_withParameters parsed
      · cases parsed
  · cases read

namespace Game

/-! ## Calls -/

theorem check_result_ne_fault (game : Game) (cause : Fault) :
    game.check.1 ≠ .error (.fault cause) := by
  unfold check
  split <;> exact nofun

theorem checked_faults_iff {turn : Turn} {cause : Fault} :
    turn.checked.result = .error (.fault cause) ↔ turn.outcome = .error cause := by
  unfold Turn.checked
  cases came : turn.outcome with
  | error fault => simp
  | ok outcome => simpa using turn.game.check_result_ne_fault cause

theorem call_faults_iff {game : Game} {request : Engine.Call} {cause : Fault} :
    (game.call request).outcome = .error cause ↔
      ∃ events, game.engine.call request = .error ⟨cause, events⟩ := by
  unfold call
  cases answered : game.engine.call request with
  | error breakdown =>
      rcases breakdown with ⟨fault, told⟩
      simp
  | ok answer => simp

theorem engine_checked (turn : Turn) : turn.checked.game.engine = turn.game.engine := by
  unfold Turn.checked
  cases turn.outcome with
  | error fault => rfl
  | ok outcome =>
      show (turn.game.check).2.engine = turn.game.engine
      unfold check
      split <;> rfl

theorem engine_call_of_ok {game : Game} {request : Engine.Call} {answer : Answer}
    (answered : game.engine.call request = .ok answer) :
    (game.call request).game.engine = answer.engine := by
  unfold call
  rw [answered]
  rfl

/-! ## Prompts -/

theorem engine_ask (game : Game) : game.ask.game.engine = game.engine := by
  show ((game.present game.engine [.prompt game.prompt]).check).2.engine = game.engine
  unfold check
  split <;> rfl

theorem ask_result_ne_fault (game : Game) (cause : Fault) :
    game.ask.result ≠ .error (.fault cause) :=
  (game.present game.engine [.prompt game.prompt]).check_result_ne_fault cause

/-- What the player's answer to a prompt asks the engine, if it asks anything. -/
def requested? : Option (Option String) → Option Engine.Call
  | none => some (.execute .quit)
  | some none => none
  | some (some line) =>
      if asksUndo line then
        some .undo
      else
        (interpret InstructionKind.all line).toOption.map Engine.Call.execute

theorem requested?_isPlay {input : Option (Option String)} {request : Engine.Call}
    (requested : requested? input = some request) : request.IsPlay := by
  unfold requested? at requested
  split at requested
  · cases requested
    rfl
  · cases requested
  · rename_i line
    split at requested
    · cases requested
      trivial
    · cases read : interpret InstructionKind.all line with
      | error refusal =>
          rw [read] at requested
          cases requested
      | ok instruction =>
          rw [read] at requested
          cases requested
          exact fresh_of_interpret read

/-- The answer to a prompt is a call, or it leaves the engine alone without a fault. -/
theorem answer_cases (game : Game) (input : Option (Option String)) :
    (∃ request, requested? input = some request ∧
        game.answer input = (game.call request).checked) ∨
      requested? input = none ∧ (game.answer input).game.engine = game.engine ∧
        ∀ cause, (game.answer input).result ≠ .error (.fault cause) := by
  rcases input with _ | _ | line
  · exact Or.inl ⟨_, rfl, rfl⟩
  · exact Or.inr ⟨rfl, rfl, nofun⟩
  · by_cases undo : asksUndo line = true
    · have requested : requested? (some (some line)) = some .undo := if_pos undo
      have handled : game.handle line = game.call .undo := if_pos undo
      exact Or.inl ⟨.undo, requested, congrArg Turn.checked handled⟩
    · have requested : requested? (some (some line)) =
          (interpret InstructionKind.all line).toOption.map Engine.Call.execute := if_neg undo
      unfold answer handle
      dsimp only
      rw [if_neg undo, requested]
      cases interpret InstructionKind.all line with
      | ok instruction => exact Or.inl ⟨_, rfl, rfl⟩
      | error refusal =>
          refine Or.inr ⟨rfl, engine_checked _, ?_⟩
          intro cause faulty
          cases checked_faults_iff.mp faulty

theorem answer_faults_iff {game : Game} {input : Option (Option String)} {cause : Fault} :
    (game.answer input).result = .error (.fault cause) ↔
      ∃ request, requested? input = some request ∧
        ∃ events, game.engine.call request = .error ⟨cause, events⟩ := by
  rcases game.answer_cases input with ⟨request, requested, same⟩ | ⟨nothing, -, never⟩
  · rw [same, checked_faults_iff, call_faults_iff, requested]
    simp
  · constructor
    · exact fun faulty => absurd faulty (never cause)
    · rintro ⟨request, requested, -⟩
      cases nothing.symm.trans requested

/-! ## Rounds -/

/-- A game with some lines to come gets to a prompt with some lines still to come. -/
inductive Reaches : Game → List (Option String) → Game → List (Option String) → Prop
  | here (game : Game) (input : List (Option String)) : Reaches game input game input
  | later {game last : Game} {line : Option String} {rest left : List (Option String)}
      (going : game.engine.isOver = false) (asked : game.ask.result = .ok ())
      (answered : (game.ask.game.answer (some line)).result = .ok ())
      (onward : Reaches (game.ask.game.answer (some line)).game rest last left) :
      Reaches game (line :: rest) last left

/-- The player is asked for a line, and can be. -/
structure IsPrompting (game : Game) : Prop where
  going : game.engine.isOver = false
  asked : game.ask.result = .ok ()

theorem rounds_faults_iff {game : Game} {input : List (Option String)} {cause : Fault} :
    (game.rounds input).result = .error (.fault cause) ↔
      ∃ last left, game.Reaches input last left ∧ last.IsPrompting ∧
        (last.ask.game.answer left.head?).result = .error (.fault cause) := by
  induction input generalizing game with
  | nil =>
      rw [rounds]
      constructor
      · intro faulty
        split at faulty
        · cases faulty
        · rename_i going
          rcases Ending.andThen_faults_iff.mp faulty with asking | ⟨asked, answering⟩
          · exact absurd asking (game.ask_result_ne_fault cause)
          · exact ⟨game, [], .here game [], ⟨Bool.eq_false_iff.mpr going, asked⟩, answering⟩
      · rintro ⟨last, left, reached, prompting, answering⟩
        cases reached with
        | here =>
            rw [if_neg (Bool.eq_false_iff.mp prompting.going), Ending.andThen_faults_iff]
            exact Or.inr ⟨prompting.asked, answering⟩
  | cons line rest ih =>
      rw [rounds]
      constructor
      · intro faulty
        split at faulty
        · cases faulty
        · rename_i going
          have going := Bool.eq_false_iff.mpr going
          rcases Ending.andThen_faults_iff.mp faulty with asking | ⟨asked, answering⟩
          · exact absurd asking (game.ask_result_ne_fault cause)
          · rcases Ending.andThen_faults_iff.mp answering with now | ⟨answered, onward⟩
            · exact ⟨game, line :: rest, .here game _, ⟨going, asked⟩, now⟩
            · rcases ih.mp onward with ⟨last, left, reached, prompting, later⟩
              exact ⟨last, left, .later going asked answered reached, prompting, later⟩
      · rintro ⟨last, left, reached, prompting, answering⟩
        cases reached with
        | here =>
            rw [if_neg (Bool.eq_false_iff.mp prompting.going), Ending.andThen_faults_iff]
            refine Or.inr ⟨prompting.asked, ?_⟩
            exact Ending.andThen_faults_iff.mpr (Or.inl answering)
        | later going asked answered onward =>
            rw [if_neg (Bool.eq_false_iff.mp going), Ending.andThen_faults_iff]
            refine Or.inr ⟨asked, Ending.andThen_faults_iff.mpr (Or.inr ⟨answered, ?_⟩)⟩
            exact ih.mpr ⟨last, left, onward, prompting, answering⟩

/-- On the way to a prompt the engine is run, with a call for a line at most. -/
theorem Reaches.run {game last : Game} {input left : List (Option String)}
    (reached : game.Reaches input last left) :
    ∃ calls events, (∀ request ∈ calls, request.IsPlay) ∧
      calls.length + left.length ≤ input.length ∧
      game.engine.run calls = .ok (last.engine, events) := by
  induction reached with
  | here game input =>
      refine ⟨[], [], ?_, by simp, rfl⟩
      intro request member
      cases member
  | @later game last line rest left going asked answered onward ih =>
      rcases ih with ⟨calls, events, play, enough, ran⟩
      rcases game.ask.game.answer_cases (some line) with
        ⟨request, requested, same⟩ | ⟨-, same, -⟩
      · rw [same] at answered ran
        rw [engine_checked] at ran
        cases called : game.ask.game.engine.call request with
        | error breakdown =>
            have broken := call_faults_iff.mpr ⟨breakdown.events, called⟩
            cases answered.symm.trans (checked_faults_iff.mpr broken)
        | ok answer =>
            rw [engine_call_of_ok called] at ran
            rw [engine_ask] at called
            refine ⟨request :: calls, answer.events ++ events, ?_, ?_, ?_⟩
            · intro later member
              rcases List.mem_cons.mp member with rfl | onwards
              · exact requested?_isPlay requested
              · exact play later onwards
            · simp only [List.length_cons]
              omega
            · simp only [Engine.run, called, ran, bind, Except.bind, pure, Except.pure]
      · rw [same, engine_ask] at ran
        exact ⟨calls, events, play, by simp only [List.length_cons]; omega, ran⟩

/-! ## Games on maps -/

theorem opening_ne_fault (game : Game) (cause : Fault) :
    game.opening.result ≠ .error (.fault cause) := by
  intro faulty
  have started := checked_faults_iff.mp faulty
  rcases call_faults_iff.mp started with ⟨events, impossible⟩
  cases impossible

theorem engine_opening (game : Game) :
    game.opening.game.engine = game.engine.withRobot game.engine.world.robot.restart := by
  show ((game.call .initNavigation).game.call .start).checked.game.engine = _
  rw [engine_checked]
  rfl

/-- A game comes to a prompt, with some lines still to come. -/
def ComesTo (game : Game) (input : List (Option String)) (last : Game)
    (left : List (Option String)) : Prop :=
  game.opening.result = .ok () ∧ game.opening.game.Reaches input last left ∧ last.IsPrompting

theorem play_faults_iff {game : Game} {input : List (Option String)} {cause : Fault}
    (sound : game.engine.world.IsSound) :
    (game.play input).result = .error (.fault cause) ↔
      ∃ last left request, game.ComesTo input last left ∧
        requested? left.head? = some request ∧ last.engine.Overflows request cause := by
  have opened : game.opening.game.engine.world.IsSound := by
    rw [engine_opening]
    exact ⟨⟨sound.keyed.places, sound.keyed.inventory⟩, sound.ends⟩
  have soundAt : ∀ {last left}, game.opening.game.Reaches input last left →
      last.engine.world.IsSound := by
    intro last left reached
    rcases reached.run with ⟨calls, events, play, -, ran⟩
    exact Engine.isSound_of_run opened ran
  rw [play, Ending.andThen_faults_iff, or_iff_right (game.opening_ne_fault cause),
    rounds_faults_iff]
  constructor
  · rintro ⟨began, last, left, reached, prompting, answering⟩
    rcases answer_faults_iff.mp answering with ⟨request, requested, broken⟩
    rw [engine_ask] at broken
    have overflows := (Engine.call_breaks_iff (soundAt reached)).mp broken
    exact ⟨last, left, request, ⟨began, reached, prompting⟩, requested, overflows⟩
  · rintro ⟨last, left, request, ⟨began, reached, prompting⟩, requested, overflows⟩
    refine ⟨began, last, left, reached, prompting, answer_faults_iff.mpr ⟨request, requested, ?_⟩⟩
    rw [engine_ask]
    exact (Engine.call_breaks_iff (soundAt reached)).mpr overflows

/--
A game on a map meets a fault exactly if it comes to a prompt at which the
player's answer leaves the range of quantities.  No fault is about a place that
the city does not have.  And the game meets no fault at all if neither cost is the
least quantity and every item has a margin for all lines of input.
-/
theorem play_on_map_faults_iff {map : String} {loaded : Atlas.Loaded}
    (load : Atlas.load map = .ok loaded) (heading : Direction) (settings : Settings) (sink : Sink)
    (input : List (Option String)) :
    ∃ engine, Engine.start loaded.city loaded.start heading settings.engine = .ok engine ∧
      (∀ cause,
        ((writingTo sink engine settings).play input).result = .error (.fault cause) ↔
          ∃ last left request, (writingTo sink engine settings).ComesTo input last left ∧
            requested? left.head? = some request ∧ last.engine.Overflows request cause) ∧
      (∀ cause,
        ((writingTo sink engine settings).play input).result = .error (.fault cause) →
          cause = .negate ∨ cause = .subtract ∨ cause = .add) ∧
      (settings.engine.moveCost.value ≠ -2147483648 →
        settings.engine.turnCost.value ≠ -2147483648 →
        (∀ place ∈ loaded.city.places,
          place.items.All fun item => item.kind.HasMargin (input.length + 1)) →
        ∀ cause, ((writingTo sink engine settings).play input).result ≠
          .error (.fault cause)) := by
  rcases loaded with ⟨city, start⟩
  obtain ⟨read, rfl : start = Atlas.firstPlace⟩ := Atlas.load_eq_ok_iff.mp load
  have ⟨inSound, inhabited⟩ := Atlas.read_isSound read
  rcases Engine.exists_start inhabited heading settings.engine with
    ⟨navigation, started, rfl, -, -⟩
  let engine : Engine := { world := ⟨.fresh settings.engine, navigation, .empty⟩, history := [] }
  have sound : engine.world.IsSound := ⟨⟨inSound.keyed, Bag.isKeyed_empty⟩, inSound.ends⟩
  have faults := fun cause =>
    @play_faults_iff (writingTo sink engine settings) input cause sound
  refine ⟨engine, started, faults, ?_, ?_⟩
  · intro cause faulty
    rcases (faults cause).mp faulty with ⟨last, left, request, -, -, overflows⟩
    exact overflows.cases_fault
  · intro moveCost turnCost items cause faulty
    rcases (faults cause).mp faulty with ⟨last, left, request, ⟨-, reached, -⟩, -, overflows⟩
    have margin : (writingTo sink engine settings).opening.game.engine.HasMargin
        (input.length + 1) := by
      rw [engine_opening]
      constructor
      · exact ⟨⟨sound.keyed.places, sound.keyed.inventory⟩, sound.ends⟩
      · exact moveCost
      · exact turnCost
      · exact ⟨items, Bag.all_empty⟩
      · intro instruction member
        cases member
    rcases reached.run with ⟨calls, events, play, enough, ran⟩
    have enough : calls.length + (left.length + 1) ≤ input.length + 1 := by omega
    have left := (margin.lower_le enough).run play ran
    exact left.not_overflows request cause overflows

/-- A yard with nothing in it. -/
def bareYard : City where
  places := [⟨"Yard", "A yard", false, .empty⟩]
  streets := []

/-- Settings under which a turn costs the least quantity. -/
def leastTurnCost : Settings :=
  { Settings.standard with
    engine := { EngineSettings.standard with turnCost := ⟨-2147483648, by decide, by decide⟩ } }

/-- The first turn of such a game breaks it off. -/
theorem first_turn_in_bareYard_faults :
    Atlas.load (Atlas.render bareYard) = .ok ⟨bareYard, 0⟩ ∧
      ∃ engine, Engine.start bareYard 0 .north leastTurnCost.engine = .ok engine ∧
        ((writingTo .boundless engine leastTurnCost).play [some "TURN LEFT"]).result =
          .error (.fault .negate) := by
  have load : Atlas.load (Atlas.render bareYard) = .ok ⟨bareYard, 0⟩ := by
    rw [Atlas.load, Atlas.render, String.toList_ofList]
    decide +kernel
  rcases play_on_map_faults_iff load .north leastTurnCost .boundless [some "TURN LEFT"] with
    ⟨engine, started, faults, -, -⟩
  refine ⟨load, engine, started, (faults .negate).mpr ?_⟩
  cases started
  refine ⟨_, _, .execute (.turn .left), ⟨?_, .here _ _, ?_, ?_⟩, ?_, ?_⟩
  · rfl
  · rfl
  · rfl
  · decide +kernel
  · exact .execute (.turn rfl)

end Game

end Rover
