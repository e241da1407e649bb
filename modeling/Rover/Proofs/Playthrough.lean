import Rover.Proofs.Farewell

/-!
# The script of a game

A game does with the lines of its input what `handle` does with them, one after
the other, as long as the run is not over.  In between it does no more than to
ask for the next line, and if there is none it gives up the run.  So a game
always ends; the lines that it has taken tell how, and no others count.

What a turn comes to depends on the engine and not on the console, so the lines
may as well be handled without a word in between.
-/

namespace Rover

/-- Some cues of which none asks the player for a line. -/
def Promptless (cues : List Cue) : Prop :=
  ∀ cue ∈ cues, cue.isPrompt = false

theorem Promptless.append {first second : List Cue} (earlier : Promptless first)
    (later : Promptless second) : Promptless (first ++ second) :=
  List.forall_mem_append.mpr ⟨earlier, later⟩

theorem Promptless.filter_eq_nil {cues : List Cue} (promptless : Promptless cues) :
    cues.filter Cue.isPrompt = [] :=
  List.filter_eq_nil_iff.mpr fun cue member => by simp [promptless cue member]

theorem Promptless.filter_eq_self {cues : List Cue} (promptless : Promptless cues) :
    (cues.filter fun cue => !cue.isPrompt) = cues :=
  List.filter_eq_self.mpr fun cue member => by simp [promptless cue member]

theorem promptless_events (events : List Event) : Promptless (events.map Cue.event) := by
  intro cue member
  rcases List.mem_map.mp member with ⟨event, -, rfl⟩
  rfl

/--
An ending without a failure: the engine that is left, how often the player was
asked for a line and with which words, and what the console was shown besides.
-/
structure Ending.Tells (ending : Ending) (engine : Engine) (prompt : String) (prompts : Nat)
    (others : List Cue) : Prop where
  result : ending.result = .ok ()
  engine : ending.game.engine = engine
  prompts : ending.shown.filter Cue.isPrompt = List.replicate prompts (.prompt prompt)
  others : (ending.shown.filter fun cue => !cue.isPrompt) = others

namespace Ending.Tells

variable {ending : Ending} {engine : Engine} {prompt : String} {prompts : Nat} {others : List Cue}

theorem of_promptless {game : Game} {shown : List Cue} (promptless : Promptless shown)
    (prompt : String) :
    Ending.Tells { game, result := .ok (), shown } game.engine prompt 0 shown where
  result := rfl
  engine := rfl
  prompts := promptless.filter_eq_nil
  others := promptless.filter_eq_self

/-- Cues that ask for nothing, shown before the rest. -/
theorem after (tells : ending.Tells engine prompt prompts others) {shown : List Cue}
    (promptless : Promptless shown) :
    Ending.Tells { ending with shown := shown ++ ending.shown } engine prompt prompts
      (shown ++ others) where
  result := tells.result
  engine := tells.engine
  prompts := by
    rw [List.filter_append, promptless.filter_eq_nil, List.nil_append, tells.prompts]
  others := by
    rw [List.filter_append, promptless.filter_eq_self, tells.others]

/-- The prompt shown before the rest. -/
theorem asked (tells : ending.Tells engine prompt prompts others) :
    Ending.Tells { ending with shown := .prompt prompt :: ending.shown } engine prompt
      (prompts + 1) others where
  result := tells.result
  engine := tells.engine
  prompts := by
    rw [List.filter_cons_of_pos rfl, tells.prompts, List.replicate_succ]
  others := by
    rw [List.filter_cons_of_neg (by exact Bool.false_ne_true), tells.others]

end Ending.Tells

/-! ## Turns -/

/-- Two turns come to the same, whatever their consoles are. -/
structure Turn.Matches (turn other : Turn) : Prop where
  outcome : other.outcome = turn.outcome
  engine : other.game.engine = turn.game.engine
  shown : other.shown = turn.shown

theorem Turn.checked_of_ok {turn : Turn} {outcome : Outcome}
    (reliable : turn.game.console.IsReliable) (done : turn.outcome = .ok outcome) :
    turn.checked = { game := turn.game, result := .ok (), shown := turn.shown } := by
  rw [checked, done]
  dsimp only
  rw [Game.check_of_isReliable reliable]

theorem Engine.exists_execute_quit (engine : Engine) :
    ∃ answer, engine.execute .quit = .ok answer ∧ answer.outcome? = some .executed :=
  ⟨_, rfl, rfl⟩

namespace Game

variable {game twin : Game} {line : String} {lines : List String}

theorem call_matches (same : twin.engine = game.engine) (request : Engine.Call) :
    (game.call request).Matches (twin.call request) := by
  unfold call
  rw [same]
  cases game.engine.call request with
  | error breakdown => exact ⟨rfl, rfl, rfl⟩
  | ok answer => exact ⟨rfl, rfl, rfl⟩

theorem handle_matches (same : twin.engine = game.engine) (line : String) :
    (game.handle line).Matches (twin.handle line) := by
  unfold handle
  split
  · exact call_matches same .undo
  · split
    · exact call_matches same _
    · exact ⟨rfl, same, rfl⟩

theorem promptless_call (game : Game) (request : Engine.Call) :
    Promptless (game.call request).shown := by
  unfold call
  split
  · exact promptless_events _
  · exact promptless_events _

theorem promptless_handle (game : Game) (line : String) :
    Promptless (game.handle line).shown := by
  unfold handle
  split
  · exact game.promptless_call .undo
  · split
    · exact game.promptless_call _
    · intro cue member
      rcases List.mem_pair.mp member with rfl | rfl <;> rfl

/-- The prompt of a game stays when a line is asked for and handled. -/
theorem prompt_handled (game : Game) (line : String) :
    (game.ask.game.handle line).game.prompt = game.prompt :=
  (game.ask.game.displays_handle line).prompt.trans game.displays_ask.prompt

theorem isReliable_ask (reliable : game.console.IsReliable) :
    game.ask.game.console.IsReliable :=
  (isServed_ask reliable).console

theorem ask_of_isReliable (reliable : game.console.IsReliable) :
    game.ask.result = .ok () ∧ game.ask.shown = [.prompt game.prompt] := by
  refine ⟨?_, rfl⟩
  rcases (isServed_ask reliable).result with done | ⟨cause, faulty⟩
  · exact done
  · exact absurd faulty (game.ask_result_ne_fault cause)

theorem opening_of_isReliable (reliable : game.console.IsReliable) :
    game.opening.result = .ok () ∧ game.opening.game.console.IsReliable ∧
      Promptless game.opening.shown := by
  have served := isServed_opening reliable
  refine ⟨?_, served.console, ?_⟩
  · rcases served.result with done | ⟨cause, faulty⟩
    · exact done
    · exact absurd faulty (game.opening_ne_fault cause)
  · apply (game.promptless_call .initNavigation).append
    rw [shown_checked]
    exact promptless_call _ .start

/-! ## Lines handled in order -/

/--
The game after some lines of the player's, handled one after the other, and what
the console was shown of that.
-/
def handleAll (game : Game) : List String → Except Fault (Game × List Cue)
  | [] => return (game, [])
  | line :: rest => do
      let _ ← (game.handle line).outcome
      let (last, shown) ← (game.handle line).game.handleAll rest
      return (last, (game.handle line).shown ++ shown)

/-- The run is over when some number of lines has been handled, and not before. -/
structure EndsAfter (game : Game) (lines : List String) (count : Nat) (last : Game)
    (shown : List Cue) : Prop where
  within : count ≤ lines.length
  handled : game.handleAll (lines.take count) = .ok (last, shown)
  ended : last.engine.isOver = true
  first : ∀ fewer early before, fewer < count →
    game.handleAll (lines.take fewer) = .ok (early, before) → early.engine.isOver = false

/-- The run is not over whenever some of the lines have been handled. -/
def GoesOn (game : Game) (lines : List String) : Prop :=
  ∀ count early before,
    game.handleAll (lines.take count) = .ok (early, before) → early.engine.isOver = false

variable {count : Nat} {last : Game} {shown : List Cue}

theorem handleAll_cons {outcome : Outcome} (done : (game.handle line).outcome = .ok outcome)
    (handled : (game.handle line).game.handleAll lines = .ok (last, shown)) :
    game.handleAll (line :: lines) = .ok (last, (game.handle line).shown ++ shown) := by
  rw [handleAll, done]
  simp only [bind, Except.bind, handled]
  rfl

theorem exists_of_handleAll_cons (handled : game.handleAll (line :: lines) = .ok (last, shown)) :
    ∃ later, (game.handle line).game.handleAll lines = .ok (last, later) := by
  rcases bind_eq_ok_iff.mp handled with ⟨outcome, -, onward⟩
  rcases bind_eq_ok_iff.mp onward with ⟨⟨reached, later⟩, rest, told⟩
  cases told
  exact ⟨later, rest⟩

theorem endsAfter_of_isOver (lines : List String) (ended : game.engine.isOver = true) :
    game.EndsAfter lines 0 game [] :=
  ⟨Nat.zero_le _, rfl, ended, fun _ _ _ fewer => absurd fewer (Nat.not_lt_zero _)⟩

theorem EndsAfter.cons {outcome : Outcome} (going : game.engine.isOver = false)
    (done : (game.handle line).outcome = .ok outcome)
    (ends : (game.handle line).game.EndsAfter lines count last shown) :
    game.EndsAfter (line :: lines) (count + 1) last ((game.handle line).shown ++ shown) where
  within := Nat.succ_le_succ ends.within
  handled := handleAll_cons done ends.handled
  ended := ends.ended
  first := by
    intro fewer early before less handled
    cases fewer with
    | zero =>
        cases handled
        exact going
    | succ fewer =>
        rcases exists_of_handleAll_cons handled with ⟨later, rest⟩
        exact ends.first fewer early later (Nat.lt_of_succ_lt_succ less) rest

theorem goesOn_nil (going : game.engine.isOver = false) : game.GoesOn [] := by
  intro count early before handled
  rw [List.take_nil] at handled
  cases handled
  exact going

theorem GoesOn.cons (going : game.engine.isOver = false)
    (onward : (game.handle line).game.GoesOn lines) : game.GoesOn (line :: lines) := by
  intro count early before handled
  cases count with
  | zero =>
      cases handled
      exact going
  | succ count =>
      rcases exists_of_handleAll_cons handled with ⟨later, rest⟩
      exact onward count early later rest

/-- There is one moment only at which a run is over for the first time. -/
theorem EndsAfter.unique {otherCount : Nat} {otherLast : Game} {otherShown : List Cue}
    (ends : game.EndsAfter lines count last shown)
    (other : game.EndsAfter lines otherCount otherLast otherShown) :
    count = otherCount ∧ last = otherLast ∧ shown = otherShown := by
  rcases Nat.lt_trichotomy count otherCount with less | rfl | more
  · cases ends.ended.symm.trans (other.first count last shown less ends.handled)
  · cases ends.handled.symm.trans other.handled
    exact ⟨rfl, rfl, rfl⟩
  · cases other.ended.symm.trans (ends.first otherCount otherLast otherShown more other.handled)

/-! ## Rounds -/

/-- A round is a prompt, a line handled, and the rounds after it. -/
theorem rounds_cons_of_ok {outcome : Outcome} (reliable : game.console.IsReliable)
    (going : game.engine.isOver = false)
    (done : (game.ask.game.handle line).outcome = .ok outcome) (input : List (Option String)) :
    game.rounds (some line :: input) =
      { (game.ask.game.handle line).game.rounds input with
        shown := .prompt game.prompt :: ((game.ask.game.handle line).shown ++
          ((game.ask.game.handle line).game.rounds input).shown) } := by
  have ⟨asked, prompt⟩ := ask_of_isReliable reliable
  have handled : game.ask.game.answer (some (some line)) =
      { game := (game.ask.game.handle line).game
        result := .ok ()
        shown := (game.ask.game.handle line).shown } :=
    Turn.checked_of_ok (isReliable_handle (isReliable_ask reliable) line) done
  rw [rounds, if_neg (Bool.eq_false_iff.mp going), Ending.andThen_of_ok asked, handled,
    Ending.andThen_of_ok rfl, prompt]
  rfl

/-- Without another line the run is given up. -/
theorem rounds_nil_tells (reliable : game.console.IsReliable)
    (going : game.engine.isOver = false) {answer : Answer}
    (quit : game.engine.execute .quit = .ok answer) :
    (game.rounds []).Tells answer.engine game.prompt 1 (answer.events.map Cue.event) := by
  have ⟨asked, prompt⟩ := ask_of_isReliable reliable
  have answered : game.ask.game.engine.call (.execute .quit) = .ok answer := by
    rw [engine_ask]
    exact quit
  have turned : game.ask.game.call (.execute .quit) =
      { outcome := .ok (answer.outcome?.getD .executed)
        game := game.ask.game.present answer.engine (answer.events.map Cue.event)
        shown := answer.events.map Cue.event } := by
    rw [call, answered]
  have handled : game.ask.game.answer none =
      { game := game.ask.game.present answer.engine (answer.events.map Cue.event)
        result := .ok ()
        shown := answer.events.map Cue.event } := by
    show (game.ask.game.call (.execute .quit)).checked = _
    rw [turned]
    exact Turn.checked_of_ok ((isReliable_ask reliable).takeAll _) rfl
  rw [rounds, if_neg (Bool.eq_false_iff.mp going), Ending.andThen_of_ok asked, handled, prompt]
  exact (Ending.Tells.of_promptless (promptless_events _) game.prompt).asked

/-- A game that is over already takes no line and shows nothing. -/
theorem rounds_tells_of_isOver (input : List (Option String)) (ended : game.engine.isOver = true) :
    (game.rounds input).Tells game.engine game.prompt 0 [] := by
  rw [rounds_of_isOver ended]
  exact .of_promptless (List.forall_mem_nil _) game.prompt

/--
The rounds of a game are the lines that its twin handles until the run is over,
whatever comes after these lines.
-/
def Settles (game twin : Game) (lines : List String) : Prop :=
  ∃ count last shown, twin.EndsAfter lines count last shown ∧
    (game.rounds (lines.map some)).Tells last.engine game.prompt count shown ∧
    ∀ text, game.rounds ((lines.take count).map some ++ text) = game.rounds (lines.map some)

/-- The rounds of a game are all lines that its twin handles, and then the run given up. -/
def GivesUp (game twin : Game) (lines : List String) : Prop :=
  twin.GoesOn lines ∧ ∃ last shown answer, twin.handleAll lines = .ok (last, shown) ∧
    last.engine.execute .quit = .ok answer ∧
    (game.rounds (lines.map some)).Tells answer.engine game.prompt (lines.length + 1)
      (shown ++ answer.events.map Cue.event)

theorem settles_of_isOver (same : twin.engine = game.engine) (ended : game.engine.isOver = true)
    (lines : List String) : game.Settles twin lines := by
  refine ⟨0, twin, [], endsAfter_of_isOver lines (same ▸ ended), ?_, fun text => ?_⟩
  · exact same ▸ rounds_tells_of_isOver _ ended
  · rw [rounds_of_isOver ended, rounds_of_isOver ended]

theorem givesUp_nil (reliable : game.console.IsReliable) (same : twin.engine = game.engine)
    (going : game.engine.isOver = false) : game.GivesUp twin [] := by
  rcases twin.engine.exists_execute_quit with ⟨answer, quit, -⟩
  refine ⟨goesOn_nil (same ▸ going), twin, [], answer, rfl, quit, ?_⟩
  exact rounds_nil_tells reliable going (same ▸ quit)

section

variable (reliable : game.console.IsReliable) (same : twin.engine = game.engine)
  (going : game.engine.isOver = false) {outcome : Outcome}
  (came : (game.ask.game.handle line).outcome = .ok outcome)
include reliable same going came

/-- A line that is handled before the rounds settle. -/
theorem Settles.cons
    (later : (game.ask.game.handle line).game.Settles (twin.handle line).game lines) :
    game.Settles twin (line :: lines) := by
  -- the turn of the twin is the turn of the game, which has shown a prompt before it
  have twinned := handle_matches (same.trans game.engine_ask.symm) line
  have turned := rounds_cons_of_ok reliable going came
  rcases later with ⟨count, last, shown, ends, tells, spare⟩
  rw [game.prompt_handled line] at tells
  have endsLater := ends.cons (same ▸ going) (twinned.outcome.trans came)
  refine ⟨count + 1, last, _, endsLater, ?_, fun text => ?_⟩
  · rw [List.map_cons, turned, twinned.shown]
    exact (tells.after (promptless_handle _ line)).asked
  · rw [List.take_succ_cons, List.map_cons, List.cons_append, turned, spare, List.map_cons,
      turned]

/-- A line that is handled before the run is given up. -/
theorem GivesUp.cons
    (later : (game.ask.game.handle line).game.GivesUp (twin.handle line).game lines) :
    game.GivesUp twin (line :: lines) := by
  have twinned := handle_matches (same.trans game.engine_ask.symm) line
  rcases later with ⟨onward, last, shown, answer, handled, quit, tells⟩
  rw [game.prompt_handled line] at tells
  have handledAll := handleAll_cons (twinned.outcome.trans came) handled
  refine ⟨onward.cons (same ▸ going), last, _, answer, handledAll, quit, ?_⟩
  rw [List.map_cons, rounds_cons_of_ok reliable going came, twinned.shown, List.append_assoc]
  exact (tells.after (promptless_handle _ line)).asked

end

/--
A game handles its lines until the run is over, or all of them and then it gives
up the run.
-/
theorem settles_or_givesUp (reliable : game.console.IsReliable)
    (same : twin.engine = game.engine)
    (faultless : ∀ cause, (game.rounds (lines.map some)).result ≠ .error (.fault cause)) :
    game.Settles twin lines ∨ game.GivesUp twin lines := by
  induction lines generalizing game twin with
  | nil =>
      cases going : game.engine.isOver with
      | true => exact Or.inl (settles_of_isOver same going [])
      | false => exact Or.inr (givesUp_nil reliable same going)
  | cons line rest ih =>
      cases going : game.engine.isOver with
      | true => exact Or.inl (settles_of_isOver same going (line :: rest))
      | false =>
          cases came : (game.ask.game.handle line).outcome with
          | error cause =>
              have broken := rounds_faults_iff.mpr ⟨game, (line :: rest).map some,
                .here game _, ⟨going, (ask_of_isReliable reliable).1⟩, checked_faults_iff.mpr came⟩
              exact absurd broken (faultless cause)
          | ok outcome =>
              have twinned := handle_matches (same.trans game.engine_ask.symm) line
              have onward := isReliable_handle (isReliable_ask reliable) line
              rw [List.map_cons, rounds_cons_of_ok reliable going came] at faultless
              rcases ih onward twinned.engine faultless with settled | givenUp
              · exact Or.inl (settled.cons reliable same going came)
              · exact Or.inr (givenUp.cons reliable same going came)

theorem play_of_isReliable (reliable : game.console.IsReliable) (input : List (Option String)) :
    game.play input =
      { game.opening.game.rounds input with
        shown := game.opening.shown ++ (game.opening.game.rounds input).shown } :=
  Ending.andThen_of_ok (opening_of_isReliable reliable).1

/--
A game that meets no fault, with text for input and a sink that takes everything,
ends without a failure, and its run is over.  The sink has taken the words of the
prompts and of all that was shown besides, in this order, and nothing else.

If the run is over after the opening, the game is the opening.  If it is over for
the first time when some lines have been handled, the game is these lines handled
and as many prompts, whatever comes after them.  If it is never over, the game is
all lines handled and then the run given up, with one more prompt.
-/
theorem play_handles_lines (reliable : game.console.IsReliable)
    (faultless : ∀ cause, (game.play (lines.map some)).result ≠ .error (.fault cause)) :
    (game.play (lines.map some)).result = .ok () ∧
    (game.play (lines.map some)).game.engine.isOver = true ∧
    (game.play (lines.map some)).IsWritten game ∧
    game.opening.Tells game.opening.game.engine game.prompt 0 game.opening.shown ∧
    (game.opening.game.engine.isOver = true → ∀ input, game.play input = game.opening) ∧
    (∀ count last shown, game.opening.game.EndsAfter lines count last shown →
      (game.play (lines.map some)).Tells last.engine game.prompt count
        (game.opening.shown ++ shown) ∧
      ∀ text, game.play ((lines.take count).map some ++ text) = game.play (lines.map some)) ∧
    ((∀ count last shown, ¬ game.opening.game.EndsAfter lines count last shown) →
      ∃ last shown answer, game.opening.game.handleAll lines = .ok (last, shown) ∧
        last.engine.execute .quit = .ok answer ∧ answer.outcome? = some .executed ∧
        (game.play (lines.map some)).Tells answer.engine game.prompt (lines.length + 1)
          (game.opening.shown ++ (shown ++ answer.events.map Cue.event))) := by
  have ⟨began, stillReliable, promptless⟩ := opening_of_isReliable reliable
  have samePrompt := game.displays_opening.prompt
  have opened : game.opening.Tells game.opening.game.engine game.prompt 0 game.opening.shown :=
    ⟨began, rfl, promptless.filter_eq_nil, promptless.filter_eq_self⟩
  have atOnce : game.opening.game.engine.isOver = true →
      ∀ input, game.play input = game.opening := by
    intro ended input
    exact andThen_rounds_of_isOver began ended
  have written : (game.play (lines.map some)).IsWritten game :=
    isWritten_play reliable (by simp)
  rw [play_of_isReliable reliable] at faultless written ⊢
  rcases settles_or_givesUp stillReliable rfl faultless with
    ⟨count, last, shown, ends, tells, spare⟩ |
    ⟨onward, last, shown, answer, handled, quit, tells⟩
  · rw [samePrompt] at tells
    refine ⟨tells.result, tells.engine ▸ ends.ended, written, opened, atOnce, ?_,
      fun never => ?_⟩
    · intro otherCount otherLast otherShown other
      rcases ends.unique other with ⟨rfl, rfl, rfl⟩
      refine ⟨tells.after promptless, fun text => ?_⟩
      rw [play_of_isReliable reliable, spare]
    · exact absurd ends (never count last shown)
  · rw [samePrompt] at tells
    refine ⟨tells.result, ?_, written, opened, atOnce, ?_, fun _ => ?_⟩
    · exact tells.engine ▸ Engine.isOver_of_quit quit
    · intro count early before ends
      cases ends.ended.symm.trans (onward count early before ends.handled)
    · refine ⟨last, shown, answer, handled, quit, ?_, tells.after promptless⟩
      rcases last.engine.exists_execute_quit with ⟨same, alsoQuit, executed⟩
      cases quit.symm.trans alsoQuit
      exact executed

/-- The game in the yard. -/
def yardGame : Game :=
  writingTo .boundless inTheYard .standard

/-- The way home, and a line that nobody reads. -/
def wayHomeLines : List String :=
  ["MOVE", "TURN LEFT", "TURN LEFT", "MOVE", "RADAR"]

/-- The four lines of the way home are the game, and the fifth is not read. -/
theorem wayHome_is_four_lines :
    yardGame.console.IsReliable ∧
      (∀ cause, (yardGame.play (wayHomeLines.map some)).result ≠ .error (.fault cause)) ∧
      (yardGame.play (wayHomeLines.map some)).game.console.sink.taken = wayHomeText.toUTF8 ∧
      ∃ last shown, yardGame.opening.game.EndsAfter wayHomeLines 4 last shown ∧
        (yardGame.play (wayHomeLines.map some)).Tells last.engine yardGame.prompt 4
          (yardGame.opening.shown ++ shown) ∧
        yardGame.play ((wayHomeLines.take 4).map some ++ [none]) =
          yardGame.play (wayHomeLines.map some) := by
  have reliable : yardGame.console.IsReliable := ⟨⟨rfl, rfl⟩, rfl⟩
  have done : (yardGame.play (wayHomeLines.map some)).result = .ok () := by
    decide +kernel
  have faultless : ∀ cause,
      (yardGame.play (wayHomeLines.map some)).result ≠ .error (.fault cause) := by
    rw [done]
    exact nofun
  have going : ∀ fewer < 4, (yardGame.opening.game.handleAll (wayHomeLines.take fewer)).map
      (fun reached => reached.1.engine.isOver) = .ok false := by
    decide +kernel
  have ended : (yardGame.opening.game.handleAll (wayHomeLines.take 4)).map
      (fun reached => reached.1.engine.isOver) = .ok true := by
    decide +kernel
  have script : yardGame.console.wording.script
      (yardGame.play (wayHomeLines.map some)).shown = wayHomeText := by
    decide +kernel
  have written := (play_handles_lines reliable faultless).2.2.1.taken
  rw [script] at written
  refine ⟨reliable, faultless, written.trans ByteArray.empty_append, ?_⟩
  cases handled : yardGame.opening.game.handleAll (wayHomeLines.take 4) with
  | error cause =>
      rw [handled] at ended
      cases ended
  | ok reached =>
      rw [handled] at ended
      have ends : yardGame.opening.game.EndsAfter wayHomeLines 4 reached.1 reached.2 := by
        refine ⟨by decide, handled, Except.ok.inj ended, fun fewer early before less reaches => ?_⟩
        have still := going fewer less
        rw [reaches] at still
        exact Except.ok.inj still
      have ⟨tells, spare⟩ :=
        (play_handles_lines reliable faultless).2.2.2.2.2.1 4 reached.1 reached.2 ends
      exact ⟨reached.1, reached.2, ends, tells, spare [none]⟩

end Game

end Rover
