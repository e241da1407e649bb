import Rover.Proofs.Display
import Rover.Proofs.Rounds

/-!
# Games and their consoles

What a game has shown when it ends is what its console has taken, cue by cue and
nothing besides, whatever its sink is.

A sink that takes everything never stops a game: its console has no failure to
tell of, whatever it is shown.  If all input is text, such a game ends without a
failure or with a fault of its engine, and the sink has taken the words of all
that was shown.
-/

namespace Rover

namespace Ending

variable {ending : Ending} {next : Game → Ending}

theorem andThen_of_ok (done : ending.result = .ok ()) :
    ending.andThen next =
      { next ending.game with shown := ending.shown ++ (next ending.game).shown } := by
  rw [andThen, done]

theorem ok_of_andThen (done : (ending.andThen next).result = .ok ()) :
    ending.result = .ok () ∧ (next ending.game).result = .ok () := by
  cases came : ending.result with
  | error error =>
      rw [andThen, came] at done
      cases came.symm.trans done
  | ok done' =>
      rw [andThen_of_ok came] at done
      exact ⟨rfl, done⟩

end Ending

/-! ## What is shown -/

/-- The console of a game has taken what the game has shown to its end, and nothing else. -/
structure Ending.Displays (ending : Ending) (game : Game) : Prop where
  prompt : ending.game.prompt = game.prompt
  console : (game.console.takeAll ending.shown).Alike ending.game.console

theorem Ending.Displays.andThen {ending : Ending} {game : Game} {next : Game → Ending}
    (displays : ending.Displays game) (onwards : ∀ game : Game, (next game).Displays game) :
    (ending.andThen next).Displays game := by
  cases came : ending.result with
  | error error =>
      -- the game stops here, and nothing more is shown
      rw [Ending.andThen, came]
      exact displays
  | ok done =>
      have last := onwards ending.game
      have all : game.console.takeAll (ending.shown ++ (next ending.game).shown) =
          (game.console.takeAll ending.shown).takeAll (next ending.game).shown :=
        List.foldl_append
      rw [andThen_of_ok came]
      refine ⟨last.prompt.trans displays.prompt, ?_⟩
      exact all ▸ (displays.console.takeAll _).trans last.console

/-- A turn has shown the console its cues, and nothing else. -/
structure Turn.Displays (turn : Turn) (game : Game) : Prop where
  prompt : turn.game.prompt = game.prompt
  console : turn.game.console = game.console.takeAll turn.shown

namespace Game

variable {game : Game}

theorem prompt_check (game : Game) : game.check.2.prompt = game.prompt := by
  rw [check]
  split <;> rfl

theorem alike_check (game : Game) : game.console.Alike game.check.2.console := by
  rcases game with ⟨engine, ⟨wording, sink, _ | error⟩, prompt⟩ <;> exact ⟨rfl, rfl⟩

theorem displays_checked {turn : Turn} (displays : turn.Displays game) :
    turn.checked.Displays game := by
  rw [Turn.checked]
  cases turn.outcome with
  | error fault => exact ⟨displays.prompt, displays.console ▸ .refl _⟩
  | ok outcome =>
      refine ⟨turn.game.prompt_check.trans displays.prompt, ?_⟩
      exact displays.console ▸ turn.game.alike_check

theorem displays_call (game : Game) (request : Engine.Call) :
    (game.call request).Displays game := by
  rw [call]
  split <;> exact ⟨rfl, rfl⟩

theorem displays_handle (game : Game) (line : String) : (game.handle line).Displays game := by
  rw [handle]
  split
  · exact game.displays_call .undo
  · split
    · exact game.displays_call _
    · exact ⟨rfl, rfl⟩

theorem displays_ask (game : Game) : game.ask.Displays game :=
  let asked := game.present game.engine [.prompt game.prompt]
  ⟨asked.prompt_check, asked.alike_check⟩

theorem displays_answer (game : Game) (input : Option (Option String)) :
    (game.answer input).Displays game := by
  rcases input with _ | _ | line
  · exact displays_checked (game.displays_call (.execute .quit))
  · exact ⟨rfl, .refl _⟩
  · exact displays_checked (game.displays_handle line)

theorem displays_rounds (game : Game) (input : List (Option String)) :
    (game.rounds input).Displays game := by
  induction input generalizing game with
  | nil =>
      rw [rounds]
      split
      · exact ⟨rfl, .refl _⟩
      · exact game.displays_ask.andThen fun game => game.displays_answer none
  | cons line rest ih =>
      rw [rounds]
      split
      · exact ⟨rfl, .refl _⟩
      · exact game.displays_ask.andThen fun game =>
          (game.displays_answer (some line)).andThen ih

theorem displays_opening (game : Game) : game.opening.Displays game := by
  -- two turns on one console, which is looked at only after the second
  have first := game.displays_call .initNavigation
  have second := displays_checked ((game.call .initNavigation).game.displays_call .start)
  have all : game.console.takeAll game.opening.shown =
      (game.call .initNavigation).game.console.takeAll
        ((game.call .initNavigation).game.call .start).checked.shown := by
    rw [first.console]
    exact List.foldl_append
  refine ⟨second.prompt.trans first.prompt, ?_⟩
  rw [all]
  exact second.console

/-- All that a game has shown is what its console has taken. -/
theorem displays_play (game : Game) (input : List (Option String)) :
    (game.play input).Displays game :=
  game.displays_opening.andThen fun game => game.displays_rounds input

end Game

/-! ## Sinks that take everything -/

/-- A game has stopped for no failure, or for a fault of its engine. -/
structure Ending.IsServed (ending : Ending) : Prop where
  console : ending.game.console.IsReliable
  result : ending.result = .ok () ∨ ∃ cause, ending.result = .error (.fault cause)

theorem Ending.IsServed.andThen {ending : Ending} {next : Game → Ending}
    (served : ending.IsServed) (onwards : ∀ game : Game, game.console.IsReliable →
      (next game).IsServed) : (ending.andThen next).IsServed := by
  rcases served.result with done | ⟨cause, faulty⟩
  · have last := onwards ending.game served.console
    rw [andThen_of_ok done]
    exact ⟨last.console, last.result⟩
  · rw [Ending.andThen, faulty]
    exact ⟨served.console, Or.inr ⟨cause, faulty⟩⟩

namespace Game

variable {game : Game}

theorem check_of_isReliable (reliable : game.console.IsReliable) :
    game.check = (.ok (), game) := by
  rcases game with ⟨engine, ⟨wording, sink, error?⟩, prompt⟩
  cases reliable.error
  rfl

theorem isServed_checked {turn : Turn} (reliable : turn.game.console.IsReliable) :
    turn.checked.IsServed := by
  rw [Turn.checked]
  cases turn.outcome with
  | error fault => exact ⟨reliable, Or.inr ⟨fault, rfl⟩⟩
  | ok outcome =>
      dsimp only
      rw [check_of_isReliable reliable]
      exact ⟨reliable, Or.inl rfl⟩

theorem isReliable_call (reliable : game.console.IsReliable) (request : Engine.Call) :
    (game.call request).game.console.IsReliable := by
  rw [(game.displays_call request).console]
  exact reliable.takeAll _

theorem isReliable_handle (reliable : game.console.IsReliable) (line : String) :
    (game.handle line).game.console.IsReliable := by
  rw [(game.displays_handle line).console]
  exact reliable.takeAll _

theorem isServed_ask (reliable : game.console.IsReliable) : game.ask.IsServed := by
  have asked := reliable.takeAll [.prompt game.prompt]
  rw [ask]
  dsimp only
  rw [check_of_isReliable asked]
  exact ⟨asked, Or.inl rfl⟩

theorem isServed_answer (reliable : game.console.IsReliable) {input : Option (Option String)}
    (text : input ≠ some none) : (game.answer input).IsServed := by
  rcases input with _ | _ | line
  · exact isServed_checked (isReliable_call reliable (.execute .quit))
  · exact absurd rfl text
  · exact isServed_checked (isReliable_handle reliable line)

theorem isServed_rounds (reliable : game.console.IsReliable) {input : List (Option String)}
    (texts : none ∉ input) : (game.rounds input).IsServed := by
  induction input generalizing game with
  | nil =>
      rw [rounds]
      split
      · exact ⟨reliable, Or.inl rfl⟩
      · exact (isServed_ask reliable).andThen fun game reliable =>
          isServed_answer reliable (Option.some_ne_none none).symm
  | cons line rest ih =>
      rw [List.mem_cons, not_or] at texts
      rw [rounds]
      split
      · exact ⟨reliable, Or.inl rfl⟩
      · apply (isServed_ask reliable).andThen
        intro game reliable
        apply (isServed_answer reliable fun bare => texts.1 (Option.some.inj bare).symm).andThen
        intro game reliable
        exact ih reliable texts.2

theorem isServed_opening (reliable : game.console.IsReliable) : game.opening.IsServed := by
  have readied := isReliable_call reliable .initNavigation
  have served := isServed_checked (isReliable_call readied .start)
  exact ⟨served.console, served.result⟩

theorem isServed_play (reliable : game.console.IsReliable) {input : List (Option String)}
    (texts : none ∉ input) : (game.play input).IsServed := by
  apply (isServed_opening reliable).andThen
  intro game reliable
  exact isServed_rounds reliable texts

end Game

/--
The console of a game has been shown what the game has shown, and its sink has
taken just the words of that.
-/
structure Ending.IsWritten (ending : Ending) (game : Game) : Prop where
  console : ending.game.console = game.console.takeAll ending.shown
  taken : ending.game.console.sink.taken =
    game.console.sink.taken ++ (game.console.wording.script ending.shown).toUTF8

/-- A game on a sink that takes everything is written down as it is shown. -/
theorem Game.isWritten_play {game : Game} (reliable : game.console.IsReliable)
    {input : List (Option String)} (texts : none ∉ input) :
    (game.play input).IsWritten game := by
  have served := isServed_play reliable texts
  have console := (game.displays_play input).console.eq (reliable.takeAll _) served.console
  refine ⟨console, ?_⟩
  rw [console, reliable.takeAll_eq]
  rfl

end Rover
