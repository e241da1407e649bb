import Rover.Console
import Rover.Engine
import Rover.Interpreter

/-!
# The game

A game is an engine whose events are shown on a console.  The player answers
each prompt with a line: a word for undoing, or an instruction.  The game goes
on until the run is over; when there are no more lines, the run is given up.

`Game.play` tells the game at its end, what it came to, and all that the
console was shown on the way.  A game that a fault breaks off has shown
whatever the engine told before the fault.
-/

namespace Rover

/-- Why a game broke off. -/
inductive GameError where
  | output (error : OutputError)
  /-- A line of input is no text. -/
  | inputNotText
  /-- The engine broke down. -/
  | fault (cause : Fault)
  deriving DecidableEq, Repr

/-- The words in which a broken game is told. -/
def GameError.message : GameError → String
  | .output error => error.message
  | .inputNotText => "stream did not contain valid UTF-8"
  | .fault cause => cause.message

/-- An engine and the console that shows its events. -/
structure Game where
  engine : Engine
  console : Console
  prompt : String

/--
The game after a call or a line, what that came to, and what the console was
shown.  If it came to a fault, the engine is the one from before.
-/
structure Turn where
  outcome : Except Fault Outcome
  game : Game
  shown : List Cue

/-- The game at its end, what it came to, and all that the console was shown. -/
structure Ending where
  game : Game
  result : Except GameError Unit
  shown : List Cue

/-- Whether a line asks to undo the last instruction. -/
def asksUndo (line : String) : Bool :=
  let word := Text.trim line.toList
  Text.isKeyword "UNDO" word || Text.isKeyword "DESHACER" word

namespace Game

/-- A game that shows an engine on a sink. -/
def writingTo (sink : Sink) (engine : Engine) (settings : Settings) : Game :=
  { engine, console := .writingTo sink settings, prompt := settings.prompt }

/-- The game after the console is shown some cues. -/
def present (game : Game) (engine : Engine) (shown : List Cue) : Game :=
  { game with engine, console := game.console.takeAll shown }

/-- The game after a call to its engine. -/
def call (game : Game) (request : Engine.Call) : Turn :=
  match game.engine.call request with
  | .error breakdown =>
      let shown := breakdown.events.map Cue.event
      { outcome := .error breakdown.fault, game := game.present game.engine shown, shown }
  | .ok answer =>
      let shown := answer.events.map Cue.event
      { outcome := .ok (answer.outcome?.getD .executed)
        game := game.present answer.engine shown
        shown }

/-- The game after a line of the player's. -/
def handle (game : Game) (line : String) : Turn :=
  if asksUndo line then
    game.call .undo
  else
    match interpret InstructionKind.all line with
    | .ok instruction => game.call (.execute instruction)
    | .error refusal =>
        let shown := [.event (.errorRaised refusal.message), .help refusal.help]
        { outcome := .ok .failed, game := game.present game.engine shown, shown }

/-- The game, unless its console has failed since it was last asked. -/
def check (game : Game) : Except GameError Unit × Game :=
  match game.console.askError with
  | (some error, console) => (.error (.output error), { game with console })
  | (none, console) => (.ok (), { game with console })

end Game

/-- What a turn makes of its game, once the console has been checked. -/
def Turn.checked (turn : Turn) : Ending :=
  match turn.outcome with
  | .error fault => { game := turn.game, result := .error (.fault fault), shown := turn.shown }
  | .ok _ =>
      let (result, game) := turn.game.check
      { game, result, shown := turn.shown }

namespace Game

/--
The game with its opening shown: where the robot is and how its counters stand.
Neither of its two calls can break down.
-/
def opening (game : Game) : Ending :=
  let first := game.call .initNavigation
  let second := (first.game.call .start).checked
  { second with shown := first.shown ++ second.shown }

/-- The player asked for a line. -/
def ask (game : Game) : Ending :=
  let shown := [.prompt game.prompt]
  let (result, game) := (game.present game.engine shown).check
  { game, result, shown }

/-- The player's answer carried out: a line, a line that is no text, or the end of input. -/
def answer (game : Game) (input : Option (Option String)) : Ending :=
  match input with
  | some none => { game, result := .error .inputNotText, shown := [] }
  | some (some line) => (game.handle line).checked
  | none => (game.call (.execute .quit)).checked

end Game

/-- An ending, unless the game goes on from there. -/
def Ending.andThen (ending : Ending) (next : Game → Ending) : Ending :=
  match ending.result with
  | .error _ => ending
  | .ok _ =>
      let last := next ending.game
      { last with shown := ending.shown ++ last.shown }

namespace Game

/-- The game played with some lines of input until the run is over. -/
def rounds (game : Game) (input : List (Option String)) : Ending :=
  if game.engine.isOver then
    { game, result := .ok (), shown := [] }
  else
    match input with
    | [] => game.ask.andThen fun game => game.answer none
    | line :: rest =>
        game.ask.andThen fun game =>
          (game.answer (some line)).andThen fun game => game.rounds rest

/-- The whole game: its opening, and rounds until the run is over. -/
def play (game : Game) (input : List (Option String)) : Ending :=
  game.opening.andThen fun game => game.rounds input

end Game

end Rover
