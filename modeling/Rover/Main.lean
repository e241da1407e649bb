import Rover.CommandLine

/-!
# The program

Plays at a terminal: every line is answered before the next one is read.
-/

namespace Rover

/-- The bytes of a file. -/
def readFile (path : String) : IO (Except ReadFailure (List UInt8)) := do
  try
    let bytes ← IO.FS.readBinFile path
    return .ok bytes.toList
  catch
    | .noFileOrDirectory .. => return .error .missing
    | other => return .error (.refused (toString other))

/-- The next line of input, if there is one and if it is a text. -/
def readLine (input : IO.FS.Stream) : IO (Option (Option String)) := do
  let mut bytes : ByteArray := .empty
  let mut isOpen := true
  while isOpen do
    let chunk ← input.read 1
    match chunk.toList with
    | [] => isOpen := false
    | byte :: _ =>
        bytes := bytes.push byte
        isOpen := byte != 10
  if bytes.isEmpty then
    return none
  else
    return some (Text.decode? (bytes.toList.filter (· != 10)))

/-- What a game has written since the last time, carried off to the terminal. -/
def carryOff (output : IO.FS.Stream) (game : Game) : IO Game := do
  output.write game.console.sink.taken
  output.flush
  return { game with console := { game.console with sink := game.console.sink.emptied } }

/-- The game from an ending of its last part on, and the exit code at its end. -/
partial def goOn (input output : IO.FS.Stream) (ending : Ending) : IO UInt32 := do
  let game ← carryOff output ending.game
  match ending.result with
  | .error error =>
      IO.eprintln error.message
      return error.code.toUInt32
  | .ok _ =>
      if game.engine.isOver then
        return 0
      else
        let asked := game.ask
        let game ← carryOff output asked.game
        goOn input output (game.answer (← readLine input))

/-- The program with some arguments. -/
def play (request : Request) : IO UInt32 := do
  let map ← readFile request.map
  let settings ←
    match request.settings? with
    | some path => readFile path
    | none => pure (.error .missing)
  let files (path : String) := if path = request.map then map else settings
  match request.game files .boundless with
  | .error error =>
      IO.eprintln error.message
      return error.code.toUInt32
  | .ok game => goOn (← IO.getStdin) (← IO.getStdout) game.opening

end Rover

/-- The program. -/
def main (arguments : List String) : IO UInt32 :=
  match Rover.CommandLine.read arguments with
  | .error error => do
      IO.eprintln error.message
      return 2
  | .ok .version => do
      IO.println (Rover.programName ++ " " ++ Rover.programVersion)
      return 0
  | .ok .help => do
      IO.print Rover.usageText
      return 0
  | .ok (.play request) => Rover.play request
