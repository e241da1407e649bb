import Rover.Atlas.Reader
import Rover.Game
import Rover.Settings.File

/-!
# The command line

What the arguments of the program ask for, and what the program does with them:
it reads the settings and the map, sets the robot on the first place looking
north, and plays the game with standard input.

Arguments are read from left to right.  A request for the version or for help
is met on the spot, unless an argument before it is wrong.
-/

namespace Rover

/-- The name of the program. -/
def programName : String := "robocity"

/-- The version of the program. -/
def programVersion : String := "0.1.0"

/-- What the program is asked to play. -/
structure Request where
  map : String
  interface : String
  settings? : Option String
  isVerbose : Bool
  deriving DecidableEq, Repr

/-- What the program is asked for. -/
inductive Command where
  | play (request : Request)
  | version
  | help
  deriving DecidableEq, Repr

/-- What is wrong with the arguments. -/
inductive UsageError where
  | unexpected (argument : String)
  | missingValue (option : String)
  | repeated (option : String)
  | emptyValue (option : String)
  | valueForFlag (option : String)
  | missingMap
  deriving DecidableEq, Repr

/-- The words in which it is told what is wrong with the arguments. -/
def UsageError.message : UsageError → String
  | .unexpected argument => "error: unexpected argument '" ++ argument ++ "' found"
  | .missingValue option => "error: a value is required for '" ++ option ++ "'"
  | .repeated option => "error: the argument '" ++ option ++ "' cannot be used multiple times"
  | .emptyValue option => "error: a value is required for '" ++ option ++ "' but none was supplied"
  | .valueForFlag option => "error: unexpected value for '" ++ option ++ "' found"
  | .missingMap => "error: the following required arguments were not provided: --map <MAP>"

namespace CommandLine

/-- The options that take a value. -/
inductive Setting where
  | map
  | interface
  | settings
  deriving DecidableEq, Repr

/-- The options that take none. -/
inductive Flag where
  | verbose
  | version
  | help
  deriving DecidableEq, Repr

/-- The long name of an option that takes a value. -/
def Setting.name : Setting → String
  | .map => "--map"
  | .interface => "--interface"
  | .settings => "--config"

/-- The long name of an option that takes none. -/
def Flag.name : Flag → String
  | .verbose => "--verbose"
  | .version => "--version"
  | .help => "--help"

/-- The option that a letter stands for. -/
def ofLetter? : Char → Option (Setting ⊕ Flag)
  | 'm' => some (.inl .map)
  | 'i' => some (.inl .interface)
  | 'c' => some (.inl .settings)
  | 'v' => some (.inr .verbose)
  | 'V' => some (.inr .version)
  | 'h' => some (.inr .help)
  | _ => none

/-- The option that a word stands for. -/
def ofWord? (word : String) : Option (Setting ⊕ Flag) :=
  match word with
  | "map" => some (.inl .map)
  | "interface" => some (.inl .interface)
  | "config" => some (.inl .settings)
  | "verbose" => some (.inr .verbose)
  | "version" => some (.inr .version)
  | "help" => some (.inr .help)
  | _ => none

/-- What the arguments so far have asked for. -/
structure Given where
  map? : Option String
  interface? : Option String
  settings? : Option String
  isVerbose : Bool
  deriving DecidableEq, Repr

namespace Given

/-- Nothing asked for yet. -/
def nothing : Given := ⟨none, none, none, false⟩

/-- The value given for an option so far. -/
def value? (given : Given) : Setting → Option String
  | .map => given.map?
  | .interface => given.interface?
  | .settings => given.settings?

/-- What is asked for with a value given for an option; only the interface may be empty. -/
def withValue (given : Given) (setting : Setting) (value : String) : Except UsageError Given :=
  if (given.value? setting).isSome then
    .error (.repeated setting.name)
  else
    match setting with
    | .interface => .ok { given with interface? := some value }
    | .map =>
        if value.isEmpty then .error (.emptyValue setting.name)
        else .ok { given with map? := some value }
    | .settings =>
        if value.isEmpty then .error (.emptyValue setting.name)
        else .ok { given with settings? := some value }

/-- The command that is asked for when all arguments have been read. -/
def command (given : Given) : Except UsageError Command :=
  match given.map? with
  | none => .error .missingMap
  | some map =>
      .ok (.play
        { map
          interface := given.interface?.getD "console"
          settings? := given.settings?
          isVerbose := given.isVerbose })

end Given

/-- What an argument comes to. -/
inductive Step where
  /-- The argument stands by itself. -/
  | next (given : Given)
  /-- The next argument is the value of an option. -/
  | needsValue (given : Given) (setting : Setting)
  /-- The program is asked for something else than a game. -/
  | stop (command : Command)

/-- What a flag comes to. -/
def flag (given : Given) : Flag → Except UsageError Step
  | .version => .ok (.stop .version)
  | .help => .ok (.stop .help)
  | .verbose =>
      if given.isVerbose then .error (.repeated Flag.verbose.name)
      else .ok (.next { given with isVerbose := true })

/-- What the letters after a single dash come to. -/
def letters (given : Given) : List Char → Except UsageError Step
  | [] => .ok (.next given)
  | letter :: rest =>
      match ofLetter? letter with
      | none => .error (.unexpected (String.ofList ['-', letter]))
      | some (.inl setting) =>
          match rest with
          | [] => .ok (.needsValue given setting)
          | '=' :: value => (given.withValue setting (String.ofList value)).map .next
          | value => (given.withValue setting (String.ofList value)).map .next
      | some (.inr other) => do
          match ← flag given other with
          | .next given => letters given rest
          | step => return step

/-- What the word after two dashes comes to, with the value that an equals sign gives it. -/
def word (given : Given) (name : List Char) (value? : Option (List Char)) :
    Except UsageError Step :=
  match ofWord? (String.ofList name), value? with
  | none, _ => .error (.unexpected (String.ofList ('-' :: '-' :: name)))
  | some (.inl setting), none => .ok (.needsValue given setting)
  | some (.inl setting), some value => (given.withValue setting (String.ofList value)).map .next
  | some (.inr other), none => flag given other
  | some (.inr other), some _ => .error (.valueForFlag other.name)

/-- What an argument comes to. -/
def argument (given : Given) (text : String) : Except UsageError Step :=
  match text.toList with
  | '-' :: '-' :: rest =>
      let name := rest.takeWhile (· != '=')
      match rest.dropWhile (· != '=') with
      | [] => word given name none
      | _ :: value => word given name (some value)
  | '-' :: letter :: rest => letters given (letter :: rest)
  | _ => .error (.unexpected text)

/-- Whether an argument can be the value of the option before it. -/
def isValue (text : String) : Bool :=
  match text.toList with
  | '-' :: _ :: _ => false
  | _ => true

/-- The command that some arguments ask for, after those that have been read. -/
def readFrom (given : Given) : List String → Except UsageError Command
  | [] => given.command
  | "--" :: rest =>
      match rest with
      | [] => given.command
      | extra :: _ => .error (.unexpected extra)
  | text :: rest => do
      match ← argument given text with
      | .stop command => return command
      | .next given => readFrom given rest
      | .needsValue given setting =>
          match rest with
          | [] => throw (.missingValue setting.name)
          | value :: rest =>
              if isValue value then
                let given ← given.withValue setting value
                readFrom given rest
              else
                throw (.missingValue setting.name)

/-- The command that some arguments ask for. -/
def read (arguments : List String) : Except UsageError Command :=
  readFrom .nothing arguments

end CommandLine

/-! ## Running the program -/

/-- The text that the program shows on request. -/
def usageText : String :=
  "Turn-based robot city simulation\n\nUsage: robocity [OPTIONS] --map <MAP>\n\nOptions:\n" ++
    "  -m, --map <MAP>              File with the description of the city\n" ++
    "  -i, --interface <INTERFACE>  The type of interface [default: console]\n" ++
    "  -c, --config <CONFIG>        YAML console configuration\n" ++
    "  -v, --verbose                Verbose output\n" ++
    "  -h, --help                   Print help\n" ++
    "  -V, --version                Print version\n"

/-- Why the program does not play. -/
inductive StartError where
  | usage (error : UsageError)
  | interface
  | settings (path : String) (error : SettingsError)
  | map (path : String) (error : Atlas.MapError)
  /-- The robot cannot be set on the first place. -/
  | fault (cause : Fault)
  deriving DecidableEq, Repr

namespace StartError

/-- The exit code of a program that does not play. -/
def code : StartError → Nat
  | .usage _ => 2
  | .interface => 3
  | .settings _ _ => 1
  | .map _ _ => 2
  | .fault _ => 101

/-- What the program says in place of playing. -/
def message : StartError → String
  | .usage error => error.message
  | .interface => "Wrong type of interface"
  | .settings path (.unreadable failure) =>
      (SettingsError.unreadable failure).message ++ ": " ++ path ++ ": " ++ failure.message
  | .settings path .malformed => SettingsError.malformed.message ++ ": " ++ path
  | .map path (.unreadable failure) =>
      "Error reading the map file: " ++ path ++ " (" ++ failure.message ++ ")"
  | .map _ error => "Incorrect format: " ++ error.message
  | .fault cause => cause.message

end StartError

/-- The files that a program can read, by their paths. -/
abbrev Files := String → Except ReadFailure (List UInt8)

/-- The game that a request asks for, with a sink for its output. -/
def Request.game (request : Request) (files : Files) (sink : Sink) :
    Except StartError Game :=
  if Text.isKeyword "console" request.interface.toList then
    match Settings.ofFile? (request.settings?.map files) with
    | .error error => .error (.settings (request.settings?.getD "") error)
    | .ok settings =>
        match Atlas.loadFile (files request.map) with
        | .error error => .error (.map request.map error)
        | .ok loaded =>
            match Engine.start loaded.city loaded.start .north settings.engine with
            | .error fault => .error (.fault fault)
            | .ok engine => .ok (Game.writingTo sink engine settings)
  else
    .error .interface

/-- The exit code of a program whose game has broken off. -/
def GameError.code : GameError → Nat
  | .output _ => 1
  | .inputNotText => 1
  | .fault _ => 101

/-- The exit code of a program, and what it has written. -/
structure Report where
  code : Nat
  output : ByteArray
  complaint : String

namespace Report

/-- A program that has written a text and done what it was asked. -/
def ofText (text : String) : Report := ⟨0, text.toUTF8, ""⟩

/-- A program that does not play. -/
def ofStartError (error : StartError) : Report :=
  ⟨error.code, .empty, error.message ++ "\n"⟩

/-- A program after its game. -/
def ofEnding (ending : Ending) : Report :=
  match ending.result with
  | .ok _ => ⟨0, ending.game.console.sink.taken, ""⟩
  | .error error => ⟨error.code, ending.game.console.sink.taken, error.message ++ "\n"⟩

end Report

/-- The whole program: its arguments, the files it can read and its input. -/
def runProgram (arguments : List String) (files : Files) (input : List UInt8) : Report :=
  match CommandLine.read arguments with
  | .error error => .ofStartError (.usage error)
  | .ok .version => .ofText (programName ++ " " ++ programVersion ++ "\n")
  | .ok .help => .ofText usageText
  | .ok (.play request) =>
      match request.game files .boundless with
      | .error error => .ofStartError error
      | .ok game => .ofEnding (game.play (Text.inputLines input))

end Rover
