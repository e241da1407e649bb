import Rover.Console.Sink
import Rover.Event
import Rover.Settings

/-!
# The console

Puts a game into words.  What the console is shown — an event, a prompt or the
help text — becomes lines of text, and the lines go to a sink.  The console
cannot answer those who show it something, so the first failure of the sink is
kept until somebody asks for it; later lines are tried all the same.
-/

namespace Rover

/-- Something that a console is shown. -/
inductive Cue where
  | event (event : Event)
  | prompt (text : String)
  | help (help : HelpText)
  deriving DecidableEq, Repr

namespace Cue

/-- Whether a cue asks the player for a line. -/
def isPrompt : Cue → Bool
  | .prompt _ => true
  | _ => false

end Cue

/-- The help on undoing, which is no instruction to the robot. -/
def undoUsage : String := "UNDO | DESHACER"

/-- How a console words things. -/
structure Wording where
  robotName : String
  itemIndent : String
  lineSeparator : String
  deriving DecidableEq, Repr

/-- The wording that some settings ask for. -/
def Settings.wording (settings : Settings) : Wording where
  robotName := settings.robotName
  itemIndent := settings.itemIndent
  lineSeparator := settings.lineSeparator

namespace Wording

/-- The robot says something. -/
def spoken (wording : Wording) (message : String) : String :=
  wording.robotName ++ " says: " ++ message

/-- The entries of a list, a line each. -/
def listing (wording : Wording) (entries : List String) : List String :=
  entries.map (wording.itemIndent ++ ·)

/-- A place and what lies there. -/
def place (wording : Wording) (view : PlaceView) : List String :=
  [view.name, view.description] ++
    if view.items.isEmpty then
      ["The place is empty. There are no objects to pick"]
    else
      "The place contains these objects:" :: wording.listing view.items

/-- The way the robot looks. -/
def looking (wording : Wording) (heading : Direction) : String :=
  wording.robotName ++ " is looking at direction " ++ heading.name

/-- The help text, with undoing at its end. -/
def help (wording : Wording) (text : HelpText) : List String :=
  text.header :: wording.listing (text.lines ++ [undoUsage])

/-- The lines that tell of an event. -/
def event (wording : Wording) : Event → List String
  | .headingChanged heading => [wording.looking heading]
  | .navigationInitialized view heading => wording.place view ++ [wording.looking heading]
  | .placeChanged view => "Place has changed" :: wording.place view
  | .placeScanned view => wording.place view
  | .robotArrived travel view =>
      wording.spoken ("Moving in direction " ++ travel.name) :: wording.place view
  | .helpRequested text => wording.help text
  | .engineShutDown true => [wording.spoken "I am at my spaceship. Bye bye"]
  | .engineShutDown false =>
      [wording.spoken "I run out of fuel. I cannot move. Shutting down..."]
  | .communicationEnded => [wording.spoken "I have communications problems. Bye bye"]
  | .robotSpeaks message => [wording.spoken message]
  | .errorRaised message => [wording.spoken message]
  | .stateUpdated fuel recycled =>
      ["      * My power is " ++ fuel.text, "      * My recycled material is " ++ recycled.text]
  | .inventoryChanged items =>
      if items.isEmpty then
        ["The inventory is empty"]
      else
        wording.spoken "I am carrying the following items" ::
          wording.listing (items.map Item.id)

end Wording

/-- A console, with the first failure of its sink that nobody has asked for yet. -/
structure Console where
  wording : Wording
  sink : Sink
  error? : Option OutputError

namespace Console

/-- A console over a sink. -/
def writingTo (sink : Sink) (settings : Settings) : Console :=
  ⟨settings.wording, sink, none⟩

/-- A console after a try at its sink. -/
def after (console : Console) (tried : Sink × Option OutputError) : Console :=
  { console with sink := tried.1, error? := console.error?.or tried.2 }

/-- A line and its separator written; a text that is refused takes its separator with it. -/
def line (console : Console) (text : String) : Console :=
  match console.sink.write text with
  | (sink, some error) => console.after (sink, some error)
  | (sink, none) => console.after (sink.write console.wording.lineSeparator)

/-- A prompt written and, if it was taken, the sink flushed. -/
def prompt (console : Console) (text : String) : Console :=
  match console.sink.write text with
  | (sink, some error) => console.after (sink, some error)
  | (sink, none) => console.after sink.flush

/-- A console after a cue. -/
def take (console : Console) : Cue → Console
  | .event event => (console.wording.event event).foldl line console
  | .prompt text => console.prompt text
  | .help help => (console.wording.help help).foldl line console

/-- A console after some cues, one after the other. -/
def takeAll (console : Console) (cues : List Cue) : Console :=
  cues.foldl take console

/-- The failure that was kept, and the console without it. -/
def askError (console : Console) : Option OutputError × Console :=
  (console.error?, { console with error? := none })

end Console

end Rover
