import Rover.Console

/-!
# What a console writes

A console words every cue, and its sink is given the words cue by cue: the lines
of an event or of the help text, each with its separator, and a prompt as it
stands.  A sink that takes all that is written to it, and can be flushed at all
times, has taken just these words in the end, and its console has no failure to
tell of.

What a console makes of its sink does not depend on the failure that it keeps.
-/

namespace Rover

namespace Wording

/-- Some lines as they are written, each with its separator behind it. -/
def lines (wording : Wording) (texts : List String) : String :=
  String.join (texts.map fun text => text ++ wording.lineSeparator)

/-- A cue as it is written. -/
def text (wording : Wording) : Cue → String
  | .event event => wording.lines (wording.event event)
  | .prompt text => text
  | .help help => wording.lines (wording.help help)

/-- Some cues as they are written, one behind the other. -/
def script (wording : Wording) (cues : List Cue) : String :=
  String.join (cues.map wording.text)

theorem lines_cons (wording : Wording) (text : String) (rest : List String) :
    wording.lines (text :: rest) = text ++ wording.lineSeparator ++ wording.lines rest := by
  rw [lines, List.map_cons, String.join_cons]
  rfl

theorem script_cons (wording : Wording) (cue : Cue) (rest : List Cue) :
    wording.script (cue :: rest) = wording.text cue ++ wording.script rest := by
  rw [script, List.map_cons, String.join_cons]
  rfl

end Wording

/-! ## Sinks that take everything -/

/-- A sink that takes all that is written to it, and can be flushed at all times. -/
structure Sink.IsBoundless (sink : Sink) : Prop where
  room : sink.room? = none
  flushes : sink.flushes? = none

namespace Console

/-- A console over such a sink, with no failure to tell of. -/
structure IsReliable (console : Console) : Prop where
  sink : console.sink.IsBoundless
  error : console.error? = none

/-- A console whose sink has taken a text more. -/
def having (console : Console) (text : String) : Console :=
  { console with sink := { console.sink with taken := console.sink.taken ++ text.toUTF8 } }

theorem having_empty (console : Console) : console.having "" = console := by
  have same : console.sink.taken ++ "".toUTF8 = console.sink.taken := ByteArray.append_empty
  rw [having, same]

theorem having_append (console : Console) (first second : String) :
    console.having (first ++ second) = (console.having first).having second := by
  simp only [having, String.toUTF8_eq_toByteArray, String.toByteArray_append,
    ByteArray.append_assoc]

namespace IsReliable

variable {console : Console}

theorem having (reliable : console.IsReliable) (text : String) :
    (console.having text).IsReliable :=
  ⟨⟨reliable.sink.room, reliable.sink.flushes⟩, reliable.error⟩

theorem prompt_eq (reliable : console.IsReliable) (text : String) :
    console.prompt text = console.having text := by
  rcases console with ⟨wording, ⟨taken, room?, flushes?⟩, error?⟩
  rcases reliable with ⟨⟨rfl, rfl⟩, rfl⟩
  rfl

theorem line_eq (reliable : console.IsReliable) (text : String) :
    console.line text = console.having (text ++ console.wording.lineSeparator) := by
  rw [having_append]
  rcases console with ⟨wording, ⟨taken, room?, flushes?⟩, error?⟩
  rcases reliable with ⟨⟨rfl, rfl⟩, rfl⟩
  rfl

theorem lines_eq (reliable : console.IsReliable) (texts : List String) :
    texts.foldl Console.line console = console.having (console.wording.lines texts) := by
  induction texts generalizing console with
  | nil => exact console.having_empty.symm
  | cons text rest ih =>
      rw [List.foldl_cons, reliable.line_eq, ih (reliable.having _), Wording.lines_cons,
        console.having_append (text ++ console.wording.lineSeparator)]
      rfl

theorem take_eq (reliable : console.IsReliable) (cue : Cue) :
    console.take cue = console.having (console.wording.text cue) := by
  cases cue with
  | event event => exact reliable.lines_eq _
  | prompt text => exact reliable.prompt_eq text
  | help help => exact reliable.lines_eq _

/-- The sink takes the words of all cues, one after the other. -/
theorem takeAll_eq (reliable : console.IsReliable) (cues : List Cue) :
    console.takeAll cues = console.having (console.wording.script cues) := by
  induction cues generalizing console with
  | nil => exact console.having_empty.symm
  | cons cue rest ih =>
      have first : console.takeAll (cue :: rest) =
          (console.having (console.wording.text cue)).takeAll rest := by
        rw [← reliable.take_eq]
        rfl
      rw [first, ih (reliable.having _), Wording.script_cons, having_append]
      rfl

theorem takeAll (reliable : console.IsReliable) (cues : List Cue) :
    (console.takeAll cues).IsReliable := by
  rw [reliable.takeAll_eq]
  exact reliable.having _

end IsReliable

/-! ## Consoles that keep different failures -/

/-- Two consoles with one wording and one sink, whatever failures they keep. -/
structure Alike (console other : Console) : Prop where
  wording : other.wording = console.wording
  sink : other.sink = console.sink

namespace Alike

variable {console other third : Console}

theorem refl (console : Console) : console.Alike console := ⟨rfl, rfl⟩

theorem trans (first : console.Alike other) (second : other.Alike third) :
    console.Alike third :=
  ⟨second.wording.trans first.wording, second.sink.trans first.sink⟩

theorem prompt (alike : console.Alike other) (text : String) :
    (console.prompt text).Alike (other.prompt text) := by
  rw [Console.prompt, Console.prompt, alike.sink]
  split <;> exact ⟨alike.wording, rfl⟩

theorem line (alike : console.Alike other) (text : String) :
    (console.line text).Alike (other.line text) := by
  rw [Console.line, Console.line, alike.sink, alike.wording]
  split <;> exact ⟨alike.wording, rfl⟩

theorem lines (alike : console.Alike other) (texts : List String) :
    (texts.foldl Console.line console).Alike (texts.foldl Console.line other) := by
  induction texts generalizing console other with
  | nil => exact alike
  | cons text rest ih => exact ih (alike.line text)

theorem take (alike : console.Alike other) (cue : Cue) :
    (console.take cue).Alike (other.take cue) := by
  cases cue with
  | event event =>
      rw [Console.take, Console.take, alike.wording]
      exact alike.lines _
  | prompt text => exact alike.prompt text
  | help help =>
      rw [Console.take, Console.take, alike.wording]
      exact alike.lines _

theorem takeAll (alike : console.Alike other) (cues : List Cue) :
    (console.takeAll cues).Alike (other.takeAll cues) := by
  induction cues generalizing console other with
  | nil => exact alike
  | cons cue rest ih => exact ih (alike.take cue)

/-- Consoles without failures that are alike are the same. -/
theorem eq (alike : console.Alike other) (reliable : console.IsReliable)
    (alsoReliable : other.IsReliable) : other = console := by
  rcases console with ⟨wording, sink, error?⟩
  rcases other with ⟨otherWording, otherSink, otherError?⟩
  rcases alike with ⟨rfl, rfl⟩
  cases reliable.error
  cases alsoReliable.error
  rfl

end Alike

end Console

end Rover
