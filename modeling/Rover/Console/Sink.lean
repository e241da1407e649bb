/-!
# Sinks

Where the text of a game goes.  A sink may have room for a limited number of
bytes, and may refuse to flush after a number of times.  What still fits of a
text is taken; only the rest of it is refused.
-/

namespace Rover

/-- Why output failed. -/
inductive OutputError where
  | full
  | flushRefused
  deriving DecidableEq, Repr

/-- The words in which a failure of output is told. -/
def OutputError.message : OutputError → String
  | .full => "sink full"
  | .flushRefused => "flush refused"

/-- A sink, with the bytes that it has taken and, if they are limited, its room and flushes left. -/
structure Sink where
  taken : ByteArray
  room? : Option Nat
  flushes? : Option Nat

namespace Sink

/-- A sink that takes everything. -/
def boundless : Sink := ⟨.empty, none, none⟩

/-- The sink after a text, and why it did not take all of it. -/
def write (sink : Sink) (text : String) : Sink × Option OutputError :=
  let bytes := text.toUTF8
  match sink.room? with
  | none => ({ sink with taken := sink.taken ++ bytes }, none)
  | some room =>
      if bytes.size ≤ room then
        ({ sink with taken := sink.taken ++ bytes, room? := some (room - bytes.size) }, none)
      else
        ({ sink with taken := sink.taken ++ bytes.extract 0 room, room? := some 0 }, some .full)

/-- The sink after a flush, and why it refused. -/
def flush (sink : Sink) : Sink × Option OutputError :=
  match sink.flushes? with
  | none => (sink, none)
  | some 0 => (sink, some .flushRefused)
  | some (left + 1) => ({ sink with flushes? := some left }, none)

/-- The sink with everything that it has taken carried off. -/
def emptied (sink : Sink) : Sink :=
  { sink with taken := .empty }

end Sink

end Rover
