import Rover.Yaml.Scalar

/-!
# The layout of a YAML text

Cuts a text into tokens.  Block collections are shown by indentation alone: one
begins where an entry or a key stands further in than the collection around it,
and ends where something stands further out.

A key is told by the colon after it, so whatever may be a key is remembered
with its place among the tokens until a colon comes or can no longer come.  A
key must fit into one line and 1024 bytes.
-/

namespace Rover.Yaml

/-- Something that a colon would make a key. -/
structure KeyCandidate where
  /-- The number of tokens before it. -/
  position : Nat
  mark : Mark
  /-- Whether it can be nothing but a key. -/
  isRequired : Bool
  deriving DecidableEq, Repr

/-- The tokens so far, and what the rest of the text depends on. -/
structure Layout where
  tokens : List Token
  rest : List Char
  mark : Mark
  /-- The columns of the block collections around, innermost first. -/
  indents : List Nat
  candidate? : Option KeyCandidate
  /-- The candidates in the collections around a flow collection, innermost first. -/
  outer : List (Option KeyCandidate)
  /-- Whether a key may begin here. -/
  mayBeginKey : Bool

namespace Layout

/-- The layout before a text. -/
def ofText (text : List Char) : Layout :=
  { tokens := [], rest := text, mark := ⟨0, 0, 0⟩, indents := [], candidate? := none,
    outer := [], mayBeginKey := true }

/-- Whether the text goes on inside a flow collection. -/
def inFlow (layout : Layout) : Bool :=
  !layout.outer.isEmpty

/-- A token added at the end. -/
def push (layout : Layout) (token : Token) : Layout :=
  { layout with tokens := layout.tokens ++ [token] }

/-- Some ASCII characters of the line passed over. -/
def skip (layout : Layout) (count : Nat) : Layout :=
  { layout with rest := layout.rest.drop count, mark := layout.mark.skip count }

/--
Whether a key may begin after some blanks and comments, where that is, and the
text there.  A byte order mark at the beginning of a line is a blank.
-/
def pastGap (inFlow : Bool) : Bool → Bool → Mark → List Char → Bool × Mark × List Char
  | mayBeginKey, _, mark, [] => (mayBeginKey, mark, [])
  | mayBeginKey, inComment, mark, character :: rest =>
      if isBreak character then
        pastGap inFlow (mayBeginKey || !inFlow) false mark.newline rest
      else if inComment || character == ' ' ||
          (character == '\t' && (inFlow || !mayBeginKey)) ||
          (mark.column == 0 && character.toNat == 0xFEFF) then
        pastGap inFlow mayBeginKey inComment (mark.next character) rest
      else if character == '#' then
        pastGap inFlow mayBeginKey true (mark.next character) rest
      else
        (mayBeginKey, mark, character :: rest)

/-- Blanks and comments passed over. -/
def skipGap (layout : Layout) : Layout :=
  let (mayBeginKey, mark, rest) :=
    pastGap layout.inFlow layout.mayBeginKey false layout.mark layout.rest
  { layout with mayBeginKey, mark, rest }

/-! ## Candidates for keys -/

/-- A candidate given up, unless it can be nothing but a key. -/
def giveUp? : Option KeyCandidate → Option (Option KeyCandidate)
  | some candidate => if candidate.isRequired then none else some none
  | none => some none

/-- A candidate, given up if its key would be too long by now. -/
def refresh? (mark : Mark) : Option KeyCandidate → Option (Option KeyCandidate)
  | some candidate =>
      if candidate.mark.line < mark.line || candidate.mark.index + 1024 < mark.index then
        giveUp? (some candidate)
      else
        some (some candidate)
  | none => some none

/-- The candidates whose keys would be too long by now given up. -/
def refreshed? (layout : Layout) : Option Layout := do
  let candidate? ← refresh? layout.mark layout.candidate?
  let outer ← layout.outer.mapM (refresh? layout.mark)
  some { layout with candidate?, outer }

/-- The candidate of this collection given up. -/
def withoutCandidate? (layout : Layout) : Option Layout := do
  let candidate? ← giveUp? layout.candidate?
  some { layout with candidate? }

/-- What begins here remembered as a candidate, if a key may begin here. -/
def withCandidate? (layout : Layout) : Option Layout :=
  if layout.mayBeginKey then do
    let layout ← layout.withoutCandidate?
    some
      { layout with
        candidate? := some
          { position := layout.tokens.length
            mark := layout.mark
            isRequired := !layout.inFlow && layout.indents.head? == some layout.mark.column } }
  else
    some layout

/-! ## Indentation -/

/-- A block collection begun at a column that lies further in, before a number of tokens. -/
def indent (layout : Layout) (column position : Nat) (token : Token) : Layout :=
  if layout.inFlow || layout.indents.head?.any (column ≤ ·) then
    layout
  else
    { layout with
      indents := column :: layout.indents
      tokens := layout.tokens.insertIdx position token }

/-- The block collections ended that lie further in than a test allows. -/
def dedent (layout : Layout) (isFurtherIn : Nat → Bool) : Layout :=
  if layout.inFlow then
    layout
  else
    { layout with
      tokens :=
        layout.tokens ++ (layout.indents.takeWhile isFurtherIn).map fun _ => Token.blockEnd
      indents := layout.indents.dropWhile isFurtherIn }

/-! ## Tokens -/

/-- A line that separates documents. -/
def separator? (layout : Layout) (token : Token) : Option Layout := do
  let layout ← (layout.dedent fun _ => true).withoutCandidate?
  some ({ layout with mayBeginKey := false }.skip 3 |>.push token)

/-- The beginning of a flow collection. -/
def openFlow? (layout : Layout) (token : Token) : Option Layout := do
  let layout ← layout.withCandidate?
  some
    ({ layout with
        outer := layout.candidate? :: layout.outer
        candidate? := none
        mayBeginKey := true }.skip 1 |>.push token)

/-- The end of a flow collection, which may be written where none is open. -/
def closeFlow? (layout : Layout) (token : Token) : Option Layout := do
  let layout ← layout.withoutCandidate?
  let layout := { layout with mayBeginKey := false }.skip 1 |>.push token
  match layout.outer with
  | [] => some layout
  | candidate? :: outer => some { layout with candidate?, outer }

/-- The comma between the entries of a flow collection. -/
def flowEntry? (layout : Layout) : Option Layout := do
  let layout ← layout.withoutCandidate?
  some ({ layout with mayBeginKey := true }.skip 1 |>.push .flowEntry)

/-- The dash before an entry of a block sequence. -/
def blockEntry? (layout : Layout) : Option Layout :=
  if layout.inFlow || layout.mayBeginKey then do
    let layout ←
      (layout.indent layout.mark.column layout.tokens.length .blockSequence).withoutCandidate?
    some ({ layout with mayBeginKey := true }.skip 1 |>.push .blockEntry)
  else
    none

/-- The question mark before a key. -/
def key? (layout : Layout) : Option Layout :=
  if layout.inFlow || layout.mayBeginKey then do
    let layout ←
      (layout.indent layout.mark.column layout.tokens.length .blockMapping).withoutCandidate?
    some ({ layout with mayBeginKey := !layout.inFlow }.skip 1 |>.push .key)
  else
    none

/-- The colon before a value; it makes the candidate a key. -/
def value? (layout : Layout) : Option Layout :=
  match layout.candidate? with
  | some candidate =>
      let layout :=
        { layout with tokens := layout.tokens.insertIdx candidate.position .key }
      let layout := layout.indent candidate.mark.column candidate.position .blockMapping
      some
        ({ layout with candidate? := none, mayBeginKey := false }.skip 1 |>.push .value)
  | none =>
      if layout.inFlow || layout.mayBeginKey then
        let layout := layout.indent layout.mark.column layout.tokens.length .blockMapping
        some ({ layout with mayBeginKey := !layout.inFlow }.skip 1 |>.push .value)
      else
        none

/-- A scalar that has been read. -/
def scalar (layout : Layout) (isPlain : Bool) (read : ScalarRead) : Layout :=
  { layout with mark := read.mark, rest := read.rest, mayBeginKey := read.isBroken }.push
    (.scalar isPlain read.text)

/-- A quoted scalar. -/
def quoted? (layout : Layout) (isDouble : Bool) : Option Layout := do
  let layout ← layout.withCandidate?
  let inside := layout.skip 1
  let read ← quotedFrom isDouble .inWord .empty inside.mark inside.rest
  some (layout.scalar false read)

/-- A plain scalar. -/
def plain? (layout : Layout) : Option Layout := do
  let layout ← layout.withCandidate?
  let indent :=
    match layout.indents with
    | [] => 0
    | column :: _ => column + 1
  let read ← plainFrom layout.inFlow indent .first .empty layout.mark layout.rest
  some (layout.scalar true read)

/-- The token that begins here. -/
def token? (layout : Layout) : Option Layout :=
  match layout.rest with
  | [] => none
  | character :: rest =>
      let isAlone := layout.inFlow || endsWord rest
      if isSeparator '-' layout.mark layout.rest then
        layout.separator? .documentStart
      else if isSeparator '.' layout.mark layout.rest then
        layout.separator? .documentEnd
      else if character == '[' then
        layout.openFlow? .flowSequence
      else if character == '\x7b' then
        layout.openFlow? .flowMapping
      else if character == ']' then
        layout.closeFlow? .flowSequenceEnd
      else if character == '\x7d' then
        layout.closeFlow? .flowMappingEnd
      else if character == ',' then
        layout.flowEntry?
      else if character == '-' && endsWord rest then
        layout.blockEntry?
      else if character == '?' && isAlone then
        layout.key?
      else if character == ':' && isAlone then
        layout.value?
      else if character == '\x27' then
        layout.quoted? false
      else if character == '"' then
        layout.quoted? true
      else if beginsPlain layout.inFlow layout.rest then
        layout.plain?
      else
        none

/-- The next token, after the blanks before it and the ends of blocks there. -/
def next? (layout : Layout) : Option Layout := do
  let layout ← layout.skipGap.refreshed?
  (layout.dedent (layout.mark.column < ·)).token?

/-- The end of the text. -/
def finish? (layout : Layout) : Option (List Token) := do
  let layout ← layout.refreshed?
  let layout ← (layout.dedent fun _ => true).withoutCandidate?
  some layout.tokens

/-- All tokens, of which at most `count` are still to come. -/
def run? : Nat → Layout → Option (List Token)
  | 0, _ => none
  | count + 1, layout =>
      if layout.skipGap.rest.isEmpty then
        layout.skipGap.finish?
      else
        layout.next?.bind (run? count)

end Layout

/-- The tokens of a text. -/
def tokens? (text : String) : Option (List Token) :=
  let characters := unifyBreaks text.toList
  if characters.all isAllowed then
    (Layout.ofText characters).run? (characters.length + 1)
  else
    none

end Rover.Yaml
