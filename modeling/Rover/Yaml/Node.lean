import Rover.Yaml.Layout

/-!
# YAML nodes

Puts the tokens of a YAML text together to the one document that it holds.
-/

namespace Rover.Yaml

/-- A scalar or a collection. -/
inductive Node where
  | scalar (isPlain : Bool) (text : String)
  | sequence (items : List Node)
  | mapping (entries : List (Node × Node))

namespace Node

/-- The scalar that stands where nothing is written. -/
def nothing : Node := .scalar true ""

/-- Whether the next token is one of some. -/
def nextIsIn (tokens : List Token) : List Token → Bool
  | [] => false
  | token :: _ => tokens.contains token

/-- The tokens that end what a key or a value of a block mapping may be. -/
def blockStops : List Token := [.key, .value, .blockEnd]

mutual

/-- A node and the tokens after it; only a block may hold block collections. -/
def ofTokens? : Nat → Bool → Bool → List Token → Option (Node × List Token)
  | 0, _, _, _ => none
  | _, _, _, .scalar isPlain text :: rest => some (.scalar isPlain text, rest)
  | fuel + 1, _, _, .flowSequence :: rest => do
      let (items, rest) ← flowItems? fuel true rest
      some (.sequence items, rest)
  | fuel + 1, _, _, .flowMapping :: rest => do
      let (entries, rest) ← flowEntries? fuel true rest
      some (.mapping entries, rest)
  | fuel + 1, true, _, .blockSequence :: rest => do
      let (items, rest) ← blockItems? fuel true rest
      some (.sequence items, rest)
  | fuel + 1, true, _, .blockMapping :: rest => do
      let (entries, rest) ← blockEntries? fuel rest
      some (.mapping entries, rest)
  | fuel + 1, _, true, .blockEntry :: rest => do
      let (items, rest) ← blockItems? fuel false (.blockEntry :: rest)
      some (.sequence items, rest)
  | _, _, _, _ => none

/-- A node, or nothing before one of some tokens. -/
def orNothing? : Nat → Bool → List Token → List Token → Option (Node × List Token)
  | 0, _, _, _ => none
  | fuel + 1, isBlock, stops, tokens =>
      if nextIsIn stops tokens then
        some (nothing, tokens)
      else
        ofTokens? fuel isBlock isBlock tokens

/-- The value after a colon, or nothing where there is no colon. -/
def valueOrNothing? : Nat → Bool → List Token → List Token → Option (Node × List Token)
  | 0, _, _, _ => none
  | fuel + 1, isBlock, stops, .value :: rest => orNothing? fuel isBlock stops rest
  | _, _, _, tokens => some (nothing, tokens)

/-- The entries of a block sequence, up to its end if that is marked. -/
def blockItems? : Nat → Bool → List Token → Option (List Node × List Token)
  | 0, _, _ => none
  | fuel + 1, isMarked, .blockEntry :: rest => do
      let stops := if isMarked then [.blockEntry, .blockEnd] else .blockEntry :: blockStops
      let (item, rest) ←
        if nextIsIn stops rest then some (nothing, rest) else ofTokens? fuel true false rest
      let (items, rest) ← blockItems? fuel isMarked rest
      some (item :: items, rest)
  | _, true, .blockEnd :: rest => some ([], rest)
  | _, true, _ => none
  | _, false, tokens => some ([], tokens)

/-- The entries of a block mapping, up to its end. -/
def blockEntries? : Nat → List Token → Option (List (Node × Node) × List Token)
  | 0, _ => none
  | fuel + 1, .key :: rest => do
      let (key, rest) ← orNothing? fuel true blockStops rest
      let (value, rest) ← valueOrNothing? fuel true blockStops rest
      let (entries, rest) ← blockEntries? fuel rest
      some ((key, value) :: entries, rest)
  | _, .blockEnd :: rest => some ([], rest)
  | _, _ => none

/--
The entries of a flow sequence, up to its end.  A colon, comma or end that
follows a question mark stands for the key that is not written there.
-/
def flowItems? : Nat → Bool → List Token → Option (List Node × List Token)
  | 0, _, _ => none
  | _, _, .flowSequenceEnd :: rest => some ([], rest)
  | fuel + 1, false, .flowEntry :: rest => flowItems? fuel true rest
  | _, false, _ => none
  | fuel + 1, true, .key :: rest => do
      let stops := [Token.flowEntry, .flowSequenceEnd]
      let (key, rest) ←
        if nextIsIn (.value :: stops) rest then
          some (nothing, rest.tail)
        else
          ofTokens? fuel false false rest
      let (value, rest) ← valueOrNothing? fuel false stops rest
      let (items, rest) ← flowItems? fuel false rest
      some (.mapping [(key, value)] :: items, rest)
  | fuel + 1, true, tokens => do
      let (item, rest) ← ofTokens? fuel false false tokens
      let (items, rest) ← flowItems? fuel false rest
      some (item :: items, rest)

/-- The entries of a flow mapping, up to its end. -/
def flowEntries? : Nat → Bool → List Token → Option (List (Node × Node) × List Token)
  | 0, _, _ => none
  | _, _, .flowMappingEnd :: rest => some ([], rest)
  | fuel + 1, false, .flowEntry :: rest => flowEntries? fuel true rest
  | _, false, _ => none
  | fuel + 1, true, .key :: rest => do
      let stops := [Token.flowEntry, .flowMappingEnd]
      let (key, rest) ← orNothing? fuel false (.value :: stops) rest
      let (value, rest) ← valueOrNothing? fuel false stops rest
      let (entries, rest) ← flowEntries? fuel false rest
      some ((key, value) :: entries, rest)
  | fuel + 1, true, tokens => do
      let (key, rest) ← ofTokens? fuel false false tokens
      let (entries, rest) ← flowEntries? fuel false rest
      some ((key, nothing) :: entries, rest)

end

/-- The content of a document and the tokens after it. -/
def content? (tokens : List Token) : Option (Node × List Token) :=
  if tokens.isEmpty || nextIsIn [.documentStart, .documentEnd] tokens then
    some (nothing, tokens)
  else
    ofTokens? (4 * tokens.length + 4) true false tokens

/-- The content of the one document of a text; an empty text holds nothing. -/
def ofText? (text : String) : Option Node := do
  let tokens ← tokens? text
  match tokens with
  | [] => some nothing
  | .documentEnd :: _ => none
  | _ =>
      let body :=
        match tokens with
        | .documentStart :: rest => rest
        | _ => tokens
      let (node, rest) ← content? body
      if rest.all (· == .documentEnd) then some node else none

/-! ## Numbers -/

/-- The number that follows a mark of its base, without a sign. -/
def afterBase? (row : List Char) : Option Nat :=
  match row with
  | '0' :: 'x' :: digits => Text.digits? 16 digits
  | '0' :: 'o' :: digits => Text.digits? 8 digits
  | '0' :: 'b' :: digits => Text.digits? 2 digits
  | _ => none

/-- Whether a row of digits begins with a nought that keeps it from being a number. -/
def isPadded (row : List Char) : Bool :=
  match row with
  | '0' :: digits => !digits.isEmpty && digits.all Char.isDigit
  | _ => false

/-- The whole number that a plain scalar writes. -/
def whole? (row : List Char) : Option Int :=
  match row with
  | '+' :: '+' :: _ => none
  | '+' :: '-' :: _ => none
  | '+' :: digits =>
      ((afterBase? digits).or (if isPadded digits then none else Text.digits? 10 digits)).map
        Int.ofNat
  | '-' :: digits =>
      ((afterBase? digits).or (if isPadded digits then none else Text.digits? 10 digits)).map
        fun magnitude => -Int.ofNat magnitude
  | digits =>
      ((afterBase? digits).or (if isPadded digits then none else Text.digits? 10 digits)).map
        Int.ofNat

end Node

end Rover.Yaml
