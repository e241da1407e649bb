/-!
# YAML characters and tokens

The pieces of a YAML text: its scalars, the marks of flow collections, the
marks that show where block collections begin and end, and the lines that
separate documents.

The subset read here has block and flow collections, plain and quoted scalars,
comments and several documents.  Block scalars, anchors, aliases, tags and
directives are refused.
-/

namespace Rover.Yaml

/-- A place in a text: the bytes and lines before it, and the characters before it in its line. -/
structure Mark where
  index : Nat
  line : Nat
  column : Nat
  deriving DecidableEq, Repr

namespace Mark

/-- The place after one more character of the line. -/
def next (mark : Mark) (character : Char) : Mark :=
  { mark with index := mark.index + character.utf8Size, column := mark.column + 1 }

/-- The place after some more ASCII characters of the line. -/
def skip (mark : Mark) (count : Nat) : Mark :=
  { mark with index := mark.index + count, column := mark.column + count }

/-- The place after the end of the line. -/
def newline (mark : Mark) : Mark :=
  { index := mark.index + 1, line := mark.line + 1, column := 0 }

end Mark

/-- A piece of a text. -/
inductive Token where
  | documentStart
  | documentEnd
  | blockSequence
  | blockMapping
  | blockEnd
  | blockEntry
  | flowSequence
  | flowSequenceEnd
  | flowMapping
  | flowMappingEnd
  | flowEntry
  | key
  | value
  | scalar (isPlain : Bool) (text : String)
  deriving DecidableEq, Repr

/-- The characters that a text may hold. -/
def isAllowed (character : Char) : Bool :=
  let code := character.toNat
  code == 0x09 || code == 0x0A || code == 0x0D || (0x20 ≤ code && code ≤ 0x7E) ||
    code == 0x85 || (0xA0 ≤ code && code ≤ 0xFFFD) || 0x10000 ≤ code

/-- A text in which every line ends with a single character. -/
def unifyBreaks : List Char → List Char
  | [] => []
  | '\r' :: '\n' :: rest => '\n' :: unifyBreaks rest
  | character :: rest =>
      (if character == '\r' || character.toNat == 0x85 then '\n' else character) ::
        unifyBreaks rest

/-- A space or a tab. -/
def isGap (character : Char) : Bool :=
  character == ' ' || character == '\t'

/-- A character that ends a line. -/
def isBreak (character : Char) : Bool :=
  character == '\n' || character.toNat == 0x2028 || character.toNat == 0x2029

/-- Whether a word ends before the rest of a text. -/
def endsWord : List Char → Bool
  | [] => true
  | character :: _ => isGap character || isBreak character

/-- Whether a line that separates documents begins here, made of a character three times. -/
def isSeparator (character : Char) (mark : Mark) : List Char → Bool
  | first :: second :: third :: rest =>
      mark.column == 0 && first == character && second == character && third == character &&
        endsWord rest
  | _ => false

/-- Whether any line that separates documents begins here. -/
def isAnySeparator (mark : Mark) (text : List Char) : Bool :=
  isSeparator '-' mark text || isSeparator '.' mark text

end Rover.Yaml
