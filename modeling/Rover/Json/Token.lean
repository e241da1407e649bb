import Rover.Json
import Rover.Text.Numeral

/-!
# JSON tokens

Cuts a JSON text into brackets, commas, colons, words and texts.
-/

namespace Rover.Json

/-- A piece of a JSON text. -/
inductive Token where
  | openObject
  | closeObject
  | openArray
  | closeArray
  | colon
  | comma
  | null
  | boolean (value : Bool)
  | integer (value : Int)
  | real (written : String)
  | text (value : Option String)
  deriving DecidableEq, Repr

namespace Token

/-- The characters that only separate. -/
def isSpace (character : Char) : Bool :=
  character == ' ' || character == '\t' || character == '\n' || character == '\r'

/-- The token that is a single character. -/
def ofChar? : Char → Option Token
  | '\x7b' => some .openObject
  | '\x7d' => some .closeObject
  | '[' => some .openArray
  | ']' => some .closeArray
  | ':' => some .colon
  | ',' => some .comma
  | _ => none

/-! ## Numbers -/

/-- Whether a row is made of digits alone, at least one of them. -/
def isDigits (row : List Char) : Bool :=
  !row.isEmpty && row.all Char.isDigit

/-- Whether a row is an exponent, the letter before it included, or nothing. -/
def isExponent : List Char → Bool
  | [] => true
  | mark :: '+' :: row => (mark == 'e' || mark == 'E') && isDigits row
  | mark :: '-' :: row => (mark == 'e' || mark == 'E') && isDigits row
  | mark :: row => (mark == 'e' || mark == 'E') && isDigits row

/-- Whether a row is what may follow the whole part of a number. -/
def isTail : List Char → Bool
  | '.' :: row => isDigits (row.takeWhile Char.isDigit) && isExponent (row.dropWhile Char.isDigit)
  | row => isExponent row

/-- The number without a sign that a row of characters writes. -/
def magnitude? (row : List Char) : Option (Nat ⊕ Unit) :=
  let whole := row.takeWhile Char.isDigit
  let tail := row.dropWhile Char.isDigit
  if isDigits whole && (whole.head? != some '0' || whole.length == 1) && isTail tail then
    if tail.isEmpty then (Text.digits? 10 whole).map .inl else some (.inr ())
  else
    none

/-- The number that a row of characters writes. -/
def ofNumber? (row : List Char) : Option Token :=
  let written := String.ofList row
  match row with
  | '-' :: rest =>
      match magnitude? rest with
      | some (.inl 0) => some (.real written)
      | some (.inl value) => some (.integer (-Int.ofNat value))
      | some (.inr _) => some (.real written)
      | none => none
  | _ =>
      match magnitude? row with
      | some (.inl value) => some (.integer (.ofNat value))
      | some (.inr _) => some (.real written)
      | none => none

/-- The token that a word is. -/
def ofWord? (row : List Char) : Option Token :=
  if row = "null".toList then
    some .null
  else if row = "true".toList then
    some (.boolean true)
  else if row = "false".toList then
    some (.boolean false)
  else
    ofNumber? row

/-! ## Texts -/

/-- The character that a single letter after a backslash stands for. -/
def escaped? : Char → Option Char
  | '"' => some '"'
  | '\\' => some '\\'
  | '/' => some '/'
  | 'b' => some '\x08'
  | 'f' => some '\x0c'
  | 'n' => some '\n'
  | 'r' => some '\r'
  | 't' => some '\t'
  | _ => none

/-- The code units that the inside of a text writes; surrogates come in as they stand. -/
def units? : List Char → Option (List Nat)
  | [] => some []
  | '\\' :: 'u' :: a :: b :: c :: d :: rest => do
      let unit ← Text.digits? 16 [a, b, c, d]
      let units ← units? rest
      some (unit :: units)
  | '\\' :: letter :: rest => do
      let character ← escaped? letter
      let units ← units? rest
      some (character.toNat :: units)
  | ['\\'] => none
  | character :: rest => (units? rest).map (character.toNat :: ·)

/-- Whether a code unit is the first half of a surrogate pair. -/
def isHigh (unit : Nat) : Bool :=
  0xD800 ≤ unit && unit < 0xDC00

/-- Whether a code unit is the second half of a surrogate pair. -/
def isLow (unit : Nat) : Bool :=
  0xDC00 ≤ unit && unit < 0xE000

/-- The characters that code units make, unless half of a pair is left over. -/
def joinUnits? : List Nat → Option (List Char)
  | [] => some []
  | high :: low :: rest =>
      if isHigh high && isLow low then
        (joinUnits? rest).map
          (Char.ofNat (0x10000 + (high - 0xD800) * 0x400 + (low - 0xDC00)) :: ·)
      else if isHigh high || isLow high then
        none
      else
        (joinUnits? (low :: rest)).map (Char.ofNat high :: ·)
  | [unit] => if isHigh unit || isLow unit then none else some [Char.ofNat unit]

/-- The token that the inside of a text is. -/
def ofInside? (inside : List Char) : Option Token :=
  (units? inside).map fun units => .text ((joinUnits? units).map String.ofList)

/-! ## Whole texts -/

/-- What is being read, with its characters so far, last one first. -/
inductive Reading where
  | nothing
  | word (reversed : List Char)
  /-- The inside of a text, and whether a backslash has just been read. -/
  | inside (reversed : List Char) (isEscaped : Bool)

/-- The token that a character is by itself, and what it begins. -/
def beginning (character : Char) : List Token × Reading :=
  if isSpace character then
    ([], .nothing)
  else if character = '"' then
    ([], .inside [] false)
  else
    match ofChar? character with
    | some token => ([token], .nothing)
    | none => ([], .word [character])

/-- Whether a character goes on with a word. -/
def continues (character : Char) : Bool :=
  !isSpace character && character != '"' && (ofChar? character).isNone

/-- The tokens of the rest of a text, given what is being read. -/
def allFrom : Reading → List Char → Option (List Token)
  | .nothing, [] => some []
  | .word reversed, [] => (ofWord? reversed.reverse).map ([·])
  | .inside _ _, [] => none
  | .nothing, character :: rest =>
      let (tokens, reading) := beginning character
      (allFrom reading rest).map (tokens ++ ·)
  | .word reversed, character :: rest =>
      if continues character then
        allFrom (.word (character :: reversed)) rest
      else do
        let word ← ofWord? reversed.reverse
        let (tokens, reading) := beginning character
        let later ← allFrom reading rest
        some (word :: tokens ++ later)
  | .inside reversed true, character :: rest =>
      allFrom (.inside (character :: reversed) false) rest
  | .inside reversed false, character :: rest =>
      if character = '"' then do
        let text ← ofInside? reversed.reverse
        let later ← allFrom .nothing rest
        some (text :: later)
      else if character.toNat < 0x20 then
        none
      else
        allFrom (.inside (character :: reversed) (character == '\\')) rest

/-- The tokens of a text. -/
def all? (text : String) : Option (List Token) :=
  allFrom .nothing text.toList

end Token

end Rover.Json
