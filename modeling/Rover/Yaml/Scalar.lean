import Rover.Text.Numeral
import Rover.Yaml.Token

/-!
# YAML scalars

Reads a scalar from the front of a text.  Line breaks inside a scalar are
folded: a single one stands for a space, and of several in a row all but the
first stay.
-/

namespace Rover.Yaml

/--
The content of a scalar so far, last character first, and what has been read
since that need not become part of it: gaps within the line, or line breaks.
-/
structure Folding where
  content : List Char
  gap : List Char
  /-- Whether the line has ended since. -/
  isBroken : Bool
  firstBreak? : Option Char
  laterBreaks : List Char

namespace Folding

/-- Nothing read yet. -/
def empty : Folding := ⟨[], [], false, none, []⟩

/-- A space or tab read. -/
def addGap (folding : Folding) (character : Char) : Folding :=
  if folding.isBroken then folding else { folding with gap := character :: folding.gap }

/-- The end of a line read. -/
def addBreak (folding : Folding) (character : Char) : Folding :=
  if folding.isBroken then
    { folding with laterBreaks := character :: folding.laterBreaks }
  else
    { folding with gap := [], isBroken := true, firstBreak? := some character }

/-- The end of a line read that a backslash takes out of the content. -/
def skipBreak (folding : Folding) : Folding :=
  { folding with isBroken := true }

/-- What has been read since made part of the content. -/
def join (folding : Folding) : Folding :=
  let joined :=
    if folding.isBroken then
      match folding.firstBreak? with
      | none => folding.laterBreaks ++ folding.content
      | some first =>
          if first == '\n' then
            if folding.laterBreaks.isEmpty then
              ' ' :: folding.content
            else
              folding.laterBreaks ++ folding.content
          else
            folding.laterBreaks ++ first :: folding.content
    else
      folding.gap ++ folding.content
  { empty with content := joined }

/-- A character of the content read. -/
def add (folding : Folding) (character : Char) : Folding :=
  { folding with content := character :: folding.content }

/-- The content as a text. -/
def text (folding : Folding) : String :=
  String.ofList folding.content.reverse

end Folding

/-- A scalar, where it ends, and the text after it. -/
structure ScalarRead where
  text : String
  mark : Mark
  rest : List Char
  /-- Whether the scalar was followed by the end of its line. -/
  isBroken : Bool

/-! ## Plain scalars -/

/-- The characters that a plain scalar cannot begin with, unless the next one makes it a word. -/
def isIndicator (character : Char) : Bool :=
  "-?:,[]\x7b\x7d#&*!|>'\"%@`".toList.contains character

/-- Whether a plain scalar begins here. -/
def beginsPlain (inFlow : Bool) : List Char → Bool
  | [] => false
  | character :: rest =>
      !(endsWord [character] || isIndicator character) ||
        (character == '-' && !(rest.head?.any isGap)) ||
        (!inFlow && (character == '?' || character == ':') && !endsWord rest)

/-- Where in a plain scalar the next character stands. -/
inductive PlainPosition where
  | first
  | inWord
  | inGap

/-- A plain scalar that is continued on lines indented by at least `indent`. -/
def plainFrom (inFlow : Bool) (indent : Nat) :
    PlainPosition → Folding → Mark → List Char → Option ScalarRead
  | _, folding, mark, [] => some ⟨folding.text, mark, [], folding.isBroken⟩
  | position, folding, mark, character :: rest =>
      if isBreak character then
        plainFrom inFlow indent .inGap (folding.addBreak character) mark.newline rest
      else if isGap character then
        if folding.isBroken && mark.column < indent && character == '\t' then
          none
        else
          plainFrom inFlow indent .inGap (folding.addGap character) (mark.next character) rest
      else
        let stops :=
          match position with
          | .inGap =>
              (!inFlow && mark.column < indent) || character == '#' ||
                isAnySeparator mark (character :: rest)
          | _ => false
        let stopped : ScalarRead :=
          ⟨folding.text, mark, character :: rest, folding.isBroken⟩
        if stops then
          some stopped
        else if inFlow && character == ':' &&
            rest.head?.any fun next => ",?[]\x7b\x7d".toList.contains next then
          none
        else if (character == ':' && endsWord rest) ||
            (inFlow && ",[]\x7b\x7d".toList.contains character) then
          some stopped
        else
          plainFrom inFlow indent .inWord (folding.join.add character) (mark.next character) rest

/-! ## Quoted scalars -/

/-- Where in a quoted scalar the next character stands. -/
inductive QuotedPosition where
  | inWord
  | inGap
  /-- After a single quote, which ends the scalar unless another one follows. -/
  | afterQuote
  | afterBackslash
  /-- Inside a character code of which some digits are still to come. -/
  | inCode (digits value : Nat)

/-- What the letter after a backslash begins: a character, or a code of some digits. -/
def escape? : Char → Option (Char ⊕ Nat)
  | '0' => some (.inl '\x00')
  | 'a' => some (.inl '\x07')
  | 'b' => some (.inl '\x08')
  | 't' => some (.inl '\t')
  | '\t' => some (.inl '\t')
  | 'n' => some (.inl '\n')
  | 'v' => some (.inl '\x0b')
  | 'f' => some (.inl '\x0c')
  | 'r' => some (.inl '\r')
  | 'e' => some (.inl '\x1b')
  | ' ' => some (.inl ' ')
  | '"' => some (.inl '"')
  | '/' => some (.inl '/')
  | '\\' => some (.inl '\\')
  | 'N' => some (.inl (Char.ofNat 0x85))
  | '_' => some (.inl (Char.ofNat 0xA0))
  | 'L' => some (.inl (Char.ofNat 0x2028))
  | 'P' => some (.inl (Char.ofNat 0x2029))
  | 'x' => some (.inr 2)
  | 'u' => some (.inr 4)
  | 'U' => some (.inr 8)
  | _ => none

/-- The rest of a scalar between double or single quotes. -/
def quotedFrom (isDouble : Bool) :
    QuotedPosition → Folding → Mark → List Char → Option ScalarRead
  | .afterQuote, folding, mark, [] => some ⟨folding.text, mark, [], false⟩
  | _, _, _, [] => none
  | .inCode digits value, folding, mark, character :: rest => do
      let digit ← Text.digitValue? 16 character
      let value := value * 16 + digit
      if digits ≤ 1 then
        if value.isValidChar then
          quotedFrom isDouble .inWord (folding.add (Char.ofNat value)) (mark.next character) rest
        else
          none
      else
        quotedFrom isDouble (.inCode (digits - 1) value) folding (mark.next character) rest
  | .afterBackslash, folding, mark, character :: rest =>
      if isBreak character then
        quotedFrom isDouble .inGap folding.skipBreak mark.newline rest
      else
        match escape? character with
        | some (.inl meant) => quotedFrom isDouble .inWord (folding.add meant) (mark.next character) rest
        | some (.inr digits) => quotedFrom isDouble (.inCode digits 0) folding (mark.next character) rest
        | none => none
  | .afterQuote, folding, mark, character :: rest =>
      if character == '\x27' then
        quotedFrom isDouble .inWord (folding.add character) (mark.next character) rest
      else
        some ⟨folding.text, mark, character :: rest, false⟩
  | position, folding, mark, character :: rest =>
      if isBreak character then
        quotedFrom isDouble .inGap (folding.addBreak character) mark.newline rest
      else if isGap character then
        quotedFrom isDouble .inGap (folding.addGap character) (mark.next character) rest
      else
        let separated :=
          match position with
          | .inGap => isAnySeparator mark (character :: rest)
          | _ => false
        let joined := folding.join
        if separated then
          none
        else if isDouble && character == '"' then
          some ⟨joined.text, mark.next character, rest, false⟩
        else if isDouble && character == '\\' then
          quotedFrom isDouble .afterBackslash joined (mark.next character) rest
        else if !isDouble && character == '\x27' then
          quotedFrom isDouble .afterQuote joined (mark.next character) rest
        else
          quotedFrom isDouble .inWord (joined.add character) (mark.next character) rest

end Rover.Yaml
