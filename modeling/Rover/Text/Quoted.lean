import Rover.Text.Property.Combining
import Rover.Text.Property.Invisible

/-!
# Texts quoted in messages

A message quotes a text between double quotes so that every character of it
can be told: a character that would not show, or that would melt into the one
before it, is given by its code point in hexadecimal.
-/

namespace Rover.Text

/-- The way a character stands in a quoted text. -/
def quotedChar (character : Char) : List Char :=
  match character with
  | '\x00' => ['\\', '0']
  | '\t' => ['\\', 't']
  | '\r' => ['\\', 'r']
  | '\n' => ['\\', 'n']
  | '\\' => ['\\', '\\']
  | '"' => ['\\', '"']
  | _ =>
      if isCombining character || isInvisible character then
        ['\\', 'u', '\x7b'] ++ Nat.toDigits 16 character.toNat ++ ['\x7d']
      else
        [character]

/-- A text between double quotes, with its special characters told apart. -/
def quoted (text : List Char) : String :=
  String.ofList ('"' :: text.flatMap quotedChar ++ ['"'])

end Rover.Text
