import Rover.Text.Lowercase.Table
import Rover.Text.Property.CaseIgnorable
import Rover.Text.Property.Cased

/-!
# Small letters

The small form of a text by Unicode's full case mapping.  It is taken
character by character, with two exceptions that the standard makes: `İ`
becomes two characters, and `Σ` becomes `ς` at the end of a word and `σ`
elsewhere.
-/

namespace Rover.Text

/-- The small form of a character on its own. -/
def smallForm (character : Char) : List Char :=
  if character.toNat < 0x80 then
    [character.toLower]
  else if character == 'İ' then
    ['i', Char.ofNat 0x307]
  else
    match caseRuns.findSome? fun run => run.smallForm? character.toNat with
    | some code => [Char.ofNat code]
    | none => [character]

/-- Whether the first character that case rules do not skip has a case. -/
def meetsCased (text : List Char) : Bool :=
  match text.find? fun character => !isCaseIgnorable character with
  | some character => isCased character
  | none => false

/--
Whether a letter with the text `before` it, nearest character first, and
`after` it ends a word.
-/
def endsWord (before after : List Char) : Bool :=
  meetsCased before && !meetsCased after

/-- The small form of a text that follows the text `before`, given nearest character first. -/
def smallAfter (before : List Char) : List Char → List Char
  | [] => []
  | character :: after =>
      let small :=
        if character == 'Σ' then
          [if endsWord before after then 'ς' else 'σ']
        else
          smallForm character
      small ++ smallAfter (character :: before) after

/-- The small form of a text. -/
def lowercase (text : String) : String :=
  String.ofList (smallAfter [] text.toList)

end Rover.Text
