import Rover.Text.Blank

/-!
# Fields of a record

A record of a map is a line of fields: words without a blank or a double quote,
and texts between double quotes.  Blanks outside quotes only separate.  A quote
that is left open makes the whole line unreadable.
-/

namespace Rover.Atlas

/-- A field of a record, without its quotes if it had some. -/
structure Field where
  text : List Char
  isQuoted : Bool
  deriving DecidableEq, Repr

namespace Field

/-- Whether a field is the given keyword; a quoted text is none. -/
def is (field : Field) (keyword : String) : Bool :=
  !field.isQuoted && Text.isKeyword keyword field.text

/-- The content of a field. -/
def content (field : Field) : String :=
  String.ofList field.text

/-- The content of a field, with underscores for blanks unless it was quoted. -/
def description (field : Field) : String :=
  if field.isQuoted then
    field.content
  else
    String.ofList (field.text.map fun character => if character = '_' then ' ' else character)

/-- What the field that is being read is, with its characters so far, last one first. -/
inductive Reading where
  | nothing
  | word (reversed : List Char)
  | quotation (reversed : List Char)

/-- The fields of the rest of a line, given the field that is being read. -/
def splitFrom : Reading → List Char → Option (List Field)
  | .nothing, [] => some []
  | .word reversed, [] => some [⟨reversed.reverse, false⟩]
  | .quotation _, [] => none
  | .nothing, character :: rest =>
      if character = '"' then
        splitFrom (.quotation []) rest
      else if Text.isBlank character then
        splitFrom .nothing rest
      else
        splitFrom (.word [character]) rest
  | .word reversed, character :: rest =>
      if character = '"' then
        (splitFrom (.quotation []) rest).map (⟨reversed.reverse, false⟩ :: ·)
      else if Text.isBlank character then
        (splitFrom .nothing rest).map (⟨reversed.reverse, false⟩ :: ·)
      else
        splitFrom (.word (character :: reversed)) rest
  | .quotation reversed, character :: rest =>
      if character = '"' then
        (splitFrom .nothing rest).map (⟨reversed.reverse, true⟩ :: ·)
      else
        splitFrom (.quotation (character :: reversed)) rest

/-- The fields of a line, unless a quote is left open. -/
def split (line : List Char) : Option (List Field) :=
  splitFrom .nothing line

end Field

end Rover.Atlas
