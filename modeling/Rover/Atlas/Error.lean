import Rover.Text.Quoted

/-!
# Errors in maps

Why a map cannot be read.  Lines are counted from 1.  Most errors belong to a
line; that a map cannot be had at all, or has no places, belongs to none.
-/

namespace Rover

/-- Why the text of a file cannot be had. -/
inductive ReadFailure where
  | missing
  | notText
  /-- Anything else that a file system may answer. -/
  | refused (message : String)
  deriving DecidableEq, Repr

/-- The words in which it is told that a file cannot be read. -/
def ReadFailure.message : ReadFailure → String
  | .missing => "No such file or directory (os error 2)"
  | .notText => "stream did not contain valid UTF-8"
  | .refused message => message

namespace Atlas

/-- The sections of a map. -/
inductive Part where
  | places
  | streets
  | items
  deriving DecidableEq, Repr

namespace Part

/-- The line that begins a section. -/
def opener : Part → String
  | .places => "BeginPlaces"
  | .streets => "BeginStreets"
  | .items => "BeginItems"

/-- The line that ends a section. -/
def closer : Part → String
  | .places => "EndPlaces"
  | .streets => "EndStreets"
  | .items => "EndItems"

end Part

/-- What an error is about. -/
inductive Subject where
  | map
  | place
  | street
  | item
  | placeReference
  | fuel
  | garbage
  deriving DecidableEq, Repr

/-- The word for what an error is about. -/
def Subject.name : Subject → String
  | .map => "map"
  | .place => "place"
  | .street => "street"
  | .item => "item"
  | .placeReference => "place reference"
  | .fuel => "fuel"
  | .garbage => "garbage"

/-- What is wrong with the shape of a record. -/
inductive Defect where
  | openQuote
  | placeFields
  | placeWord
  | shipWord
  | streetFields
  | streetWords
  | doorWords
  | itemFields
  | itemPlace
  | notNumber (found : List Char)
  deriving DecidableEq, Repr

/-- The words for what is wrong with the shape of a record. -/
def Defect.text : Defect → String
  | .openQuote => "unterminated quote"
  | .placeFields => "expected 5 fields"
  | .placeWord => "record must start with `place`"
  | .shipWord => "expected spaceShip or noSpaceShip"
  | .streetFields => "expected 8 or 9 fields"
  | .streetWords => "expected `street <n> place <a> <direction> place <b>`"
  | .doorWords => "expected `open` or `closed <code>`"
  | .itemFields => "expected a fuel, garbage or codecard record"
  | .itemPlace => "expected `place <n>` at the end"
  | .notNumber found => Text.quoted found ++ " is not a number"

/-- Why a map cannot be read. -/
inductive MapError where
  | unreadable (failure : ReadFailure)
  | missingHeader (line : Nat)
  /-- The map ends inside a section, or between sections. -/
  | unexpectedEnd (line : Nat) (inside : Option Part)
  | unknownSection (line : Nat) (found : List Char)
  | malformed (line : Nat) (subject : Subject) (defect : Defect)
  | outOfSequence (line : Nat) (subject : Subject) (expected found : Nat)
  | unknownPlace (line : Nat) (place : Nat)
  | unknownDirection (line : Nat) (found : List Char)
  | duplicateItem (line : Nat) (place : Nat) (id : String)
  | noPlaces
  deriving DecidableEq, Repr

namespace MapError

/-- The line that an error belongs to. -/
def line? : MapError → Option Nat
  | .unreadable _ => none
  | .missingHeader line => some line
  | .unexpectedEnd line _ => some line
  | .unknownSection line _ => some line
  | .malformed line _ _ => some line
  | .outOfSequence line _ _ _ => some line
  | .unknownPlace line _ => some line
  | .unknownDirection line _ => some line
  | .duplicateItem line _ _ => some line
  | .noPlaces => none

/-- The beginning of a message about a line. -/
def atLine (line : Nat) : String :=
  "line " ++ toString line ++ ": "

/-- The words in which it is told why a map cannot be read. -/
def message : MapError → String
  | .unreadable failure => "cannot read map: " ++ failure.message
  | .missingHeader line => atLine line ++ "expected BeginCity"
  | .unexpectedEnd line none => atLine line ++ "map ended before EndCity"
  | .unexpectedEnd line (some part) => atLine line ++ "map ended before " ++ part.closer
  | .unknownSection line found => atLine line ++ "unknown section " ++ Text.quoted found
  | .malformed line subject defect =>
      atLine line ++ "malformed " ++ subject.name ++ " record: " ++ defect.text
  | .outOfSequence line subject expected found =>
      atLine line ++ "expected " ++ subject.name ++ " number " ++ toString expected ++
        ", found " ++ toString found
  | .unknownPlace line place =>
      atLine line ++ "place " ++ toString place ++ " is not defined"
  | .unknownDirection line found => atLine line ++ Text.quoted found ++ " is not a direction"
  | .duplicateItem line place id =>
      atLine line ++ "place " ++ toString place ++ " already holds an item called " ++ id
  | .noPlaces => "the map defines no places"

end MapError

end Atlas

end Rover
