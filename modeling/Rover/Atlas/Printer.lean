import Rover.Atlas.Field
import Rover.City

/-!
# Writing maps

Writes a city as a map: the sections for places, streets and items in this
order, with the records of each numbered from 0.  Names, descriptions,
identifiers and codes stand between quotes, so that their blanks, underscores
and keywords are kept; all other fields are words.

Items go by place and, at a place, by key.  An item without use has no record,
since maps know none; `City.IsWritable` says which cities lose nothing when
they are written.
-/

namespace Rover.Atlas

namespace Field

/-- A field that is a word. -/
def word (text : String) : Field := ⟨text.toList, false⟩

/-- A field between quotes. -/
def quotation (text : String) : Field := ⟨text.toList, true⟩

/-- A field that is a number. -/
def number (value : Nat) : Field := word (toString value)

/-- A field that is a quantity. -/
def amount (quantity : Quantity) : Field := word quantity.text

/-- The characters that write a field. -/
def written (field : Field) : List Char :=
  if field.isQuoted then '"' :: field.text ++ ['"'] else field.text

/-- The line that writes some fields, with a space between one and the next. -/
def line (fields : List Field) : List Char :=
  [' '].intercalate (fields.map written)

end Field

/-- The record of a place. -/
def placeRecord (place : Place) (number : Nat) : List Field :=
  [.word "place", .number number, .quotation place.name, .quotation place.description,
    .word (if place.isSpaceship then "spaceShip" else "noSpaceShip")]

/-- The fields that tell of the door of a street. -/
def doorFields (street : Street) : List Field :=
  if street.isOpen then [.word "open"] else [.word "closed", .quotation street.code]

/-- The record of a street. -/
def streetRecord (street : Street) (number : Nat) : List Field :=
  [.word "street", .number number, .word "place", .number street.source,
    .word street.direction.name, .word "place", .number street.target] ++ doorFields street

/-- The word for a kind of item and the fields that tell of its use; a thing of no use has none. -/
def useFields? : ItemKind → Option (String × List Field)
  | .fuel power times => some ("fuel", [.amount power, .amount times])
  | .garbage material _ => some ("garbage", [.amount material])
  | .codeCard code => some ("codecard", [.quotation code])
  | .generic => none

/-- The items of a city that have a record, each with the place where it lies. -/
def laidItems (city : City) : List (PlaceId × Item) :=
  city.places.zipIdx.flatMap fun (place, number) =>
    (place.items.items.filter fun item => (useFields? item.kind).isSome).map (number, ·)

/-- The record of an item at a place. -/
def itemRecord (place : PlaceId) (item : Item) (number : Nat) : List Field :=
  match useFields? item.kind with
  | none => []
  | some (word, figures) =>
      [.word word, .number number, .quotation item.id, .quotation item.description] ++ figures ++
        [.word "place", .number place]

/-- The lines of a map that writes a city. -/
def renderLines (city : City) : List (List Char) :=
  ["BeginCity".toList, "BeginPlaces".toList] ++
    city.places.zipIdx.map (fun (place, number) => Field.line (placeRecord place number)) ++
    ["EndPlaces".toList, "BeginStreets".toList] ++
    city.streets.zipIdx.map (fun (street, number) => Field.line (streetRecord street number)) ++
    ["EndStreets".toList, "BeginItems".toList] ++
    (laidItems city).zipIdx.map
      (fun ((place, item), number) => Field.line (itemRecord place item number)) ++
    ["EndItems".toList, "EndCity".toList]

/-- A map that writes a city. -/
def render (city : City) : String :=
  String.ofList ((renderLines city).flatMap fun line => line ++ ['\n'])

end Rover.Atlas

namespace Rover

/-- A text that can stand between quotes on a line. -/
def IsQuotable (text : String) : Prop :=
  '"' ∉ text.toList ∧ '\n' ∉ text.toList

/-- A place whose own texts can be written. -/
structure Place.IsWritable (place : Place) : Prop where
  name : IsQuotable place.name
  description : IsQuotable place.description

/-- A street that a map can tell of, between two of the first `places` places. -/
structure Street.IsWritable (street : Street) (places : Nat) : Prop where
  source : street.source < places
  target : street.target < places
  direction : street.direction ≠ .unknown
  code : IsQuotable street.code
  door : street.isOpen = true → street.code = ""

/-- A kind of item that a map can tell of: garbage there has a single use. -/
def ItemKind.IsWritable : ItemKind → Prop
  | .fuel _ _ => True
  | .garbage _ times => times = .one
  | .codeCard code => IsQuotable code
  | .generic => False

/-- An item that a map can tell of. -/
structure Item.IsWritable (item : Item) : Prop where
  id : IsQuotable item.id
  description : IsQuotable item.description
  kind : item.kind.IsWritable

/--
A city that a map can tell of.  Every item is kept under its own key, and the
numbers of records have 64 bits.
-/
structure City.IsWritable (city : City) : Prop where
  nonempty : city.places ≠ []
  places : ∀ place ∈ city.places, place.IsWritable
  streets : ∀ street ∈ city.streets, street.IsWritable city.places.length
  items : ∀ place ∈ city.places, ∀ entry ∈ place.items.entries,
    entry.2.IsWritable ∧ entry.1 = entry.2.key
  placeCount : city.places.length ≤ UInt64.size
  streetCount : city.streets.length ≤ UInt64.size
  itemCount : (Atlas.laidItems city).length ≤ UInt64.size

end Rover
