import Rover.Bag
import Rover.Compass

/-!
# Cities

A city is a list of places and a list of streets between them.  A place is
known by its number in the list, so two places with the same name and the same
things in them are still two places.  A street can be walked both ways: its
target lies in its direction from its source, and its source in the opposite
direction from its target.

Of several streets that leave a place in one direction, the first in the list
counts.  Whether its door is open plays no part in that choice.
-/

namespace Rover

/-- The number of a place in its city. -/
abbrev PlaceId := Nat

/-- The label of a place that messages give. -/
def placeLabel (place : PlaceId) : String :=
  s!"place#{place}"

/-- What an onlooker sees of a place: no more than the identifiers of its items. -/
structure PlaceView where
  name : String
  description : String
  isSpaceship : Bool
  items : List String
  deriving DecidableEq, Repr

/-- A place with the items that lie there. -/
structure Place where
  name : String
  description : String
  isSpaceship : Bool
  items : Bag
  deriving DecidableEq

/-- What an onlooker sees of the place now. -/
def Place.view (place : Place) : PlaceView where
  name := place.name
  description := place.description
  isSpaceship := place.isSpaceship
  items := place.items.ids

/-- A street, with a door that may be shut and the code that works the door. -/
structure Street where
  source : PlaceId
  direction : Direction
  target : PlaceId
  isOpen : Bool
  code : String
  deriving DecidableEq, Repr

namespace Street

/-- Whether a street leaves a place in a direction. -/
def leaves (street : Street) (place : PlaceId) (direction : Direction) : Bool :=
  (place == street.source && direction == street.direction) ||
    (place == street.target && direction == street.direction.opposite)

/-- The place at the other end, seen from a place on the street. -/
def farEnd? (street : Street) (place : PlaceId) : Option PlaceId :=
  if place = street.source then
    some street.target
  else if place = street.target then
    some street.source
  else
    none

/-- Whether a code works the door, whatever its case. -/
def accepts (street : Street) (code : String) : Bool :=
  Text.lowercase street.code == Text.lowercase code

/-- The street with its door open, for who has the code. -/
def unlock? (street : Street) (code : String) : Option Street :=
  if street.accepts code then some { street with isOpen := true } else none

/-- The street with its door shut, for who has the code. -/
def lock? (street : Street) (code : String) : Option Street :=
  if street.accepts code then some { street with isOpen := false } else none

/-- The street with its door shut if it was open and open if it was shut, for who has the code. -/
def toggle? (street : Street) (code : String) : Option Street :=
  if street.isOpen then street.lock? code else street.unlock? code

end Street

/-- Places, and the streets between them. -/
structure City where
  places : List Place
  streets : List Street
  deriving DecidableEq

namespace City

/-- The city without places. -/
def empty : City := ⟨[], []⟩

/-- A city with one more place, whose number is the count of the places before it. -/
def addPlace (city : City) (place : Place) : City :=
  { city with places := city.places ++ [place] }

/-- A city with one more street, behind all others in the choice of a street. -/
def addStreet (city : City) (street : Street) : City :=
  { city with streets := city.streets ++ [street] }

/-- The place of a number. -/
def place? (city : City) (place : PlaceId) : Option Place :=
  city.places[place]?

/-- The place of a number; a number beyond the city is a fault. -/
def placeAt (city : City) (place : PlaceId) : Except Fault Place :=
  match city.place? place with
  | some found => .ok found
  | none => .error (.outOfRange city.places.length place)

/-- The street of a number; a number beyond the list is a fault. -/
def streetAt (city : City) (index : Nat) : Except Fault Street :=
  match city.streets[index]? with
  | some found => .ok found
  | none => .error (.outOfRange city.streets.length index)

/-- A city in which the items of a place are changed. -/
def changeItems (city : City) (place : PlaceId) (change : Bag → Bag) : City :=
  { city with
    places := city.places.modify place fun found => { found with items := change found.items } }

/-- The number of the first street that leaves a place in a direction. -/
def streetIndex? (city : City) (place : PlaceId) (direction : Direction) : Option Nat :=
  city.streets.findIdx? fun street => street.leaves place direction

/-- The first street that leaves a place in a direction. -/
def street? (city : City) (place : PlaceId) (direction : Direction) : Option Street :=
  city.streets.find? fun street => street.leaves place direction

/--
The city after work on the door of the first street that leaves a place in a
direction; nothing if there is no such street or the work is refused.
-/
def workDoor? (city : City) (place : PlaceId) (direction : Direction)
    (work : Street → Option Street) : Option City := do
  let index ← city.streetIndex? place direction
  let street ← city.streets[index]?
  let worked ← work street
  some { city with streets := city.streets.set index worked }

@[simp]
theorem length_places_changeItems (city : City) (place : PlaceId) (change : Bag → Bag) :
    (city.changeItems place change).places.length = city.places.length := by
  simp [changeItems]

theorem places_workDoor? {city worked : City} {place : PlaceId} {direction : Direction}
    {work : Street → Option Street} (done : city.workDoor? place direction work = some worked) :
    worked.places = city.places := by
  simp only [workDoor?, Option.bind_eq_bind, Option.bind_eq_some_iff, Option.some.injEq] at done
  obtain ⟨_, _, _, _, _, _, rfl⟩ := done
  rfl

end City

end Rover
