import Rover.Event
import Rover.Failure

/-!
# Navigation

Where a robot is in its city, and which way it looks.  The place where it
stands always exists: that is part of the type, so `here` needs no check.

A walk takes the first street that leaves the place in a direction, if its door
is open.  The one thing that can go wrong beyond that is a street that leads to
a place which the city does not have; walking there is a fault.
-/

namespace Rover

/-- A city with a robot at one of its places. -/
structure Navigation where
  city : City
  current : PlaceId
  heading : Direction
  exists_current : current < city.places.length

namespace Navigation

@[ext]
theorem ext {left right : Navigation} (city : left.city = right.city)
    (current : left.current = right.current) (heading : left.heading = right.heading) :
    left = right := by
  cases left
  cases right
  cases city
  cases current
  cases heading
  rfl

/-- A robot set on a place, looking north if the heading is unknown. -/
def start (city : City) (place : PlaceId) (heading : Direction) : Except Fault Navigation :=
  if inside : place < city.places.length then
    .ok ⟨city, place, if heading.isKnown then heading else .north, inside⟩
  else
    .error (.strayStart place)

/-- The place where the robot stands. -/
def here (navigation : Navigation) : Place :=
  navigation.city.places.get ⟨navigation.current, navigation.exists_current⟩

/-- What an onlooker sees of the place where the robot stands. -/
def view (navigation : Navigation) : PlaceView :=
  navigation.here.view

/-- Whether the robot stands at a spaceship. -/
def atSpaceship (navigation : Navigation) : Bool :=
  navigation.here.isSpaceship

/-- The street that the robot looks along. -/
def streetAhead? (navigation : Navigation) : Option Street :=
  navigation.city.street? navigation.current navigation.heading

/-! ## Walking and turning -/

/-- The place to which a walk in a direction leads. -/
def route (navigation : Navigation) (direction : Direction) : Except Failure PlaceId :=
  match navigation.city.street? navigation.current direction with
  | none => .error (.noStreet direction)
  | some street =>
      if street.isOpen then
        match street.farEnd? navigation.current with
        | some place => .ok place
        | none => .error (.noStreet direction)
      else
        .error .streetClosed

/-- The robot at another place; a place that the city does not have is a fault. -/
def arrive (navigation : Navigation) (place : PlaceId) : Except Fault Navigation :=
  if inside : place < navigation.city.places.length then
    .ok { navigation with current := place, exists_current := inside }
  else
    .error (.outOfRange navigation.city.places.length place)

/-- The robot after a walk in a direction, or why it could not walk there. -/
def walk (navigation : Navigation) (direction : Direction) :
    Except Fault (Except Failure Navigation) :=
  match navigation.route direction with
  | .error failure => .ok (.error failure)
  | .ok place => (navigation.arrive place).map .ok

/-- The robot after a turn. -/
def rotate (navigation : Navigation) (rotation : Rotation) : Navigation :=
  { navigation with heading := navigation.heading.rotate rotation }

/-! ## Items at the place -/

/-- Whether an identifier, in any case, stands for an item at the place. -/
def holds (navigation : Navigation) (id : String) : Bool :=
  navigation.here.items.contains id

/-- The robot with the items at its place changed. -/
def changeItems (navigation : Navigation) (change : Bag → Bag) : Navigation :=
  { navigation with
    city := navigation.city.changeItems navigation.current change
    exists_current := by simpa using navigation.exists_current }

/-- The item that an identifier stands for taken from the place. -/
def take? (navigation : Navigation) (id : String) : Option (Item × Navigation) :=
  (navigation.here.items.find? id).map fun item =>
    (item, navigation.changeItems fun items => items.remove id)

/-- An item laid down at the place, unless one with its key lies there already. -/
def lay? (navigation : Navigation) (item : Item) : Option Navigation :=
  if navigation.holds item.id then
    none
  else
    some (navigation.changeItems fun items => items.add item)

/-! ## The door ahead -/

/-- The city after work on the door of the street ahead. -/
def workDoorAhead? (navigation : Navigation) (work : Street → Option Street) :
    Option Navigation :=
  match equation :
      navigation.city.workDoor? navigation.current navigation.heading work with
  | none => none
  | some city =>
      some
        { navigation with
          city
          exists_current := by
            rw [City.places_workDoor? equation]
            exact navigation.exists_current }

/-- The door ahead shut if it was open and open if it was shut, for who has the code. -/
def toggleAhead? (navigation : Navigation) (code : String) : Option Navigation :=
  navigation.workDoorAhead? fun street => street.toggle? code

/-- The door ahead opened, for who has the code. -/
def unlockAhead? (navigation : Navigation) (code : String) : Option Navigation :=
  navigation.workDoorAhead? fun street => street.unlock? code

/-- The door ahead shut, for who has the code. -/
def lockAhead? (navigation : Navigation) (code : String) : Option Navigation :=
  navigation.workDoorAhead? fun street => street.lock? code

/-! ## Events -/

/-- The place where the robot starts and the way it looks. -/
def readied (navigation : Navigation) : Event :=
  .navigationInitialized navigation.view navigation.heading

/-- The place has gained or lost an item. -/
def changed (navigation : Navigation) : Event :=
  .placeChanged navigation.view

/-- The robot has looked about. -/
def scanned (navigation : Navigation) : Event :=
  .placeScanned navigation.view

/-- The robot has come to the place, walking in a direction. -/
def arrived (navigation : Navigation) (travel : Direction) : Event :=
  .robotArrived travel navigation.view

/-- The robot has turned. -/
def turned (navigation : Navigation) : Event :=
  .headingChanged navigation.heading

/-! ## Requests -/

/-- What a robot can be asked about its way, its place and the door ahead. -/
inductive Request where
  /-- Tell onlookers where the robot starts. -/
  | init
  | move
  | moveBack
  | rotate (rotation : Rotation)
  | holds (id : String)
  | take (id : String)
  | lay (item : Item)
  /-- Tell onlookers what lies at the place. -/
  | scan
  /-- Tell onlookers that the place has changed. -/
  | update
  | ahead
  | unlock (code : String)
  | lock (code : String)
  deriving DecidableEq, Repr

/-- What a robot answers about its way, its place and the door ahead. -/
inductive Reply where
  | done
  | failed (failure : Failure)
  | truth (value : Bool)
  | item (found : Option Item)
  | street (found : Option Street)
  /-- Whether the code worked the door, if there is a street ahead. -/
  | door (worked : Option Bool)
  deriving DecidableEq, Repr

/-- The reply to work on the door ahead, and the robot afterwards. -/
def doorReply (navigation : Navigation) (worked? : Option Navigation) :
    Reply × Navigation × List Event :=
  (.door (navigation.streetAhead?.map fun _ => worked?.isSome), worked?.getD navigation, [])

/-- The reply to a request, the robot afterwards, and what onlookers are told. -/
def serve (navigation : Navigation) :
    Request → Except Fault (Reply × Navigation × List Event)
  | .init => return (.done, navigation, [navigation.readied])
  | .move => do
      match ← navigation.walk navigation.heading with
      | .error failure => return (.failed failure, navigation, [])
      | .ok moved => return (.done, moved, [moved.arrived navigation.heading])
  | .moveBack => do
      match ← navigation.walk navigation.heading.opposite with
      | .error failure => return (.failed failure, navigation, [])
      | .ok moved => return (.done, moved, [moved.arrived navigation.heading.opposite])
  | .rotate rotation =>
      return (.done, navigation.rotate rotation, [(navigation.rotate rotation).turned])
  | .holds id => return (.truth (navigation.holds id), navigation, [])
  | .take id =>
      match navigation.take? id with
      | some (item, left) => return (.item (some item), left, [])
      | none => return (.item none, navigation, [])
  | .lay item =>
      match navigation.lay? item with
      | some laid => return (.truth true, laid, [laid.changed])
      | none => return (.truth false, navigation, [])
  | .scan => return (.done, navigation, [navigation.scanned])
  | .update => return (.done, navigation, [navigation.changed])
  | .ahead => return (.street navigation.streetAhead?, navigation, [])
  | .unlock code => return navigation.doorReply (navigation.unlockAhead? code)
  | .lock code => return navigation.doorReply (navigation.lockAhead? code)

end Navigation

end Rover
