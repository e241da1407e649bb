import Rover.Proofs.Attempt
import Rover.Proofs.Navigation

/-!
# The choice of a street

Of the streets that leave a place in a direction the first in the list is
chosen, for a walk as for work on its door.  Doors play no part in the choice, so
no calls on doors change it.  A street that leaves a place leads on to another,
or to the same one, from where it leaves the opposite way and leads back.  That
the choice made there is the same street takes a city with distinct exits; in
such a city every move can be taken back, and every move back made again.
-/

namespace Rover

namespace Street

/-- A call on the door of a street. -/
inductive DoorCall where
  | unlock (code : String)
  | lock (code : String)
  deriving DecidableEq, Repr

/-- What a call makes of a street, for who has the code. -/
def DoorCall.answer? : DoorCall → Street → Option Street
  | .unlock code, street => street.unlock? code
  | .lock code, street => street.lock? code

/-- The street after a call on its door; a refused call changes nothing. -/
def afterCall (street : Street) (call : DoorCall) : Street :=
  (call.answer? street).getD street

theorem course_afterCall (street : Street) (call : DoorCall) :
    (street.afterCall call).course = street.course := by
  rw [afterCall]
  cases answered : call.answer? street with
  | none => rfl
  | some changed =>
      cases call with
      | unlock code => exact course_unlock? answered
      | lock code => exact course_lock? answered

end Street

namespace City

variable {city worked : City} {place : PlaceId} {direction : Direction} {index : Nat}
  {street : Street}

/-- The street of a number leaves a place in a direction, and none before it does. -/
structure IsChoice (city : City) (place : PlaceId) (direction : Direction) (index : Nat)
    (street : Street) : Prop where
  present : city.streets[index]? = some street
  leaves : street.leaves place direction = true
  first : ∀ earlier other, earlier < index → city.streets[earlier]? = some other →
    other.leaves place direction = false

/-! ## What is chosen -/

theorem streetIndex?_eq_some_iff :
    city.streetIndex? place direction = some index ↔
      ∃ street, city.IsChoice place direction index street := by
  rw [streetIndex?, List.findIdx?_eq_some_iff_getElem]
  constructor
  · rintro ⟨inside, leaving, first⟩
    refine ⟨city.streets[index], List.getElem?_eq_getElem inside, leaving, ?_⟩
    intro earlier other before present
    rcases List.getElem?_eq_some_iff.mp present with ⟨_, rfl⟩
    exact Bool.eq_false_iff.mpr (first earlier before)
  · rintro ⟨street, present, leaving, first⟩
    rcases List.getElem?_eq_some_iff.mp present with ⟨inside, rfl⟩
    refine ⟨inside, leaving, fun earlier before => ?_⟩
    have within := Nat.lt_trans before inside
    exact Bool.eq_false_iff.mp (first earlier _ before (List.getElem?_eq_getElem within))

theorem street?_eq_some_iff :
    city.street? place direction = some street ↔
      ∃ index, city.IsChoice place direction index street := by
  rw [street?, List.find?_eq_some_iff_getElem]
  constructor
  · rintro ⟨leaving, index, inside, rfl, first⟩
    refine ⟨index, List.getElem?_eq_getElem inside, leaving, ?_⟩
    intro earlier other before present
    rcases List.getElem?_eq_some_iff.mp present with ⟨_, rfl⟩
    exact Bool.not_eq_true' _ ▸ first earlier before
  · rintro ⟨index, present, leaving, first⟩
    rcases List.getElem?_eq_some_iff.mp present with ⟨inside, rfl⟩
    refine ⟨leaving, index, inside, rfl, fun earlier before => ?_⟩
    have within := Nat.lt_trans before inside
    rw [first earlier _ before (List.getElem?_eq_getElem within)]
    rfl

theorem street?_eq_none_iff :
    city.street? place direction = none ↔
      ∀ street ∈ city.streets, street.leaves place direction = false := by
  rw [street?, List.find?_eq_none]
  exact forall₂_congr fun _ _ => Bool.eq_false_iff.symm

/-- Work on a door is work on the street of the choice. -/
theorem workDoor?_eq_some_iff_isChoice {work : Street → Option Street} :
    city.workDoor? place direction work = some worked ↔
      ∃ index street changed, city.IsChoice place direction index street ∧
        work street = some changed ∧
        worked = { city with streets := city.streets.set index changed } := by
  rw [workDoor?_eq_some_iff]
  constructor
  · rintro ⟨index, street, changed, chosen, found, done, same⟩
    rcases streetIndex?_eq_some_iff.mp chosen with ⟨other, choice⟩
    cases found.symm.trans choice.present
    exact ⟨index, street, changed, choice, done, same⟩
  · rintro ⟨index, street, changed, choice, done, same⟩
    exact ⟨index, street, changed, streetIndex?_eq_some_iff.mpr ⟨street, choice⟩,
      choice.present, done, same⟩

/-! ## Calls on doors -/

/-- A city after a call on the door of the street of a number. -/
def afterCall (city : City) (call : Nat × Street.DoorCall) : City :=
  { city with
    streets := city.streets.modify call.1 fun street => street.afterCall call.2 }

theorem courses_afterCall (city : City) (call : Nat × Street.DoorCall) :
    (city.afterCall call).courses = city.courses := by
  refine List.ext_getElem? fun index => ?_
  rw [courses, courses, afterCall, List.getElem?_map, List.getElem?_map, List.getElem?_modify,
    Option.map_eq_map, Option.map_map]
  refine congrFun (congrArg Option.map (funext fun street => ?_)) _
  rw [Function.comp_apply]
  split
  · exact street.course_afterCall call.2
  · rfl

theorem courses_foldl_afterCall (city : City) (calls : List (Nat × Street.DoorCall)) :
    (calls.foldl afterCall city).courses = city.courses := by
  induction calls generalizing city with
  | nil => rfl
  | cons call calls ih => rw [List.foldl_cons, ih, courses_afterCall]

/-- A call on the door of the choice is a call on the street of its number. -/
theorem exists_afterCall_of_workDoor? {call : Street.DoorCall}
    (done : city.workDoor? place direction call.answer? = some worked) :
    ∃ index, city.streetIndex? place direction = some index ∧
      worked = city.afterCall (index, call) := by
  rcases workDoor?_eq_some_iff.mp done with ⟨index, street, changed, chosen, found, answered, rfl⟩
  refine ⟨index, chosen, ?_⟩
  rw [afterCall, List.modify_eq_set_getElem?, found]
  simp [Street.afterCall, answered]

end City

namespace Navigation

variable {navigation moved : Navigation} {told : List Event}

/-- A walk in a direction is done exactly if it leads somewhere, and tells so. -/
theorem walk_bind_eq_done_iff {direction : Direction} :
    (do match ← navigation.walk direction with
        | .error failure => return (.failed failure, navigation, [])
        | .ok after => return (.done, after, [after.arrived direction])) =
        Except.ok (Reply.done, moved, told) ↔
      navigation.walk direction = .ok (.ok moved) ∧ told = [moved.arrived direction] := by
  constructor
  · intro served
    rcases bind_eq_ok_iff.mp served with ⟨failure | after, went, answered⟩
    · cases answered
    · cases answered
      exact ⟨went, rfl⟩
  · rintro ⟨went, rfl⟩
    exact bind_eq_ok_iff.mpr ⟨.ok moved, went, rfl⟩

theorem serve_move_eq_done_iff :
    navigation.serve .move = .ok (.done, moved, told) ↔
      navigation.walk navigation.heading = .ok (.ok moved) ∧
        told = [moved.arrived navigation.heading] :=
  walk_bind_eq_done_iff

theorem serve_moveBack_eq_done_iff :
    navigation.serve .moveBack = .ok (.done, moved, told) ↔
      navigation.walk navigation.heading.opposite = .ok (.ok moved) ∧
        told = [moved.arrived navigation.heading.opposite] :=
  walk_bind_eq_done_iff

/-- In a city with distinct exits, a move back after a move leads back, and tells so. -/
theorem serve_moveBack_of_move (distinct : navigation.city.HasDistinctExits)
    (served : navigation.serve .move = .ok (.done, moved, told)) :
    moved.serve .moveBack =
      .ok (.done, navigation, [navigation.arrived navigation.heading.opposite]) := by
  have went := (serve_move_eq_done_iff.mp served).1
  have sameHeading : moved.heading = navigation.heading := (walk_eq_moved_iff.mp went).2.2
  refine serve_moveBack_eq_done_iff.mpr ⟨?_, by rw [sameHeading]⟩
  rw [sameHeading]
  exact walk_opposite distinct went

/-- In a city with distinct exits, a move after a move back leads back, and tells so. -/
theorem serve_move_of_moveBack (distinct : navigation.city.HasDistinctExits)
    (served : navigation.serve .moveBack = .ok (.done, moved, told)) :
    moved.serve .move = .ok (.done, navigation, [navigation.arrived navigation.heading]) := by
  have went := (serve_moveBack_eq_done_iff.mp served).1
  have sameHeading : moved.heading = navigation.heading := (walk_eq_moved_iff.mp went).2.2
  have returns := walk_opposite distinct went
  rw [Direction.opposite_opposite] at returns
  exact serve_move_eq_done_iff.mpr ⟨by rw [sameHeading, returns], by rw [sameHeading]⟩

end Navigation

/--
The choice of a street is the first that leaves the place in the direction, for
looking as for work on its door.  No calls on any doors change it.  A street leads
to a place from where it leaves the opposite way and leads back.  So in a city
with distinct exits a move is taken back by a move back, and the other way round.
-/
theorem street_choice_is_symmetric_and_blind_to_doors :
    (∀ (city : City) (place : PlaceId) (direction : Direction),
      (∀ index, city.streetIndex? place direction = some index ↔
        ∃ street, city.IsChoice place direction index street) ∧
      (∀ street, city.street? place direction = some street ↔
        ∃ index, city.IsChoice place direction index street) ∧
      (city.street? place direction = none ↔
        ∀ street ∈ city.streets, street.leaves place direction = false) ∧
      ∀ work worked, city.workDoor? place direction work = some worked ↔
        ∃ index street changed, city.IsChoice place direction index street ∧
          work street = some changed ∧
          worked = { city with streets := city.streets.set index changed }) ∧
    (∀ (city : City) (place : PlaceId) (direction : Direction),
      (∀ call worked, city.workDoor? place direction (Street.DoorCall.answer? call) = some worked →
        ∃ index, city.streetIndex? place direction = some index ∧
          worked = city.afterCall (index, call)) ∧
      ∀ calls : List (Nat × Street.DoorCall),
        (calls.foldl City.afterCall city).streetIndex? place direction =
          city.streetIndex? place direction) ∧
    (∀ (street : Street) (place : PlaceId) (direction : Direction),
      street.leaves place direction = true →
        ∃ far, street.farEnd? place = some far ∧
          street.leaves far direction.opposite = true ∧ street.farEnd? far = some place) ∧
    ∀ navigation : Navigation, navigation.city.HasDistinctExits →
      (∀ moved told, navigation.serve .move = .ok (.done, moved, told) →
        ∃ toldBack, moved.serve .moveBack = .ok (.done, navigation, toldBack)) ∧
      ∀ moved told, navigation.serve .moveBack = .ok (.done, moved, told) →
        ∃ toldAgain, moved.serve .move = .ok (.done, navigation, toldAgain) := by
  refine ⟨fun city place direction => ?_, fun city place direction => ⟨?_, fun calls => ?_⟩,
    fun street place direction leaving => ?_, fun navigation distinct => ?_⟩
  · exact ⟨fun _ => City.streetIndex?_eq_some_iff, fun _ => City.street?_eq_some_iff,
      City.street?_eq_none_iff, fun _ _ => City.workDoor?_eq_some_iff_isChoice⟩
  · exact fun _ _ done => City.exists_afterCall_of_workDoor? done
  · exact City.streetIndex?_eq_of_courses_eq (City.courses_foldl_afterCall city calls) _ _
  · rcases Street.exists_farEnd?_of_leaves leaving with ⟨far, leads, -⟩
    exact ⟨far, leads, Street.leaves_farEnd? leaving leads, Street.farEnd?_farEnd? leads⟩
  · exact ⟨fun _ _ served => ⟨_, Navigation.serve_moveBack_of_move distinct served⟩,
      fun _ _ served => ⟨_, Navigation.serve_move_of_moveBack distinct served⟩⟩

/-- A yard with a path that comes back to it, and a street from the hall with a door. -/
def crossing : City where
  places := [⟨"Yard", "A yard", false, .empty⟩, ⟨"Hall", "A hall", false, .empty⟩]
  streets := [⟨0, .north, 0, true, ""⟩, ⟨1, .west, 0, true, "red"⟩]

/-- A robot in the yard. -/
def atTheCrossing (heading : Direction) : Navigation where
  city := crossing
  current := 0
  heading := heading
  exists_current := by decide

theorem crossing_hasDistinctExits : crossing.HasDistinctExits := by
  refine List.pairwise_pair.mpr ?_
  rintro place direction ⟨path, street⟩
  rw [Street.leaves_iff] at path street
  rcases path with ⟨rfl, rfl⟩ | ⟨rfl, rfl⟩ <;> rcases street with ⟨_, other⟩ | ⟨_, other⟩ <;>
    cases other

/-- The yard is left and reached again by its path, and the street from the hall is shut there. -/
theorem crossing_is_walked_both_ways :
    crossing.workDoor? 0 .east (Street.DoorCall.answer? (.lock "RED")) =
      some { crossing with streets := [⟨0, .north, 0, true, ""⟩, ⟨1, .west, 0, false, "red"⟩] } ∧
    (∃ index, crossing.streetIndex? 0 .east = some index ∧
      { crossing with streets := [⟨0, .north, 0, true, ""⟩, ⟨1, .west, 0, false, "red"⟩] } =
        crossing.afterCall (index, .lock "RED")) ∧
    Street.leaves ⟨0, .north, 0, true, ""⟩ 0 .south = true ∧
    (∃ far, Street.farEnd? ⟨0, .north, 0, true, ""⟩ 0 = some far ∧
      Street.leaves ⟨0, .north, 0, true, ""⟩ far .north = true ∧
      Street.farEnd? ⟨0, .north, 0, true, ""⟩ far = some 0) ∧
    (∃ moved told, (atTheCrossing .east).serve .move = .ok (.done, moved, told) ∧
      ∃ toldBack, moved.serve .moveBack = .ok (.done, atTheCrossing .east, toldBack)) ∧
    ∃ moved told, (atTheCrossing .west).serve .moveBack = .ok (.done, moved, told) ∧
      ∃ toldAgain, moved.serve .move = .ok (.done, atTheCrossing .west, toldAgain) := by
  rcases street_choice_is_symmetric_and_blind_to_doors with ⟨-, doors, ends, walks⟩
  have shut : crossing.workDoor? 0 .east (Street.DoorCall.answer? (.lock "RED")) =
      some { crossing with
        streets := [⟨0, .north, 0, true, ""⟩, ⟨1, .west, 0, false, "red"⟩] } := by
    decide +kernel
  have leaving : Street.leaves ⟨0, .north, 0, true, ""⟩ 0 .south = true := by decide
  have there := (walks (atTheCrossing .east) crossing_hasDistinctExits).1 _ _ rfl
  have back := (walks (atTheCrossing .west) crossing_hasDistinctExits).2 _ _ rfl
  exact ⟨shut, (doors crossing 0 .east).1 _ _ shut, leaving, ends _ _ _ leaving,
    ⟨_, _, rfl, there⟩, ⟨_, _, rfl, back⟩⟩

end Rover
