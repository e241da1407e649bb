import Mathlib.Data.List.Basic
import Rover.City

/-!
# Streets and their doors

The course of a street is all of it but its door, and the plan of a city is all
of it but its doors and its items.  Which street leaves a place in a direction,
and where it leads, depends on the courses only, so work on doors never changes
it.  Seen from its far end a street leaves in the opposite
direction and leads back; if no two streets leave a place in one direction,
it is also the street that is found there.
-/

namespace Rover

namespace Street

/-- A street apart from whether its door is open. -/
def course (street : Street) : Street :=
  { street with isOpen := false }

theorem leaves_iff {street : Street} {place : PlaceId} {direction : Direction} :
    street.leaves place direction = true ↔
      (place = street.source ∧ direction = street.direction) ∨
        (place = street.target ∧ direction = street.direction.opposite) := by
  simp [leaves]

/-- A street that leaves a place has an end there, so it leads on. -/
theorem exists_farEnd?_of_leaves {street : Street} {place : PlaceId} {direction : Direction}
    (leaving : street.leaves place direction = true) :
    ∃ next, street.farEnd? place = some next ∧ (next = street.source ∨ next = street.target) := by
  unfold farEnd?
  split
  · exact ⟨_, rfl, Or.inr rfl⟩
  · rename_i notSource
    have atTarget : place = street.target := by
      rcases leaves_iff.mp leaving with ⟨atSource, -⟩ | ⟨atTarget, -⟩
      · exact absurd atSource notSource
      · exact atTarget
    rw [if_pos atTarget]
    exact ⟨_, rfl, Or.inl rfl⟩

/-- Seen from its far end, a street leaves in the opposite direction. -/
theorem leaves_farEnd? {street : Street} {place far : PlaceId} {direction : Direction}
    (leaving : street.leaves place direction = true) (leads : street.farEnd? place = some far) :
    street.leaves far direction.opposite = true := by
  rw [leaves_iff]
  unfold farEnd? at leads
  rcases leaves_iff.mp leaving with ⟨atSource, ahead⟩ | ⟨atTarget, back⟩
  · rw [if_pos atSource] at leads
    cases leads
    exact Or.inr ⟨rfl, congrArg Direction.opposite ahead⟩
  · have returning : direction.opposite = street.direction := by
      rw [back, Direction.opposite_opposite]
    by_cases atSource : place = street.source
    · rw [if_pos atSource] at leads
      cases leads
      exact Or.inl ⟨atTarget.symm.trans atSource, returning⟩
    · rw [if_neg atSource, if_pos atTarget] at leads
      cases leads
      exact Or.inl ⟨rfl, returning⟩

/-- Seen from its far end, a street leads back. -/
theorem farEnd?_farEnd? {street : Street} {place far : PlaceId}
    (leads : street.farEnd? place = some far) : street.farEnd? far = some place := by
  unfold farEnd? at leads ⊢
  split at leads
  · rename_i atSource
    cases leads
    by_cases loop : street.target = street.source
    · rw [if_pos loop, atSource, loop]
    · rw [if_neg loop, if_pos rfl, atSource]
  · split at leads
    · rename_i atTarget
      cases leads
      rw [if_pos rfl, atTarget]
    · cases leads

theorem toggle?_eq_some_iff {street worked : Street} {code : String} :
    street.toggle? code = some worked ↔
      street.accepts code = true ∧ worked = { street with isOpen := !street.isOpen } := by
  unfold toggle? lock? unlock?
  cases isOpen : street.isOpen <;> cases accepted : street.accepts code <;>
    simp [eq_comm]

theorem toggle?_toggle? {street worked : Street} {code : String}
    (done : street.toggle? code = some worked) : worked.toggle? code = some street := by
  obtain ⟨accepted, rfl⟩ := toggle?_eq_some_iff.mp done
  rw [toggle?_eq_some_iff]
  refine ⟨accepted, ?_⟩
  cases street
  simp

theorem course_unlock? {street worked : Street} {code : String}
    (done : street.unlock? code = some worked) : worked.course = street.course := by
  unfold unlock? at done
  split at done <;> cases done
  rfl

theorem course_lock? {street worked : Street} {code : String}
    (done : street.lock? code = some worked) : worked.course = street.course := by
  unfold lock? at done
  split at done <;> cases done
  rfl

theorem course_toggle? {street worked : Street} {code : String}
    (done : street.toggle? code = some worked) : worked.course = street.course := by
  unfold toggle? at done
  split at done
  · exact course_lock? done
  · exact course_unlock? done

end Street

namespace City

/-- The streets of a city apart from their doors. -/
def courses (city : City) : List Street :=
  city.streets.map Street.course

/-- A city apart from its doors and its items. -/
def plan (city : City) : City where
  places := city.places.map fun place => { place with items := .empty }
  streets := city.courses

theorem courses_eq_of_plan_eq {left right : City} (same : left.plan = right.plan) :
    left.courses = right.courses :=
  congrArg City.streets same

/-- Where one city has a street, a city with the same plan has one of the same course. -/
theorem exists_course_eq_of_plan_eq {left right : City} (same : left.plan = right.plan)
    {index : Nat} {street : Street} (found : left.streets[index]? = some street) :
    ∃ other, right.streets[index]? = some other ∧ street.course = other.course := by
  have courses := congrArg (fun list : List Street => list[index]?) (courses_eq_of_plan_eq same)
  simp only [City.courses, List.getElem?_map, found, Option.map_some] at courses
  rcases Option.map_eq_some_iff.mp courses.symm with ⟨other, present, sameCourse⟩
  exact ⟨other, present, sameCourse.symm⟩

theorem length_places_eq_of_plan_eq {left right : City} (same : left.plan = right.plan) :
    left.places.length = right.places.length := by
  simpa [plan] using congrArg (fun city => city.places.length) same

theorem plan_changeItems (city : City) (place : PlaceId) (change : Bag → Bag) :
    (city.changeItems place change).plan = city.plan := by
  simp only [plan, changeItems, City.mk.injEq]
  refine ⟨List.ext_getElem (by simp) fun index _ _ => ?_, rfl⟩
  simp only [List.getElem_map, List.getElem_modify]
  split <;> rfl

/-- No two entries of the list of streets leave the same place in the same direction. -/
def HasDistinctExits (city : City) : Prop :=
  city.streets.Pairwise fun earlier later =>
    ∀ place direction, ¬ (earlier.leaves place direction = true ∧
      later.leaves place direction = true)

theorem hasDistinctExits_of_courses_eq {left right : City} (same : left.courses = right.courses)
    (distinct : left.HasDistinctExits) : right.HasDistinctExits := by
  have onCourses : left.courses.Pairwise fun earlier later =>
      ∀ place direction, ¬ (earlier.leaves place direction = true ∧
        later.leaves place direction = true) := by
    rw [courses, List.pairwise_map]
    exact distinct
  rw [same, courses, List.pairwise_map] at onCourses
  exact onCourses

theorem streetIndex?_eq_of_courses_eq {left right : City} (same : left.courses = right.courses)
    (place : PlaceId) (direction : Direction) :
    left.streetIndex? place direction = right.streetIndex? place direction := by
  have onCourses : ∀ city : City, city.streetIndex? place direction =
      city.courses.findIdx? fun street => street.leaves place direction := by
    intro city
    rw [courses, List.findIdx?_map]
    rfl
  rw [onCourses left, onCourses right, same]

/-- With distinct exits, a street is found wherever it leaves. -/
theorem street?_eq_some_of_leaves {city : City} (distinct : city.HasDistinctExits)
    {street : Street} (member : street ∈ city.streets) {place : PlaceId} {direction : Direction}
    (leaving : street.leaves place direction = true) :
    city.street? place direction = some street := by
  obtain ⟨places, streets⟩ := city
  unfold HasDistinctExits at distinct
  unfold street?
  simp only at distinct member ⊢
  induction streets with
  | nil => cases member
  | cons head rest ih =>
      obtain ⟨apart, distinctRest⟩ := List.pairwise_cons.mp distinct
      rcases List.mem_cons.mp member with rfl | later
      · exact List.find?_cons_of_pos leaving
      · have headStays : ¬ head.leaves place direction = true := fun headLeaves =>
          apart street later place direction ⟨headLeaves, leaving⟩
        rw [List.find?_cons, Bool.eq_false_iff.mpr headStays]
        exact ih distinctRest later

/-! ## Work on doors -/

theorem workDoor?_eq_some_iff {city worked : City} {place : PlaceId} {direction : Direction}
    {work : Street → Option Street} :
    city.workDoor? place direction work = some worked ↔
      ∃ index street changed, city.streetIndex? place direction = some index ∧
        city.streets[index]? = some street ∧ work street = some changed ∧
        worked = { city with streets := city.streets.set index changed } := by
  simp only [workDoor?, Option.bind_eq_bind, Option.bind_eq_some_iff, Option.some.injEq]
  constructor
  · rintro ⟨index, chosen, street, found, changed, done, rfl⟩
    exact ⟨index, street, changed, chosen, found, done, rfl⟩
  · rintro ⟨index, street, changed, chosen, found, done, rfl⟩
    exact ⟨index, chosen, street, found, changed, done, rfl⟩

theorem courses_workDoor? {city worked : City} {place : PlaceId} {direction : Direction}
    {work : Street → Option Street}
    (kept : ∀ street changed, work street = some changed → changed.course = street.course)
    (done : city.workDoor? place direction work = some worked) :
    worked.courses = city.courses := by
  obtain ⟨index, street, changed, -, found, finished, rfl⟩ := workDoor?_eq_some_iff.mp done
  obtain ⟨inside, rfl⟩ := List.getElem?_eq_some_iff.mp found
  have unchanged : (city.streets.map Street.course).set index city.streets[index].course =
      city.streets.map Street.course := by
    rw [← List.map_set, List.set_getElem_self]
  rw [courses, courses, List.map_set, kept _ _ finished, unchanged]

theorem plan_workDoor? {city worked : City} {place : PlaceId} {direction : Direction}
    {work : Street → Option Street}
    (kept : ∀ street changed, work street = some changed → changed.course = street.course)
    (done : city.workDoor? place direction work = some worked) : worked.plan = city.plan := by
  rw [plan, plan, places_workDoor? done, courses_workDoor? kept done]

/-- A code card that has worked a door works it back. -/
theorem workDoor?_toggle?_twice {city worked : City} {place : PlaceId} {direction : Direction}
    {code : String}
    (done : city.workDoor? place direction (fun street => street.toggle? code) = some worked) :
    worked.workDoor? place direction (fun street => street.toggle? code) = some city := by
  have sameCourses : worked.courses = city.courses :=
    courses_workDoor? (fun _ _ => Street.course_toggle?) done
  obtain ⟨index, street, changed, chosen, found, toggled, rfl⟩ := workDoor?_eq_some_iff.mp done
  obtain ⟨inside, rfl⟩ := List.getElem?_eq_some_iff.mp found
  rw [workDoor?_eq_some_iff]
  refine ⟨index, changed, city.streets[index], ?_, ?_, Street.toggle?_toggle? toggled, ?_⟩
  · rw [streetIndex?_eq_of_courses_eq sameCourses, chosen]
  · simp [inside]
  · rw [List.set_set, List.set_getElem_self]

end City

end Rover
