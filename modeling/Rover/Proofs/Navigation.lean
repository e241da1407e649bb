import Rover.Navigation
import Rover.Proofs.Streets

/-!
# A robot on its way

Where the robot is, what lies there and which door is ahead.  To change the
items at the place touches nothing else.  In a city with distinct exits a walk
is retraced by a walk in the opposite direction, and a door that has been
worked with a code is worked back with the same code.
-/

namespace Rover.Navigation

/-! ## Items at the place -/

theorem here_changeItems (navigation : Navigation) (change : Bag → Bag) :
    (navigation.changeItems change).here =
      { navigation.here with items := change navigation.here.items } := by
  simp [here, changeItems, City.changeItems]

@[simp]
theorem items_changeItems (navigation : Navigation) (change : Bag → Bag) :
    (navigation.changeItems change).here.items = change navigation.here.items := by
  rw [here_changeItems]

theorem changeItems_changeItems (navigation : Navigation) (first second : Bag → Bag) :
    (navigation.changeItems first).changeItems second =
      navigation.changeItems (second ∘ first) := by
  apply ext
  · simp only [changeItems, City.changeItems, List.modify_modify_eq]
    rfl
  · rfl
  · rfl

theorem plan_changeItems (navigation : Navigation) (change : Bag → Bag) :
    (navigation.changeItems change).city.plan = navigation.city.plan :=
  City.plan_changeItems _ _ _

/-- What holds of all bags of a city still holds of them when it holds of the changed bag. -/
theorem forall_items_changeItems {navigation : Navigation} {change : Bag → Bag}
    {property : Bag → Prop} (holds : ∀ place ∈ navigation.city.places, property place.items)
    (changed : property (change navigation.here.items)) :
    ∀ place ∈ (navigation.changeItems change).city.places, property place.items := by
  intro place member
  obtain ⟨index, inside, rfl⟩ := List.getElem_of_mem member
  simp only [changeItems, City.changeItems, List.length_modify] at inside
  simp only [changeItems, City.changeItems, List.getElem_modify]
  split
  · rename_i here
    subst here
    exact changed
  · exact holds _ (List.getElem_mem inside)

theorem changeItems_eq_self {navigation : Navigation} {change : Bag → Bag}
    (kept : change navigation.here.items = navigation.here.items) :
    navigation.changeItems change = navigation := by
  obtain ⟨⟨places, streets⟩, current, heading, inside⟩ := navigation
  apply ext
  · simp only [changeItems, City.changeItems, City.mk.injEq, and_true]
    simp only [here, List.get_eq_getElem] at kept
    apply List.ext_getElem (by simp)
    intro index _ _
    rw [List.getElem_modify]
    split
    · rename_i same
      subst same
      rw [kept]
    · rfl
  · rfl
  · rfl

/-! ## Walking -/

theorem route_eq_ok_iff {navigation : Navigation} {direction : Direction} {place : PlaceId} :
    navigation.route direction = .ok place ↔
      ∃ street, navigation.city.street? navigation.current direction = some street ∧
        street.isOpen = true ∧ street.farEnd? navigation.current = some place := by
  unfold route
  cases navigation.city.street? navigation.current direction with
  | none => simp
  | some street =>
      cases isOpen : street.isOpen <;> cases far : street.farEnd? navigation.current <;>
        simp [isOpen, far]

theorem walk_eq_moved_iff {navigation moved : Navigation} {direction : Direction} :
    navigation.walk direction = .ok (.ok moved) ↔
      navigation.route direction = .ok moved.current ∧ moved.city = navigation.city ∧
        moved.heading = navigation.heading := by
  unfold walk
  cases navigation.route direction with
  | error failure => simp
  | ok place =>
      simp only [arrive]
      constructor
      · intro walked
        split at walked
        · cases walked
          exact ⟨rfl, rfl, rfl⟩
        · cases walked
      · rintro ⟨led, sameCity, sameHeading⟩
        cases led
        rw [dif_pos (sameCity ▸ moved.exists_current)]
        refine congrArg (fun reached => Except.ok (Except.ok reached)) ?_
        exact ext sameCity.symm rfl sameHeading.symm

/-- A walk is a fault only if the street leads to a place that the city does not have. -/
theorem walk_eq_error_iff {navigation : Navigation} {direction : Direction} {fault : Fault} :
    navigation.walk direction = .error fault ↔
      ∃ place, navigation.route direction = .ok place ∧
        navigation.city.places.length ≤ place ∧
          fault = .outOfRange navigation.city.places.length place := by
  unfold walk
  cases navigation.route direction with
  | error failure => simp
  | ok place =>
      simp only [arrive]
      split
      · rename_i inside
        simp [Except.map, Nat.not_le.mpr inside]
      · rename_i outside
        simp [Except.map, Nat.not_lt.mp outside, eq_comm]

/-- In a city with distinct exits, a walk is retraced by a walk in the opposite direction. -/
theorem walk_opposite {navigation moved : Navigation} {direction : Direction}
    (distinct : navigation.city.HasDistinctExits)
    (walked : navigation.walk direction = .ok (.ok moved)) :
    moved.walk direction.opposite = .ok (.ok navigation) := by
  obtain ⟨led, sameCity, sameHeading⟩ := walk_eq_moved_iff.mp walked
  obtain ⟨street, found, isOpen, leads⟩ := route_eq_ok_iff.mp led
  have leaving : street.leaves navigation.current direction = true := by
    simpa using List.find?_some found
  have returning : street.leaves moved.current direction.opposite = true :=
    Street.leaves_farEnd? leaving leads
  rw [walk_eq_moved_iff]
  refine ⟨route_eq_ok_iff.mpr ⟨street, ?_, isOpen, Street.farEnd?_farEnd? leads⟩,
    sameCity.symm, sameHeading.symm⟩
  rw [sameCity]
  exact City.street?_eq_some_of_leaves distinct (List.mem_of_find?_eq_some found) returning

/-! ## The door ahead -/

theorem workDoorAhead?_eq_some_iff {navigation worked : Navigation}
    {work : Street → Option Street} :
    navigation.workDoorAhead? work = some worked ↔
      navigation.city.workDoor? navigation.current navigation.heading work = some worked.city ∧
        worked.current = navigation.current ∧ worked.heading = navigation.heading := by
  unfold workDoorAhead?
  split
  · rename_i stuck
    simp [stuck]
  · rename_i city done
    constructor
    · intro same
      cases same
      exact ⟨done, rfl, rfl⟩
    · rintro ⟨sameCity, sameCurrent, sameHeading⟩
      rw [done, Option.some.injEq] at sameCity
      rw [Option.some.injEq]
      exact ext sameCity sameCurrent.symm sameHeading.symm

theorem workDoorAhead?_eq_none_iff {navigation : Navigation}
    {work : Street → Option Street} :
    navigation.workDoorAhead? work = none ↔
      navigation.city.workDoor? navigation.current navigation.heading work = none := by
  unfold workDoorAhead?
  split
  · rename_i stuck
    simp [stuck]
  · rename_i city done
    simp [done]

theorem exists_workDoorAhead? {navigation : Navigation} {work : Street → Option Street}
    {city : City}
    (done : navigation.city.workDoor? navigation.current navigation.heading work = some city) :
    ∃ worked, navigation.workDoorAhead? work = some worked ∧ worked.city = city ∧
      worked.current = navigation.current ∧ worked.heading = navigation.heading := by
  cases ahead : navigation.workDoorAhead? work with
  | none =>
      have stuck := workDoorAhead?_eq_none_iff.mp ahead
      cases done.symm.trans stuck
  | some worked =>
      have ⟨sameCity, sameCurrent, sameHeading⟩ := workDoorAhead?_eq_some_iff.mp ahead
      have reached := Option.some.inj (sameCity.symm.trans done)
      exact ⟨worked, rfl, reached, sameCurrent, sameHeading⟩

theorem plan_workDoorAhead? {navigation worked : Navigation} {work : Street → Option Street}
    (kept : ∀ street changed, work street = some changed → changed.course = street.course)
    (done : navigation.workDoorAhead? work = some worked) :
    worked.city.plan = navigation.city.plan :=
  City.plan_workDoor? kept (workDoorAhead?_eq_some_iff.mp done).1

theorem places_workDoorAhead? {navigation worked : Navigation} {work : Street → Option Street}
    (done : navigation.workDoorAhead? work = some worked) :
    worked.city.places = navigation.city.places :=
  City.places_workDoor? (workDoorAhead?_eq_some_iff.mp done).1

theorem places_toggleAhead? {navigation toggled : Navigation} {code : String}
    (done : navigation.toggleAhead? code = some toggled) :
    toggled.city.places = navigation.city.places :=
  places_workDoorAhead? done

/-- A code card that has worked the door ahead works it back. -/
theorem toggleAhead?_twice {navigation toggled : Navigation} {code : String}
    (done : navigation.toggleAhead? code = some toggled) :
    toggled.toggleAhead? code = some navigation := by
  obtain ⟨worked, sameCurrent, sameHeading⟩ := workDoorAhead?_eq_some_iff.mp done
  refine workDoorAhead?_eq_some_iff.mpr ⟨?_, sameCurrent.symm, sameHeading.symm⟩
  rw [sameCurrent, sameHeading]
  exact City.workDoor?_toggle?_twice worked

end Rover.Navigation
