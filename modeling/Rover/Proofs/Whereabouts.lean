import Rover.Proofs.Census
import Rover.Proofs.Overflow

/-!
# Where a robot can be

Whatever is asked of an engine, and whatever is asked of its navigation behind
its back, the plan of the city stays what it was and the robot stays at one of
its places, looking along the compass.  So in a city from a map nothing is ever
asked of a place that is not there, and a street that is found where the robot
stands always leads on from there.
-/

namespace Rover

namespace World

variable {world : World}

theorem keeps_doorReply {work : Street → Option Street}
    (kept : ∀ street changed, work street = some changed → changed.course = street.course) :
    world.Keeps { world with
      navigation := (world.navigation.doorReply (world.navigation.workDoorAhead? work)).2.1 } := by
  cases worked : world.navigation.workDoorAhead? work with
  | none => exact .refl world
  | some next => exact keeps_workedDoor kept worked

/-- To answer a request to the navigation keeps costs, plan, compass and keys. -/
theorem keeps_served {request : Navigation.Request} {reply : Navigation.Reply}
    {next : Navigation} {events : List Event}
    (served : world.navigation.serve request = .ok (reply, next, events)) :
    world.Keeps { world with navigation := next } := by
  cases request with
  | move | moveBack =>
      rcases bind_eq_ok_iff.mp served with ⟨failure | moved, went, told⟩
      · cases told
        exact .refl world
      · cases told
        exact keeps_moved went
  | rotate rotation =>
      cases served
      exact keeps_rotated rotation
  | take id =>
      rw [Navigation.serve] at served
      cases taken : world.navigation.take? id with
      | none =>
          rw [taken] at served
          cases served
          exact .refl world
      | some found =>
          rcases Option.map_eq_some_iff.mp taken with ⟨item, -, rfl⟩
          rw [taken] at served
          cases served
          exact keeps_changedItems fun keyed => keyed.remove id
  | lay item =>
      rw [Navigation.serve, Navigation.lay?] at served
      split at served
      · rename_i laid put
        cases served
        split at put
        · cases put
        · cases put
          exact keeps_changedItems fun keyed => keyed.add item
      · cases served
        exact .refl world
  | unlock code =>
      cases served
      exact keeps_doorReply fun _ _ => Street.course_unlock?
  | lock code =>
      cases served
      exact keeps_doorReply fun _ _ => Street.course_lock?
  | _ =>
      cases served
      exact .refl world

theorem IsSound.serve_ne_error (sound : world.IsSound) (request : Navigation.Request)
    (fault : Fault) : world.navigation.serve request ≠ .error fault := by
  intro broken
  cases request with
  | move | moveBack =>
      rcases bind_eq_error_iff.mp broken with stuck | ⟨failure | moved, went, told⟩
      · exact sound.walk_ne_error _ fault stuck
      · cases told
      · cases told
  | take id =>
      rw [Navigation.serve] at broken
      split at broken <;> cases broken
  | lay item =>
      rw [Navigation.serve] at broken
      split at broken <;> cases broken
  | _ => cases broken

end World

/-! ## Errands -/

namespace Engine

/-- Something to do for an engine, or for its navigation alone. -/
inductive Errand where
  | call (request : Call)
  | navigate (request : Navigation.Request)
  deriving DecidableEq, Repr

/-- The engine after an errand. -/
def go (engine : Engine) : Errand → Except Fault Engine
  | .call request =>
      match engine.call request with
      | .ok answer => .ok answer.engine
      | .error breakdown => .error breakdown.fault
  | .navigate request => do
      let (_, navigation, _) ← engine.world.navigation.serve request
      return { engine with world := { engine.world with navigation } }

/-- The engine after some errands, one after the other. -/
def goThrough (engine : Engine) : List Errand → Except Fault Engine
  | [] => return engine
  | errand :: rest => do
      let next ← engine.go errand
      next.goThrough rest

variable {engine next : Engine} {errand : Errand}

theorem keeps_go (gone : engine.go errand = .ok next) : engine.world.Keeps next.world := by
  cases errand with
  | call request =>
      rw [go] at gone
      split at gone
      · rename_i answered
        cases gone
        exact keeps_call answered
      · cases gone
  | navigate request =>
      rcases bind_eq_ok_iff.mp gone with ⟨⟨reply, navigation, events⟩, served, told⟩
      cases told
      exact World.keeps_served served

/-- In a sound world errands break off only where a quantity would leave its range. -/
theorem fault_of_go (sound : engine.world.IsSound) {fault : Fault}
    (broken : engine.go errand = .error fault) :
    fault = .negate ∨ fault = .subtract ∨ fault = .add := by
  cases errand with
  | call request =>
      rw [go] at broken
      split at broken
      · cases broken
      · rename_i breakdown answered
        cases broken
        exact ((call_breaks_iff sound).mp ⟨breakdown.events, answered⟩).cases_fault
  | navigate request =>
      rcases bind_eq_error_iff.mp broken with stuck | ⟨served, -, told⟩
      · exact absurd stuck (sound.serve_ne_error request fault)
      · cases told

theorem keeps_goThrough {errands : List Errand} {last : Engine}
    (gone : engine.goThrough errands = .ok last) : engine.world.Keeps last.world := by
  induction errands generalizing engine with
  | nil =>
      cases gone
      exact .refl _
  | cons errand rest ih =>
      rcases bind_eq_ok_iff.mp gone with ⟨next, first, further⟩
      exact (keeps_go first).trans (ih further)

theorem fault_of_goThrough {errands : List Errand} {fault : Fault} (sound : engine.world.IsSound)
    (broken : engine.goThrough errands = .error fault) :
    fault = .negate ∨ fault = .subtract ∨ fault = .add := by
  induction errands generalizing engine with
  | nil => cases broken
  | cons errand rest ih =>
      rcases bind_eq_error_iff.mp broken with stuck | ⟨next, first, further⟩
      · exact fault_of_go sound stuck
      · exact ih ((keeps_go first).isSound sound) further

/-- A robot stands in a city and can find its way there. -/
structure IsWithin (engine : Engine) (city : City) : Prop where
  plan : engine.world.navigation.city.plan = city.plan
  current : engine.world.navigation.current < city.places.length
  heading : engine.world.navigation.heading ∈ Direction.cardinals
  /-- A street that is found from where the robot stands leads on to a place. -/
  ways : ∀ direction street,
    engine.world.navigation.city.street? engine.world.navigation.current direction =
      some street →
    ∃ next, street.farEnd? engine.world.navigation.current = some next ∧
      next < city.places.length

theorem isWithin_of_isSound {city : City} (sound : engine.world.IsSound)
    (plan : engine.world.navigation.city.plan = city.plan)
    (known : engine.world.navigation.heading ≠ .unknown) : engine.IsWithin city := by
  have count := City.length_places_eq_of_plan_eq plan
  refine ⟨plan, count ▸ engine.world.navigation.exists_current,
    Direction.mem_cardinals known, ?_⟩
  intro direction street found
  have leaving := List.find?_some found
  have ⟨source, target⟩ := sound.ends street (List.mem_of_find?_eq_some found)
  rcases Street.exists_farEnd?_of_leaves leaving with ⟨next, leads, rfl | rfl⟩
  · exact ⟨_, leads, count ▸ source⟩
  · exact ⟨_, leads, count ▸ target⟩

end Engine

namespace Atlas

/--
A city from a map is what the records of the map tell, and it is well formed.
From the place where the map has a robot start, which is place 0, and looking
anywhere, a robot stays in the city through all errands, which break off only
where a quantity would leave its range.
-/
theorem cities_stay_navigable {map : String} {loaded : Loaded} (ran : load map = .ok loaded) :
    IsToldBy loaded.city (census map) ∧ loaded.city.IsWellFormed ∧ loaded.start = 0 ∧
      ∀ heading settings, ∃ engine,
        Engine.start loaded.city loaded.start heading settings = .ok engine ∧
          engine.world.navigation.current = 0 ∧
          ∀ errands,
            (∀ fault, engine.goThrough errands = .error fault →
              fault = .negate ∨ fault = .subtract ∨ fault = .add) ∧
            ∀ last, engine.goThrough errands = .ok last → last.IsWithin loaded.city := by
  rcases loaded with ⟨city, start⟩
  obtain ⟨read, rfl : start = firstPlace⟩ := load_eq_ok_iff.mp ran
  have ⟨citySound, inhabited⟩ := read_isSound read
  refine ⟨isToldBy_of_read read, isWellFormed_of_read read, rfl, fun heading settings => ?_⟩
  rcases Engine.exists_start inhabited heading settings with
    ⟨navigation, started, rfl, current, heads⟩
  have sound : World.IsSound ⟨.fresh settings, navigation, .empty⟩ :=
    ⟨⟨citySound.keyed, Bag.isKeyed_empty⟩, citySound.ends⟩
  have known : navigation.heading ≠ .unknown := by
    rw [heads]
    cases heading <;> decide
  refine ⟨_, started, current, fun errands => ⟨fun _ => Engine.fault_of_goThrough sound, ?_⟩⟩
  intro last gone
  have keeps := Engine.keeps_goThrough gone
  exact Engine.isWithin_of_isSound (keeps.isSound sound) keeps.plan (keeps.known known)

/-- The lines of a map of a garden, with words in any case and a line after its end. -/
def gardenLines : List String :=
  ["BeginCity", "beginplaces", "place 0 Shed tool_shed noSpaceShip",
    "place 1 Lawn \"mown lawn\" spaceShip", "EndPlaces", "BEGINSTREETS",
    "street 0 place 1 south place 0 closed rake", "EndStreets", "BeginItems",
    "codecard 0 Card worn_card RAKE place 0", "fuel 1 Can oil_can 25 4 place 0", "EndItems",
    "ENDCITY", "place 2 Pond pond noSpaceShip"]

/-- The map of these lines. -/
def gardenMap : String :=
  String.ofList (gardenLines.flatMap fun line => line.toList ++ ['\n'])

/-- The city that it makes. -/
def garden : City where
  places :=
    [⟨"Shed", "tool shed", false, .ofItems
        [⟨"Card", "worn card", .codeCard "RAKE"⟩,
          ⟨"Can", "oil can", .fuel ⟨25, by decide, by decide⟩ ⟨4, by decide, by decide⟩⟩]⟩,
      ⟨"Lawn", "mown lawn", true, .empty⟩]
  streets := [⟨1, .south, 0, false, "rake"⟩]

/-- A robot in the garden. -/
def inTheShed : Engine where
  world := ⟨.fresh .standard, ⟨garden, firstPlace, .north, by decide⟩, .empty⟩
  history := []

/-- Out to the lawn, back by hand, and out again by an undo. -/
def gardenErrands : List Engine.Errand :=
  [.call (.execute (.pick "card")), .navigate (.unlock "rake"), .call (.execute .move),
    .navigate (.rotate .right), .navigate (.rotate .right), .navigate .move, .call .undo]

/-- The robot is on the lawn, one of the two places that the map tells of. -/
theorem garden_stays_navigable :
    load gardenMap = .ok ⟨garden, 0⟩ ∧ IsToldBy garden (census gardenMap) ∧
      ∃ last, inTheShed.goThrough gardenErrands = .ok last ∧
        last.world.navigation.current = 1 ∧ last.IsWithin garden := by
  have ran : load gardenMap = .ok ⟨garden, 0⟩ := by
    rw [load, gardenMap, String.toList_ofList]
    decide +kernel
  have ends : (inTheShed.goThrough gardenErrands).map
      (fun last => last.world.navigation.current) = .ok 1 := by
    decide +kernel
  rcases cities_stay_navigable ran with ⟨told, -, -, stays⟩
  rcases stays .north .standard with ⟨engine, started, -, through⟩
  have same : inTheShed = engine := Except.ok.inj started
  subst same
  refine ⟨ran, told, ?_⟩
  cases gone : inTheShed.goThrough gardenErrands with
  | error fault =>
      rw [gone] at ends
      cases ends
  | ok last =>
      rw [gone] at ends
      exact ⟨last, rfl, Except.ok.inj ends, (through gardenErrands).2 last gone⟩

end Atlas

end Rover
