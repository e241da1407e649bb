import Mathlib.Data.List.Forall2
import Rover.Engine
import Rover.Proofs.Attempt

/-!
# What descriptions of items decide

Nothing that an engine does depends on how items are described.  Engines that
differ in the descriptions of items at most answer a call alike: both break
down, or both fail, or both succeed, and again they differ in no more than that.
-/

namespace Rover

/-- Both calculations break down with the same fault, or they come to related values. -/
inductive Matches {α : Type} (related : α → α → Prop) :
    Except Breakdown α → Except Breakdown α → Prop
  | ok {left right : α} (values : related left right) : Matches related (.ok left) (.ok right)
  | error {left right : Breakdown} (fault : right.fault = left.fault) :
      Matches related (.error left) (.error right)

theorem Matches.bind {α β : Type} {related : α → α → Prop} {onward : β → β → Prop}
    {left right : Except Breakdown α} {next other : α → Except Breakdown β}
    (tried : Matches related left right)
    (further : ∀ value twin, related value twin → Matches onward (next value) (other twin)) :
    Matches onward (left >>= next) (right >>= other) := by
  cases tried with
  | ok values => exact further _ _ values
  | error fault => exact .error fault

theorem matches_cases {α : Type} {related : α → α → Prop} {left right : Except Breakdown α}
    (pair : Matches related left right) :
    (∃ breakdown other, left = .error breakdown ∧ right = .error other ∧
        other.fault = breakdown.fault) ∨
      ∃ value twin, left = .ok value ∧ right = .ok twin ∧ related value twin := by
  cases pair with
  | ok values => exact Or.inr ⟨_, _, rfl, rfl, values⟩
  | error fault => exact Or.inl ⟨_, _, rfl, rfl, fault⟩

theorem matches_afterTelling {α : Type} (tried : Except Fault α) (told others : List Event) :
    Matches Eq (afterTelling told tried) (afterTelling others tried) := by
  cases tried with
  | ok value => exact .ok rfl
  | error fault => exact .error rfl

theorem rel_cases {α : Type} {related : α → α → Prop} {left right : Option α}
    (pair : Option.Rel related left right) :
    (left = none ∧ right = none) ∨
      ∃ value twin, left = some value ∧ right = some twin ∧ related value twin := by
  cases pair with
  | some values => exact Or.inr ⟨_, _, rfl, rfl, values⟩
  | none => exact Or.inl ⟨rfl, rfl⟩

/-! ## Items and bags -/

/-- Items that differ in their descriptions at most. -/
structure Item.Alike (item twin : Item) : Prop where
  id : twin.id = item.id
  kind : twin.kind = item.kind

theorem Item.Alike.refl (item : Item) : item.Alike item :=
  ⟨rfl, rfl⟩

namespace Item.Alike

variable {item twin : Item} (alike : item.Alike twin)

include alike

theorem key_eq : twin.key = item.key :=
  congrArg itemKey alike.id

theorem isUsable_eq : twin.isUsable = item.isUsable :=
  congrArg ItemKind.isUsable alike.kind

theorem ofKind (kind : ItemKind) : Item.Alike { item with kind } { twin with kind } :=
  ⟨alike.id, rfl⟩

end Item.Alike

namespace Bag

/-- Bags with the same keys, and under each of them items that differ in descriptions at most. -/
def Alike (bag twin : Bag) : Prop :=
  ∀ key, Option.Rel Item.Alike (bag.atKey? key) (twin.atKey? key)

namespace Alike

variable {bag twin : Bag}

theorem refl (bag : Bag) : bag.Alike bag := by
  intro key
  cases bag.atKey? key with
  | some item => exact .some (.refl item)
  | none => exact .none

theorem find? (alike : bag.Alike twin) (id : String) :
    Option.Rel Item.Alike (bag.find? id) (twin.find? id) :=
  alike (itemKey id)

theorem contains_eq (alike : bag.Alike twin) (id : String) :
    twin.contains id = bag.contains id := by
  unfold contains
  rcases rel_cases (alike.find? id) with ⟨missing, alsoMissing⟩ | ⟨item, other, found, alsoFound, -⟩
  · rw [missing, alsoMissing]
  · rw [found, alsoFound]
    rfl

theorem add (alike : bag.Alike twin) {item other : Item} (items : item.Alike other) :
    (bag.add item).Alike (twin.add other) := by
  intro key
  rw [atKey?_add, atKey?_add, items.key_eq]
  split
  · rcases rel_cases (alike key) with ⟨missing, alsoMissing⟩ | ⟨_, _, found, alsoFound, held⟩
    · rw [missing, alsoMissing]
      exact .some items
    · rw [found, alsoFound]
      exact .some held
  · exact alike key

theorem remove (alike : bag.Alike twin) (id : String) :
    (bag.remove id).Alike (twin.remove id) := by
  intro key
  rw [atKey?_remove, atKey?_remove]
  split
  · exact .none
  · exact alike key

theorem adjust (alike : bag.Alike twin) (id : String) {item other : Item}
    (items : item.Alike other) :
    (bag.adjust id fun _ => item).Alike (twin.adjust id fun _ => other) := by
  intro key
  rw [atKey?_adjust, atKey?_adjust]
  split
  · rcases rel_cases (alike key) with ⟨missing, alsoMissing⟩ | ⟨_, _, found, alsoFound, held⟩
    · rw [missing, alsoMissing]
      exact .none
    · rw [found, alsoFound]
      exact .some items
  · exact alike key

theorem symm (alike : bag.Alike twin) : twin.Alike bag := by
  intro key
  rcases rel_cases (alike key) with ⟨missing, alsoMissing⟩ | ⟨_, _, found, alsoFound, held⟩
  · rw [missing, alsoMissing]
    exact .none
  · rw [found, alsoFound]
    exact .some ⟨held.id.symm, held.kind.symm⟩

theorem isKeyed (alike : bag.Alike twin) (keyed : bag.IsKeyed) : twin.IsKeyed := by
  rw [isKeyed_iff] at keyed ⊢
  intro key other found
  rcases rel_cases (alike key) with ⟨-, missing⟩ | ⟨item, same, held, alsoHeld, items⟩
  · cases found.symm.trans missing
  · cases found.symm.trans alsoHeld
    rw [items.key_eq]
    exact keyed key item held

theorem isEmpty_of_isEmpty (alike : bag.Alike twin) (bare : bag.isEmpty = true) :
    twin.isEmpty = true := by
  unfold isEmpty at bare ⊢
  rw [List.isEmpty_iff] at bare ⊢
  refine List.eq_nil_iff_forall_not_mem.mpr ?_
  rintro ⟨key, item⟩ member
  have held := (twin.mem_entries_iff_atKey? key item).mp member
  rcases rel_cases (alike key) with ⟨-, missing⟩ | ⟨other, _, found, -, -⟩
  · cases held.symm.trans missing
  · have inside := (bag.mem_entries_iff_atKey? key other).mpr found
    rw [bare] at inside
    cases inside

theorem isEmpty_eq (alike : bag.Alike twin) : twin.isEmpty = bag.isEmpty :=
  Bool.eq_iff_iff.mpr ⟨alike.symm.isEmpty_of_isEmpty, alike.isEmpty_of_isEmpty⟩

end Alike

end Bag

/-! ## Cities -/

/-- Places that differ in the descriptions of their items at most. -/
structure Place.Alike (place twin : Place) : Prop where
  same : twin = { place with items := twin.items }
  items : place.items.Alike twin.items

/-- Cities that differ in the descriptions of their items at most. -/
structure City.Alike (city twin : City) : Prop where
  places : List.Forall₂ Place.Alike city.places twin.places
  streets : twin.streets = city.streets

theorem City.Alike.refl (city : City) : city.Alike city where
  places := List.forall₂_same.mpr fun place _ => ⟨rfl, .refl place.items⟩
  streets := rfl

theorem City.Alike.isKeyed {city twin : City} (alike : city.Alike twin)
    (keyed : ∀ place ∈ city.places, place.items.IsKeyed) :
    ∀ place ∈ twin.places, place.items.IsKeyed := by
  intro place member
  rcases List.getElem_of_mem member with ⟨index, inside, rfl⟩
  have alsoInside : index < city.places.length := by
    rw [alike.places.length_eq]
    exact inside
  have pair := alike.places.get alsoInside inside
  exact pair.items.isKeyed (keyed _ (List.get_mem _ _))

/-- Robots on the same way in cities that differ in the descriptions of their items at most. -/
structure Navigation.Alike (navigation twin : Navigation) : Prop where
  city : navigation.city.Alike twin.city
  current : twin.current = navigation.current
  heading : twin.heading = navigation.heading

theorem forall₂_modify {α : Type} {related : α → α → Prop} {left right : List α}
    (pairs : List.Forall₂ related left right) (index : Nat) {change other : α → α}
    (changed : ∀ value twin, related value twin → related (change value) (other twin)) :
    List.Forall₂ related (left.modify index change) (right.modify index other) := by
  induction pairs generalizing index with
  | nil =>
      rw [List.modify_nil, List.modify_nil]
      exact .nil
  | cons head rest ih =>
      cases index with
      | zero => exact .cons (changed _ _ head) rest
      | succ index => exact .cons head (ih index)

/-- The outcomes of walks of robots on the same way. -/
inductive Navigation.WalksAlike :
    Except Failure Navigation → Except Failure Navigation → Prop
  | stays (failure : Failure) : WalksAlike (.error failure) (.error failure)
  | goes {moved other : Navigation} (alike : moved.Alike other) :
      WalksAlike (.ok moved) (.ok other)

namespace Navigation.Alike

variable {navigation twin : Navigation} (alike : navigation.Alike twin)

include alike

theorem length_places : twin.city.places.length = navigation.city.places.length :=
  alike.city.places.length_eq.symm

theorem here : navigation.here.Alike twin.here := by
  have places := alike.city.places
  unfold Navigation.here
  simp only [alike.current]
  exact places.get navigation.exists_current _

theorem holds_eq (id : String) : twin.holds id = navigation.holds id :=
  alike.here.items.contains_eq id

theorem changeItems {change other : Bag → Bag}
    (changed : ∀ bag twin : Bag, bag.Alike twin → (change bag).Alike (other twin)) :
    (navigation.changeItems change).Alike (twin.changeItems other) where
  city := by
    refine ⟨?_, alike.city.streets⟩
    show List.Forall₂ Place.Alike
      (navigation.city.places.modify navigation.current fun found =>
        { found with items := change found.items })
      (twin.city.places.modify twin.current fun found =>
        { found with items := other found.items })
    rw [alike.current]
    refine forall₂_modify alike.city.places _ ?_
    rintro place ⟨name, description, isSpaceship, items⟩ ⟨same, bags⟩
    cases same
    exact ⟨rfl, changed _ _ bags⟩
  current := alike.current
  heading := alike.heading

theorem rotate (rotation : Rotation) :
    (navigation.rotate rotation).Alike (twin.rotate rotation) where
  city := alike.city
  current := alike.current
  heading := congrArg (Direction.rotate · rotation) alike.heading

theorem route_eq (direction : Direction) : twin.route direction = navigation.route direction := by
  unfold Navigation.route City.street?
  rw [alike.city.streets, alike.current]

theorem walk (direction : Direction) :
    Matches WalksAlike (afterTelling [] (navigation.walk direction))
      (afterTelling [] (twin.walk direction)) := by
  unfold Navigation.walk
  rw [alike.route_eq]
  cases navigation.route direction with
  | error failure => exact .ok (.stays failure)
  | ok place =>
      show Matches _ (afterTelling [] ((navigation.arrive place).map _))
        (afterTelling [] ((twin.arrive place).map _))
      unfold Navigation.arrive
      by_cases inside : place < navigation.city.places.length
      · have alsoInside : place < twin.city.places.length := by
          rw [alike.length_places]
          exact inside
        rw [dif_pos inside, dif_pos alsoInside]
        exact .ok (.goes ⟨alike.city, rfl, alike.heading⟩)
      · have alsoOutside : ¬ place < twin.city.places.length := by
          rw [alike.length_places]
          exact inside
        rw [dif_neg inside, dif_neg alsoOutside]
        refine .error ?_
        rw [alike.length_places]

theorem workDoor?_eq (work : Street → Option Street) :
    twin.city.workDoor? twin.current twin.heading work =
      (navigation.city.workDoor? navigation.current navigation.heading work).map fun worked =>
        { twin.city with streets := worked.streets } := by
  unfold City.workDoor? City.streetIndex?
  rw [alike.city.streets, alike.current, alike.heading]
  simp only [Option.bind_eq_bind, Option.map_bind, Function.comp_def, Option.map_some]

theorem toggleAhead? (code : String) :
    Option.Rel Navigation.Alike (navigation.toggleAhead? code) (twin.toggleAhead? code) := by
  have doors := alike.workDoor?_eq fun street => street.toggle? code
  cases worked : navigation.city.workDoor? navigation.current navigation.heading
      fun street => street.toggle? code with
  | none =>
      rw [worked, Option.map_none] at doors
      have stuck : navigation.toggleAhead? code = none :=
        workDoorAhead?_eq_none_iff.mpr worked
      have alsoStuck : twin.toggleAhead? code = none := workDoorAhead?_eq_none_iff.mpr doors
      rw [stuck, alsoStuck]
      exact .none
  | some city =>
      rw [worked, Option.map_some] at doors
      rcases exists_workDoorAhead? worked with ⟨toggled, done, rfl, current, heading⟩
      rcases exists_workDoorAhead? doors with
        ⟨other, otherDone, sameCity, otherCurrent, otherHeading⟩
      rw [Navigation.toggleAhead?, Navigation.toggleAhead?, done, otherDone]
      refine .some ⟨⟨?_, ?_⟩, ?_, ?_⟩
      · rw [sameCity, City.places_workDoor? worked]
        exact alike.city.places
      · rw [sameCity]
      · rw [otherCurrent, current, alike.current]
      · rw [otherHeading, heading, alike.heading]

end Navigation.Alike

/-! ## Worlds -/

/-- Worlds that differ in the descriptions of their items at most. -/
structure World.Alike (world twin : World) : Prop where
  robot : twin.robot = world.robot
  navigation : world.navigation.Alike twin.navigation
  inventory : world.inventory.Alike twin.inventory

/-- Effects of items that differ in descriptions at most. -/
structure ItemEffect.Alike (effect twin : ItemEffect) : Prop where
  world : effect.world.Alike twin.world
  item : effect.item.Alike twin.item

/-- Instructions that differ in the description of a remembered item at most. -/
inductive Instruction.Alike : Instruction → Instruction → Prop
  | same (instruction : Instruction) : Alike instruction instruction
  | used (id : String) {item twin : Item} (items : item.Alike twin) :
      Alike (.operate id (some item)) (.operate id (some twin))

/-- Attempts with the same outcome in worlds that differ in descriptions at most. -/
structure Attempt.Alike (attempt twin : Attempt) : Prop where
  world : attempt.world.Alike twin.world
  instruction : attempt.instruction.Alike twin.instruction
  failure? : twin.failure? = attempt.failure?

theorem World.alike_of_parts {robot twin : Robot} {navigation way : Navigation}
    {inventory bag : Bag} (robots : twin = robot) (ways : navigation.Alike way)
    (bags : inventory.Alike bag) :
    World.Alike ⟨robot, navigation, inventory⟩ ⟨twin, way, bag⟩ :=
  ⟨robots, ways, bags⟩

namespace World.Alike

variable {world twin : World} (alike : world.Alike twin)

include alike

theorem addFuel (amount : Quantity) :
    World.Alike { world with robot := world.robot.addFuel amount }
      { twin with robot := twin.robot.addFuel amount } :=
  ⟨congrArg (Robot.addFuel · amount) alike.robot, alike.navigation, alike.inventory⟩

theorem addRecycled (amount : Quantity) :
    World.Alike { world with robot := world.robot.addRecycled amount }
      { twin with robot := twin.robot.addRecycled amount } :=
  ⟨congrArg (Robot.addRecycled · amount) alike.robot, alike.navigation, alike.inventory⟩

theorem fails (instruction : Instruction) (failure : Failure) :
    (world.fails instruction failure).Alike (twin.fails instruction failure) :=
  ⟨alike, .same _, rfl⟩

theorem succeeds (instruction : Instruction) (told others : List Event) :
    (world.succeeds instruction told).Alike (twin.succeeds instruction others) :=
  ⟨alike, .same _, rfl⟩

theorem walk (instruction : Instruction) (direction : Direction)
    (price : Except Fault Quantity) :
    Matches Attempt.Alike (world.walk instruction direction price)
      (twin.walk instruction direction price) := by
  apply (alike.navigation.walk direction).bind
  rintro _ _ (failure | moved)
  · exact .ok (alike.fails instruction failure)
  · apply (matches_afterTelling price _ _).bind
    rintro amount _ rfl
    have reached := alike_of_parts (alike.addFuel amount).robot moved alike.inventory
    exact .ok (reached.succeeds instruction _ _)

theorem turn (instruction : Instruction) (rotation : Rotation)
    (price : Except Fault Quantity) :
    Matches Attempt.Alike (world.turn instruction rotation price)
      (twin.turn instruction rotation price) := by
  apply (matches_afterTelling price _ _).bind
  rintro amount _ rfl
  have reached := alike_of_parts (alike.addFuel amount).robot
    (alike.navigation.rotate rotation) alike.inventory
  exact .ok (reached.succeeds instruction _ _)

theorem pick (instruction : Instruction) (id : String) :
    (world.pick instruction id).Alike (twin.pick instruction id) := by
  unfold World.pick Navigation.take?
  rw [alike.inventory.contains_eq]
  rcases rel_cases (alike.navigation.here.items.find? id) with
    ⟨missing, alsoMissing⟩ | ⟨item, other, found, alsoFound, items⟩
  · rw [missing, alsoMissing]
    exact alike.fails instruction _
  · rw [found, alsoFound, Option.map_some, Option.map_some]
    dsimp only
    split
    · exact alike.fails instruction _
    · have taken := alike.navigation.changeItems fun _ _ bags => bags.remove id
      have reached := alike_of_parts alike.robot taken (alike.inventory.add items)
      exact reached.succeeds instruction _ _

theorem drop (instruction : Instruction) (id : String) :
    (world.drop instruction id).Alike (twin.drop instruction id) := by
  unfold World.drop Navigation.lay?
  rcases rel_cases (alike.inventory.find? id) with
    ⟨missing, alsoMissing⟩ | ⟨item, other, found, alsoFound, items⟩
  · rw [missing, alsoMissing]
    exact alike.fails instruction _
  · rw [found, alsoFound]
    dsimp only
    rw [alike.navigation.holds_eq, alike.navigation.holds_eq, items.id]
    have rest := alike.inventory.remove id
    by_cases present : world.navigation.holds id = true
    · rw [if_pos present, if_pos present]
      exact alike.fails instruction _
    · rw [if_neg present, if_neg present]
      by_cases alsoPresent : world.navigation.holds item.id = true
      · rw [if_pos alsoPresent, if_pos alsoPresent]
        have reached := alike_of_parts alike.robot alike.navigation rest
        exact reached.succeeds instruction _ _
      · rw [if_neg alsoPresent, if_neg alsoPresent]
        have laid := alike.navigation.changeItems fun _ _ bags => bags.add items
        have reached := alike_of_parts alike.robot laid rest
        exact reached.succeeds instruction _ _

theorem swipe? {item other : Item} (items : item.Alike other) (code : String) :
    Option.Rel ItemEffect.Alike (world.swipe? item code) (twin.swipe? other code) := by
  unfold World.swipe?
  rcases rel_cases (alike.navigation.toggleAhead? code) with
    ⟨stuck, alsoStuck⟩ | ⟨toggled, turned, worked, alsoWorked, doors⟩
  · rw [stuck, alsoStuck]
    exact .none
  · rw [worked, alsoWorked]
    exact .some ⟨⟨alike.robot, doors, alike.inventory⟩, items⟩

theorem use {item other : Item} (items : item.Alike other) :
    Matches (Option.Rel ItemEffect.Alike) (world.use item) (twin.use other) := by
  unfold World.use
  rw [items.isUsable_eq, items.kind]
  split
  · split
    · rename_i power times kind
      apply (matches_afterTelling _ _ _).bind
      rintro fewer _ rfl
      exact .ok (.some ⟨alike.addFuel power, items.ofKind _⟩)
    · rename_i material times kind
      apply (matches_afterTelling _ _ _).bind
      rintro fewer _ rfl
      exact .ok (.some ⟨alike.addRecycled material, items.ofKind _⟩)
    · exact .ok (alike.swipe? items _)
    · exact .ok .none
  · exact .ok .none

theorem putBack {item other : Item} (items : item.Alike other) (told others : List Event) :
    (world.putBack item told).Alike (twin.putBack other others) :=
  ⟨⟨alike.robot, alike.navigation, alike.inventory.add items⟩, items⟩

theorem putBack_increment {item other : Item} (items : item.Alike other) (power : Quantity)
    (raised : Except Fault Quantity) (told others : List Event) :
    Matches (Option.Rel ItemEffect.Alike)
      (do
        let more ← afterTelling told raised
        return some (world.putBack { item with kind := .fuel power more } told))
      (do
        let more ← afterTelling others raised
        return some (twin.putBack { other with kind := .fuel power more } others)) := by
  apply (matches_afterTelling _ _ _).bind
  rintro more _ rfl
  exact .ok (.some (alike.putBack (items.ofKind _) _ _))

theorem takeBack {item other : Item} (items : item.Alike other) :
    Matches (Option.Rel ItemEffect.Alike) (world.takeBack item) (twin.takeBack other) := by
  rcases item with ⟨id, description, kind⟩
  rcases other with ⟨otherId, label, otherKind⟩
  cases items.id
  cases items.kind
  cases kind with
  | fuel power times =>
      apply (matches_afterTelling _ _ _).bind
      rintro loss _ rfl
      have paid := alike.addFuel loss
      have returned := paid.putBack_increment items power times.increment
        [(world.robot.addFuel loss).report] [(twin.robot.addFuel loss).report]
      dsimp only
      rcases rel_cases (alike.inventory.find? id) with
        ⟨missing, alsoMissing⟩ | ⟨held, carried, found, alsoFound, same⟩
      · rw [missing, alsoMissing]
        exact returned
      · rw [found, alsoFound]
        rcases held with ⟨heldId, heldDescription, heldKind⟩
        rcases carried with ⟨carriedId, carriedLabel, carriedKind⟩
        cases same.id
        cases same.kind
        cases heldKind with
        | fuel heldPower heldTimes =>
            apply (matches_afterTelling _ _ _).bind
            rintro more _ rfl
            exact .ok (.some ⟨⟨paid.robot, paid.navigation,
              alike.inventory.adjust id ⟨rfl, rfl⟩⟩, items⟩)
        | garbage => exact returned
        | codeCard => exact returned
        | generic => exact returned
  | garbage material times =>
      apply (matches_afterTelling _ _ _).bind
      rintro loss _ rfl
      exact .ok (.some ((alike.addRecycled loss).putBack (items.ofKind _) _ _))
  | codeCard code => exact .ok (alike.swipe? items code)
  | generic => exact .ok .none

omit alike in
theorem operated {id : String} {item other : Item} {effect same : ItemEffect}
    (found : world.inventory.find? id = some item)
    (alsoFound : twin.inventory.find? id = some other) (rule : UseOf world item effect)
    (sameRule : UseOf twin other same) (effects : effect.Alike same) (used used' : Option Item) :
    Matches Attempt.Alike (world.operate id used) (twin.operate id used') := by
  rw [operate_of_use used found rule, operate_of_use used' alsoFound sameRule]
  refine .ok ⟨⟨effects.world.robot, effects.world.navigation, ?_⟩, .used id effects.item, rfl⟩
  show (effect.world.inventory.afterUse id effect.item).Alike
    (same.world.inventory.afterUse id same.item)
  unfold Bag.afterUse
  rw [effects.item.isUsable_eq]
  split
  · exact effects.world.inventory.adjust id effects.item
  · exact effects.world.inventory.remove id

theorem operate (id : String) {used used' : Option Item}
    (remembered : (Instruction.operate id used).Alike (.operate id used')) :
    Matches Attempt.Alike (world.operate id used) (twin.operate id used') := by
  rcases rel_cases (alike.inventory.find? id) with
    ⟨missing, alsoMissing⟩ | ⟨item, other, found, alsoFound, items⟩
  · rw [World.operate, World.operate, missing, alsoMissing]
    exact .ok ⟨alike, remembered, rfl⟩
  · rcases matches_cases (alike.use items) with
      ⟨breakdown, other, broke, alsoBroke, fault⟩ | ⟨_, _, done, alsoDone, effects⟩
    · rw [World.operate, World.operate, found, alsoFound]
      dsimp only
      rw [broke, alsoBroke]
      exact .error fault
    · cases effects with
      | some effects =>
          have rule := use_eq_some_iff.mp done
          have sameRule := use_eq_some_iff.mp alsoDone
          exact operated found alsoFound rule sameRule effects used used'
      | none =>
          rw [World.operate, World.operate, found, alsoFound]
          dsimp only
          rw [done, alsoDone]
          exact .ok ⟨alike, remembered, rfl⟩

theorem operateBack (id : String) {used used' : Option Item}
    (remembered : (Instruction.operate id used).Alike (.operate id used')) :
    Matches Attempt.Alike (world.operateBack id used) (twin.operateBack id used') := by
  have returned : ∀ item other : Item, item.Alike other →
      (Instruction.operate id (some item)).Alike (.operate id (some other)) →
        Matches Attempt.Alike (world.operateBack id (some item))
          (twin.operateBack id (some other)) := by
    intro item other items entries
    apply (alike.takeBack items).bind
    rintro _ _ (effects | _)
    · exact .ok (effects.world.succeeds _ _ _)
    · exact .ok ⟨alike, entries, rfl⟩
  cases remembered with
  | same =>
      cases used with
      | none => exact .ok ⟨alike, .same _, rfl⟩
      | some item => exact returned item item (.refl item) (.same _)
  | used _ items => exact returned _ _ items (.used id items)

theorem scan (instruction : Instruction) (id : Option String) :
    (world.scan instruction id).Alike (twin.scan instruction id) := by
  cases id with
  | none =>
      unfold World.scan
      dsimp only
      rw [alike.inventory.isEmpty_eq]
      split
      · exact alike.fails instruction _
      · exact alike.succeeds instruction _ _
  | some id =>
      unfold World.scan
      dsimp only
      rcases rel_cases (alike.inventory.find? id) with
        ⟨missing, alsoMissing⟩ | ⟨item, other, found, alsoFound, items⟩
      · rw [missing, alsoMissing]
        exact alike.fails instruction _
      · rw [found, alsoFound]
        exact alike.succeeds instruction _ _

theorem execute {instruction other : Instruction} (instructions : instruction.Alike other) :
    Matches Attempt.Alike (world.execute instruction) (twin.execute other) := by
  cases instructions with
  | used id items => exact alike.operate id (.used id items)
  | same =>
      cases instruction with
      | move =>
          rw [World.execute, World.execute, alike.navigation.heading, alike.robot]
          exact alike.walk _ _ _
      | turn rotation =>
          rw [World.execute, World.execute, alike.robot]
          exact alike.turn _ _ _
      | pick id => exact .ok (alike.pick _ id)
      | drop id => exact .ok (alike.drop _ id)
      | operate id used => exact alike.operate id (.same _)
      | scan id => exact .ok (alike.scan _ id)
      | radar => exact .ok (alike.succeeds _ _ _)
      | help => exact .ok (alike.succeeds _ _ _)
      | quit =>
          have given := alike_of_parts (congrArg Robot.quit alike.robot) alike.navigation
            alike.inventory
          exact .ok (given.succeeds _ _ _)

theorem undo {instruction other : Instruction} (instructions : instruction.Alike other) :
    Matches Attempt.Alike (world.undo instruction) (twin.undo other) := by
  cases instructions with
  | used id items => exact alike.operateBack id (.used id items)
  | same =>
      cases instruction with
      | move =>
          rw [World.undo, World.undo, alike.navigation.heading, alike.robot]
          exact alike.walk _ _ _
      | turn rotation =>
          rw [World.undo, World.undo, alike.robot]
          exact alike.turn _ _ _
      | pick id => exact .ok (alike.drop _ id)
      | drop id => exact .ok (alike.pick _ id)
      | operate id used => exact alike.operateBack id (.same _)
      | scan id => exact .ok (alike.succeeds _ _ _)
      | radar => exact .ok (alike.succeeds _ _ _)
      | help => exact .ok (alike.succeeds _ _ _)
      | quit => exact .ok (alike.succeeds _ _ _)

end World.Alike

/-! ## Engines -/

/-- Engines that differ in the descriptions of items at most. -/
structure Engine.Alike (engine twin : Engine) : Prop where
  world : engine.world.Alike twin.world
  history : List.Forall₂ Instruction.Alike engine.history twin.history

/-- Answers with the same outcome of engines that differ in descriptions at most. -/
structure Answer.Alike (answer twin : Answer) : Prop where
  outcome? : twin.outcome? = answer.outcome?
  engine : answer.engine.Alike twin.engine

namespace Engine.Alike

variable {engine twin : Engine}

theorem execute (alike : engine.Alike twin) (instruction : Instruction) :
    Matches Answer.Alike (engine.execute instruction) (twin.execute instruction) := by
  apply (alike.world.execute (.same instruction)).bind
  rintro attempt ⟨world, entry, events, failure?⟩ ⟨worlds, entries, same⟩
  cases same
  cases attempt.failure? with
  | some failure => exact .ok ⟨rfl, worlds, alike.history⟩
  | none => exact .ok ⟨rfl, worlds, .cons entries alike.history⟩

theorem undo (alike : engine.Alike twin) : Matches Answer.Alike engine.undo twin.undo := by
  rcases engine with ⟨world, history⟩
  rcases twin with ⟨twinWorld, twinHistory⟩
  have histories := alike.history
  cases histories with
  | nil => exact .ok ⟨rfl, alike.world, .nil⟩
  | cons latest earlier =>
      apply (alike.world.undo latest).bind
      rintro attempt ⟨world, entry, events, failure?⟩ ⟨worlds, entries, same⟩
      cases same
      cases attempt.failure? with
      | some failure => exact .ok ⟨rfl, worlds, earlier⟩
      | none => exact .ok ⟨rfl, worlds, earlier⟩

/-- Engines that differ in descriptions at most answer every call alike. -/
theorem call (alike : engine.Alike twin) (request : Call) :
    Matches Answer.Alike (engine.call request) (twin.call request) := by
  have retuned : ∀ change : Robot → Robot, (engine.withRobot (change engine.world.robot)).Alike
      (twin.withRobot (change twin.world.robot)) := by
    intro change
    exact ⟨⟨congrArg change alike.world.robot, alike.world.navigation, alike.world.inventory⟩,
      alike.history⟩
  cases request with
  | execute instruction => exact alike.execute instruction
  | undo => exact alike.undo
  | start => exact .ok ⟨rfl, retuned Robot.restart⟩
  | addFuel amount => exact .ok ⟨rfl, retuned (Robot.addFuel · amount)⟩
  | setFuel amount => exact .ok ⟨rfl, retuned (Robot.setFuel · amount)⟩
  | addRecycled amount => exact .ok ⟨rfl, retuned (Robot.addRecycled · amount)⟩
  | setRecycled amount => exact .ok ⟨rfl, retuned (Robot.setRecycled · amount)⟩
  | requestQuit => exact .ok ⟨rfl, retuned Robot.quit⟩
  | _ => exact .ok ⟨rfl, alike⟩

theorem run (alike : engine.Alike twin) (calls : List Call) :
    Matches (fun reached same => reached.1.Alike same.1) (engine.run calls)
      (twin.run calls) := by
  induction calls generalizing engine twin with
  | nil => exact .ok alike
  | cons request rest ih =>
      apply (alike.call request).bind
      intro answer same answers
      apply (ih answers.engine).bind
      intro reached other further
      exact .ok further

end Engine.Alike

end Rover
