import Mathlib.Logic.Function.Basic
import Rover.Proofs.Overflow
import Rover.Proofs.Run
import Rover.Proofs.Stock

/-!
# What instructions do to items

The containers of a world as one map: the bag of the robot and the bags of all
places, and under every key the item that is kept there.  To pick and to drop
move one item under its key from one container to another, and a use changes
one entry of the carried ones; all other entries stay.  That is so because
every item lies under its own key: else an item could be put where another one
lies already, and be lost.
-/

namespace Rover

/-- Where an item can be kept. -/
inductive Spot where
  | bag
  | place (place : PlaceId)
  deriving DecidableEq

/-! ## Counters and entries -/

namespace ItemKind

/-- A kind of consumable with other uses left; nothing counts the uses of the other kinds. -/
def withTimes (kind : ItemKind) (times : Quantity) : ItemKind :=
  match kind with
  | .fuel power _ => .fuel power times
  | .garbage material _ => .garbage material times
  | kind => kind

theorem isUsable_of_times? {kind : ItemKind} {times : Quantity}
    (counted : kind.times? = some times) : kind.isUsable = (times != .zero) := by
  cases kind <;> cases counted <;> rfl

theorem times?_withTimes {kind : ItemKind} {times : Quantity}
    (counted : kind.times? = some times) (other : Quantity) :
    (kind.withTimes other).times? = some other := by
  cases kind <;> cases counted <;> rfl

end ItemKind

namespace Bag

variable {bag : Bag}

theorem atKey?_add_eq_update {item : Item} (free : bag.contains item.id = false) :
    (bag.add item).atKey? = Function.update bag.atKey? item.key (some item) := by
  have absent : bag.atKey? item.key = none := contains_eq_false_iff.mp free
  funext key
  rw [atKey?_add, Function.update_apply]
  split
  · rename_i same
    rw [same, absent, Option.none_or]
  · rfl

theorem atKey?_remove_eq_update (bag : Bag) (id : String) :
    (bag.remove id).atKey? = Function.update bag.atKey? (itemKey id) none := by
  funext key
  rw [atKey?_remove, Function.update_apply]

theorem atKey?_adjust_eq_update {id : String} {item : Item} (found : bag.find? id = some item)
    (left : Item) :
    (bag.adjust id fun _ => left).atKey? =
      Function.update bag.atKey? (itemKey id) (some left) := by
  funext key
  rw [atKey?_adjust, Function.update_apply]
  split
  · rename_i same
    subst same
    exact congrArg (Option.map fun _ => left) found
  · rfl

theorem atKey?_afterUse_eq_update {id : String} {item : Item} (found : bag.find? id = some item)
    (left : Item) :
    (bag.afterUse id left).atKey? =
      Function.update bag.atKey? (itemKey id) (if left.isUsable then some left else none) := by
  unfold afterUse
  split
  · exact atKey?_adjust_eq_update found left
  · exact bag.atKey?_remove_eq_update id

end Bag

namespace City

/-- The item that lies under a key at a place. -/
def itemAt? (city : City) (place : PlaceId) (key : String) : Option Item :=
  (city.place? place).bind fun found => found.items.atKey? key

end City

namespace Navigation

theorem itemAt?_current (navigation : Navigation) (key : String) :
    navigation.city.itemAt? navigation.current key = navigation.here.items.atKey? key := by
  have found : navigation.city.place? navigation.current = some navigation.here :=
    List.getElem?_eq_getElem navigation.exists_current
  rw [City.itemAt?, found]
  rfl

theorem itemAt?_changeItems (navigation : Navigation) (change : Bag → Bag) (place : PlaceId)
    (key : String) :
    (navigation.changeItems change).city.itemAt? place key =
      if place = navigation.current then
        (change navigation.here.items).atKey? key
      else
        navigation.city.itemAt? place key := by
  split
  · rename_i same
    subst same
    have moved := (navigation.changeItems change).itemAt?_current key
    rwa [items_changeItems] at moved
  · rename_i different
    unfold City.itemAt? City.place? changeItems City.changeItems
    rw [List.getElem?_modify_ne _ _ (Ne.symm different)]

/-- A code card works the door ahead if there is a street ahead with the same code. -/
theorem exists_toggleAhead?_iff {navigation : Navigation} {code : String} :
    (∃ toggled, navigation.toggleAhead? code = some toggled) ↔
      ∃ street, navigation.streetAhead? = some street ∧
        Text.lowercase street.code = Text.lowercase code := by
  have chosen : navigation.streetAhead? =
      (navigation.city.streetIndex? navigation.current navigation.heading).bind
        fun index => navigation.city.streets[index]? :=
    List.find?_eq_bind_findIdx?_getElem?
  rw [chosen]
  constructor
  · rintro ⟨toggled, worked⟩
    rcases City.workDoor?_eq_some_iff.mp (workDoorAhead?_eq_some_iff.mp worked).1 with
      ⟨index, street, changed, first, found, done, -⟩
    have ⟨accepted, _⟩ := Street.toggle?_eq_some_iff.mp done
    rw [first]
    exact ⟨street, found, beq_iff_eq.mp accepted⟩
  · rintro ⟨street, ahead, sameCode⟩
    rcases Option.bind_eq_some_iff.mp ahead with ⟨index, first, found⟩
    let changed : Street := { street with isOpen := !street.isOpen }
    have done : street.toggle? code = some changed :=
      Street.toggle?_eq_some_iff.mpr ⟨beq_iff_eq.mpr sameCode, rfl⟩
    have worked : navigation.city.workDoor? navigation.current navigation.heading
        (fun street => street.toggle? code) =
          some { navigation.city with streets := navigation.city.streets.set index changed } :=
      City.workDoor?_eq_some_iff.mpr ⟨index, street, changed, first, found, done, rfl⟩
    rcases exists_workDoorAhead? worked with ⟨toggled, reached, -⟩
    exact ⟨toggled, reached⟩

end Navigation

/-! ## What is kept where -/

namespace World

/-- What is kept where: the item under a key at a spot. -/
def kept? (world : World) : Spot × String → Option Item
  | (.bag, key) => world.inventory.atKey? key
  | (.place place, key) => world.navigation.city.itemAt? place key

/-- The place where the robot stands, as a spot. -/
def here (world : World) : Spot :=
  .place world.navigation.current

/-- An item has gone under its key from one spot to another, and nothing else has changed. -/
inductive Moves (before after : World) (id : String) (source target : Spot) : Prop
  | moved {item : Item} (named : item.key = itemKey id)
      (found : before.kept? (source, itemKey id) = some item)
      (free : before.kept? (target, itemKey id) = none)
      (kept : after.kept? =
        Function.update (Function.update before.kept? (source, itemKey id) none)
          (target, itemKey id) (some item))
      (stock : after.stock = before.stock)

/-- A carried item has been used: one use less, none left, or a card that leaves all alone. -/
inductive Uses (before after : World) (id : String) : Prop
  | lowered {item left : Item} {times fewer : Quantity} {rest : Multiset Item}
      (named : item.key = itemKey id)
      (found : before.kept? (.bag, itemKey id) = some item)
      (counted : item.kind.times? = some times) (less : fewer.value = times.value - 1)
      (more : fewer.value ≠ 0) (remains : left = { item with kind := item.kind.withTimes fewer })
      (kept : after.kept? = Function.update before.kept? (.bag, itemKey id) (some left))
      (stockBefore : before.stock = item ::ₘ rest) (stockAfter : after.stock = left ::ₘ rest)
  | spent {item : Item} {times : Quantity} (named : item.key = itemKey id)
      (found : before.kept? (.bag, itemKey id) = some item)
      (counted : item.kind.times? = some times) (last : times.value - 1 = 0)
      (kept : after.kept? = Function.update before.kept? (.bag, itemKey id) none)
      (stock : before.stock = item ::ₘ after.stock)
  | card {item : Item} {code : String} (named : item.key = itemKey id)
      (found : before.kept? (.bag, itemKey id) = some item)
      (kind : item.kind = .codeCard code) (kept : after.kept? = before.kept?)
      (stock : after.stock = before.stock)

/-- What an instruction that succeeds does to the items. -/
def Handles (before after : World) : Instruction → Prop
  | .pick id => before.Moves after id before.here .bag
  | .drop id => before.Moves after id .bag before.here
  | .operate id _ => before.Uses after id
  | _ => after.kept? = before.kept? ∧ after.stock = before.stock

/-! ## Items that are moved -/

theorem kept?_here (world : World) (key : String) :
    world.kept? (world.here, key) = world.navigation.here.items.atKey? key :=
  world.navigation.itemAt?_current key

theorem kept?_of_inventory {world : World} {bag : Bag} {key : String} {held : Option Item}
    (changed : bag.atKey? = Function.update world.inventory.atKey? key held) :
    ({ world with inventory := bag } : World).kept? =
      Function.update world.kept? (.bag, key) held := by
  funext ⟨spot, wanted⟩
  cases spot with
  | bag =>
      show bag.atKey? wanted = _
      rw [changed, Function.update_apply, Function.update_apply]
      simp [kept?]
  | place place => simp [kept?]

theorem kept?_of_changeItems {world : World} {change : Bag → Bag} {key : String}
    {held : Option Item}
    (changed : (change world.navigation.here.items).atKey? =
      Function.update world.navigation.here.items.atKey? key held) :
    ({ world with navigation := world.navigation.changeItems change } : World).kept? =
      Function.update world.kept? (world.here, key) held := by
  funext ⟨spot, wanted⟩
  cases spot with
  | bag => simp [kept?, here]
  | place place =>
      show (world.navigation.changeItems change).city.itemAt? place wanted = _
      rw [Navigation.itemAt?_changeItems, changed, Function.update_apply, Function.update_apply,
        ← Navigation.itemAt?_current]
      by_cases standing : place = world.navigation.current
      · subst standing
        simp [kept?, here]
      · simp [kept?, here, standing]

theorem moves_picked {world : World} (keyed : world.IsKeyed) {id : String} {item : Item}
    (found : world.navigation.here.items.find? id = some item)
    (free : world.inventory.contains id = false) (instruction : Instruction) :
    world.Moves (world.picked instruction id item).world id world.here .bag := by
  -- The bag takes the item under its own key, which is the one that was asked for.
  have named : item.key = itemKey id := keyed.here.key_of_find? found
  let poorer : World :=
    { world with navigation := world.navigation.changeItems fun items => items.remove id }
  have taken : poorer.kept? = Function.update world.kept? (world.here, itemKey id) none :=
    kept?_of_changeItems (Bag.atKey?_remove_eq_update _ id)
  have added := Bag.atKey?_add_eq_update ((Bag.contains_congr _ named).trans free)
  have gained : ({ poorer with inventory := world.inventory.add item } : World).kept? =
      Function.update poorer.kept? (.bag, item.key) (some item) :=
    kept?_of_inventory added
  rw [taken, named] at gained
  exact .moved named ((world.kept?_here _).trans found) (Bag.contains_eq_false_iff.mp free) gained
    (stock_picked keyed found free instruction)

theorem moves_dropped {world : World} (keyed : world.IsKeyed) {id : String} {item : Item}
    (found : world.inventory.find? id = some item)
    (free : world.navigation.here.items.contains id = false) (instruction : Instruction) :
    world.Moves (world.dropped instruction id item).world id .bag world.here := by
  have named : item.key = itemKey id := keyed.inventory.key_of_find? found
  have absent := Bag.contains_eq_false_iff.mp free
  let poorer : World := { world with inventory := world.inventory.remove id }
  have taken : poorer.kept? = Function.update world.kept? (.bag, itemKey id) none :=
    kept?_of_inventory (Bag.atKey?_remove_eq_update _ id)
  have added := Bag.atKey?_add_eq_update ((Bag.contains_congr _ named).trans free)
  have laid : ({ poorer with
      navigation := poorer.navigation.changeItems fun items => items.add item } : World).kept? =
        Function.update poorer.kept? (world.here, item.key) (some item) :=
    kept?_of_changeItems added
  rw [taken, named] at laid
  exact .moved named found ((world.kept?_here _).trans absent) laid
    (stock_dropped keyed found free instruction)

/-! ## Items that are used -/

/-- What a use leaves of an item: a consumable with one use less, or the card as it was. -/
theorem UseOf.item_cases {world : World} {item : Item} {effect : ItemEffect}
    (rule : UseOf world item effect) :
    (∃ times fewer, item.kind.times? = some times ∧ fewer.value = times.value - 1 ∧
      effect.item = { item with kind := item.kind.withTimes fewer }) ∨
      ∃ code, item.kind = .codeCard code ∧ effect.item = item := by
  cases rule with
  | fuel usable lowered =>
      exact .inl ⟨_, _, rfl, Quantity.decrement_eq_ok_iff.mp lowered, rfl⟩
  | garbage usable lowered =>
      exact .inl ⟨_, _, rfl, Quantity.decrement_eq_ok_iff.mp lowered, rfl⟩
  | codeCard worked => exact .inr ⟨_, rfl, rfl⟩

theorem UseOf.kept?_eq {world : World} {item : Item} {effect : ItemEffect}
    (rule : UseOf world item effect) : effect.world.kept? = world.kept? := by
  cases rule with
  | fuel usable lowered => rfl
  | garbage usable lowered => rfl
  | codeCard worked =>
      funext ⟨spot, key⟩
      cases spot with
      | bag => rfl
      | place place =>
          simp only [kept?, City.itemAt?, City.place?, Navigation.places_toggleAhead? worked]

/-- A use shows in one entry of the bag, and that is empty if what is left is of no use. -/
theorem kept?_operated {world : World} {id : String} {item : Item} {effect : ItemEffect}
    (found : world.inventory.find? id = some item) (rule : UseOf world item effect) :
    (operated id effect).world.kept? =
      Function.update world.kept? (.bag, itemKey id)
        (if effect.item.isUsable then some effect.item else none) := by
  rw [← use_inventory rule] at found
  rw [← rule.kept?_eq]
  exact kept?_of_inventory (Bag.atKey?_afterUse_eq_update found effect.item)

theorem uses_operated {world : World} (keyed : world.IsKeyed) {id : String} {item : Item}
    {effect : ItemEffect} (found : world.inventory.find? id = some item)
    (rule : UseOf world item effect) : world.Uses (operated id effect).world id := by
  have named : item.key = itemKey id := keyed.inventory.key_of_find? found
  have kept := kept?_operated found rule
  rcases stock_operated found rule with ⟨rest, before, after⟩
  -- A consumable stays in the bag while uses are left; a card is always of use.
  rcases rule.item_cases with ⟨times, fewer, counted, less, remains⟩ | ⟨code, kind, same⟩
  · have left : effect.item.isUsable = (fewer != .zero) := by
      rw [remains]
      exact ItemKind.isUsable_of_times? (ItemKind.times?_withTimes counted fewer)
    by_cases spent : fewer = .zero
    · have useless : effect.item.isUsable = false := by
        rw [left, spent]
        rfl
      have last : times.value - 1 = 0 := by
        rw [← less, spent]
        rfl
      rw [useless, if_neg Bool.false_ne_true] at kept after
      exact .spent named found counted last kept (after.symm ▸ before)
    · have useful : effect.item.isUsable = true := by
        rw [left, bne_iff_ne]
        exact spent
      have more : fewer.value ≠ 0 := fun nought => spent (Quantity.ext nought)
      rw [useful, if_pos rfl] at kept after
      exact .lowered named found counted less more remains kept before after
  · have useful : effect.item.isUsable = true := by
      rw [same, Item.isUsable, kind]
      rfl
    -- The card is put where it was, so the entry is changed to itself.
    rw [useful, if_pos rfl, same, ← found] at kept
    rw [useful, if_pos rfl, same, ← before] at after
    exact .card named found kind (kept.trans (Function.update_eq_self _ _)) after

theorem Performs.handles {world : World} (keyed : world.IsKeyed) {instruction : Instruction}
    {attempt : Attempt} (rule : Performs world instruction attempt) :
    world.Handles attempt.world instruction := by
  cases rule with
  | move went paid =>
      refine ⟨?_, stock_walked went _ _⟩
      have ⟨_, sameCity, _⟩ := Navigation.walk_eq_moved_iff.mp went
      funext ⟨spot, key⟩
      cases spot with
      | bag => rfl
      | place place => exact congrArg (fun city => City.itemAt? city place key) sameCity
  | turn paid => exact ⟨rfl, rfl⟩
  | pick found free => exact moves_picked keyed found free _
  | drop found free => exact moves_dropped keyed found free _
  | operate found rule => exact uses_operated keyed found rule
  | scan told => exact ⟨rfl, rfl⟩
  | radar => exact ⟨rfl, rfl⟩
  | help => exact ⟨rfl, rfl⟩
  | quit => exact ⟨rfl, rfl⟩

/-! ## When an instruction succeeds -/

/-- An item is kept at one spot under the key of an identifier, and none at another. -/
def CanMove (world : World) (id : String) (source target : Spot) : Prop :=
  (∃ item, world.kept? (source, itemKey id) = some item) ∧
    world.kept? (target, itemKey id) = none

/-- An item can be used: it has uses left, or works the door of the street ahead. -/
def Serves (world : World) (item : Item) : Prop :=
  (∃ times, item.kind.times? = some times ∧ times.value ≠ 0) ∨
    ∃ code street, item.kind = .codeCard code ∧
      world.navigation.streetAhead? = some street ∧
        Text.lowercase street.code = Text.lowercase code

theorem exists_performs_pick_iff {world : World} {id : String} :
    (∃ attempt, Performs world (.pick id) attempt) ↔ world.CanMove id world.here .bag := by
  rw [CanMove, kept?_here]
  constructor
  · rintro ⟨attempt, rule⟩
    cases rule with
    | pick found free => exact ⟨⟨_, found⟩, Bag.contains_eq_false_iff.mp free⟩
  · rintro ⟨⟨item, found⟩, free⟩
    exact ⟨_, .pick found (Bag.contains_eq_false_iff.mpr free)⟩

theorem exists_performs_drop_iff {world : World} {id : String} :
    (∃ attempt, Performs world (.drop id) attempt) ↔ world.CanMove id .bag world.here := by
  rw [CanMove, kept?_here]
  constructor
  · rintro ⟨attempt, rule⟩
    cases rule with
    | drop found free => exact ⟨⟨_, found⟩, Bag.contains_eq_false_iff.mp free⟩
  · rintro ⟨⟨item, found⟩, free⟩
    exact ⟨_, .drop found (Bag.contains_eq_false_iff.mpr free)⟩

theorem ne_least_of_decrement {times fewer : Quantity} (lowered : times.decrement = .ok fewer) :
    times.value ≠ -2147483648 := by
  intro least
  rw [Quantity.decrement_eq_error_iff.mpr ⟨least, rfl⟩] at lowered
  cases lowered

/-- An item can be used that serves, unless its counter is at the least quantity. -/
theorem exists_useOf_iff {world : World} {item : Item} :
    (∃ effect, UseOf world item effect) ↔
      world.Serves item ∧ ∀ times, item.kind.times? = some times → times.value ≠ -2147483648 := by
  constructor
  · rintro ⟨effect, rule⟩
    cases rule with
    | fuel usable lowered | garbage usable lowered =>
        refine ⟨.inl ⟨_, rfl, fun nought => usable (Quantity.ext nought)⟩, ?_⟩
        rintro _ ⟨⟩
        exact ne_least_of_decrement lowered
    | codeCard worked =>
        rcases Navigation.exists_toggleAhead?_iff.mp ⟨_, worked⟩ with ⟨street, ahead, sameCode⟩
        refine ⟨.inr ⟨_, street, rfl, ahead, sameCode⟩, ?_⟩
        rintro _ ⟨⟩
  · rcases item with ⟨id, description, kind⟩
    rintro ⟨⟨times, counted, some⟩ | ⟨code, street, rfl, ahead, sameCode⟩, notLeast⟩
    · have usable : times ≠ .zero := fun nought => some (by rw [nought]; rfl)
      cases lowered : times.decrement with
      | error fault =>
          have ⟨least, _⟩ := Quantity.decrement_eq_error_iff.mp lowered
          exact absurd least (notLeast times counted)
      | ok fewer =>
          cases kind <;> cases counted
          · exact ⟨_, .fuel usable lowered⟩
          · exact ⟨_, .garbage usable lowered⟩
    · rcases Navigation.exists_toggleAhead?_iff.mpr ⟨street, ahead, sameCode⟩ with
        ⟨toggled, worked⟩
      exact ⟨_, .codeCard worked⟩

theorem exists_performs_operate_iff {world : World} {id : String} {used : Option Item} :
    (∃ attempt, Performs world (.operate id used) attempt) ↔
      ∃ item, world.kept? (.bag, itemKey id) = some item ∧ world.Serves item ∧
        ∀ times, item.kind.times? = some times → times.value ≠ -2147483648 := by
  constructor
  · rintro ⟨attempt, rule⟩
    cases rule with
    | operate found rule => exact ⟨_, found, exists_useOf_iff.mp ⟨_, rule⟩⟩
  · rintro ⟨item, found, served⟩
    rcases exists_useOf_iff.mpr served with ⟨effect, rule⟩
    exact ⟨_, .operate found rule⟩

end World

namespace Engine

theorem exists_answer {engine : Engine} {instruction : Instruction} {attempt : Attempt}
    (done : engine.world.execute instruction = .ok attempt) :
    ∃ answer, engine.call (.execute instruction) = .ok answer := by
  show ∃ answer, engine.execute instruction = .ok answer
  rw [execute, done]
  cases failed : attempt.failure? with
  | none => exact ⟨_, by simp only [bind, Except.bind, failed]; rfl⟩
  | some failure => exact ⟨_, by simp only [bind, Except.bind, failed]; rfl⟩

/-- A use breaks down exactly if it has to lower the least quantity. -/
theorem operate_breaks_iff {engine : Engine} {id : String} {used : Option Item} :
    (∃ breakdown, engine.call (.execute (.operate id used)) = .error breakdown) ↔
      ∃ item times, engine.world.kept? (.bag, itemKey id) = some item ∧
        item.kind.times? = some times ∧ times.value = -2147483648 := by
  constructor
  · rintro ⟨⟨fault, events⟩, broken⟩
    rcases bind_eq_error_iff.mp broken with inWorld | ⟨attempt, -, rest⟩
    · rcases World.operate_breaks_iff.mp ⟨events, inWorld⟩ with
        ⟨item, times, found, counted, least, -⟩
      exact ⟨item, times, found, counted, least⟩
    · split at rest <;> cases rest
  · rintro ⟨item, times, found, counted, least⟩
    rcases World.operate_breaks_iff.mpr ⟨item, times, found, counted, least, rfl⟩ with
      ⟨events, inWorld⟩
    exact ⟨_, bind_eq_error_iff.mpr (.inl inWorld)⟩

/-- An instruction succeeds exactly if its rule applies. -/
theorem executed_iff {engine : Engine} (keyed : engine.world.IsKeyed) {instruction : Instruction}
    {answer : Answer} (done : engine.call (.execute instruction) = .ok answer) :
    answer.outcome? = some .executed ↔
      ∃ attempt, World.Performs engine.world instruction attempt := by
  constructor
  · intro succeeded
    rcases execute_cases keyed.inventory done with ⟨failure, -, rfl⟩ | ⟨attempt, rule, -⟩
    · cases succeeded
    · exact ⟨attempt, rule⟩
  · rintro ⟨attempt, rule⟩
    have answered : engine.call (.execute instruction) = .ok (engine.performed attempt) :=
      execute_of_performs keyed.inventory rule
    rw [answered] at done
    cases done
    rfl

theorem handles_of_executed {engine : Engine} (keyed : engine.world.IsKeyed)
    {instruction : Instruction} {answer : Answer}
    (done : engine.call (.execute instruction) = .ok answer)
    (succeeded : answer.outcome? = some .executed) :
    answer.engine.world.IsKeyed ∧ engine.world.Handles answer.engine.world instruction := by
  rcases execute_cases keyed.inventory done with ⟨failure, -, rfl⟩ | ⟨attempt, rule, rfl⟩
  · cases succeeded
  · exact ⟨rule.keeps.keyed keyed, rule.handles keyed⟩

theorem executed_operate_iff {engine : Engine} (keyed : engine.world.IsKeyed) {id : String}
    {used : Option Item} {answer : Answer}
    (done : engine.call (.execute (.operate id used)) = .ok answer) :
    answer.outcome? = some .executed ↔
      ∃ item, engine.world.kept? (.bag, itemKey id) = some item ∧ engine.world.Serves item := by
  rw [executed_iff keyed done, World.exists_performs_operate_iff]
  constructor
  · rintro ⟨item, found, serves, -⟩
    exact ⟨item, found, serves⟩
  · rintro ⟨item, found, serves⟩
    refine ⟨item, found, serves, fun times counted least => ?_⟩
    rcases operate_breaks_iff.mpr ⟨item, times, found, counted, least⟩ with ⟨breakdown, broken⟩
    rw [done] at broken
    cases broken

/--
An instruction that succeeds moves or changes the item that it says and nothing
else, and every item stays under its own key.  An item can be moved if its key is
taken where it comes from and free where it goes; a carried item can be used if
it has uses left, or if it is the card to the door of the street ahead.  Only a
use can break down, that of an item whose counter is at the least quantity.
-/
theorem executed_moves_or_changes_what_it_says {engine : Engine} (keyed : engine.world.IsKeyed) :
    (∀ instruction answer, engine.call (.execute instruction) = .ok answer →
      answer.outcome? = some .executed →
        answer.engine.world.IsKeyed ∧ engine.world.Handles answer.engine.world instruction) ∧
    (∀ id, ∃ answer, engine.call (.execute (.pick id)) = .ok answer ∧
      (answer.outcome? = some .executed ↔
        engine.world.CanMove id engine.world.here .bag)) ∧
    (∀ id, ∃ answer, engine.call (.execute (.drop id)) = .ok answer ∧
      (answer.outcome? = some .executed ↔
        engine.world.CanMove id .bag engine.world.here)) ∧
    ∀ id used,
      (∀ answer, engine.call (.execute (.operate id used)) = .ok answer →
        (answer.outcome? = some .executed ↔
          ∃ item, engine.world.kept? (.bag, itemKey id) = some item ∧
            engine.world.Serves item)) ∧
      ((∃ breakdown, engine.call (.execute (.operate id used)) = .error breakdown) ↔
        ∃ item times, engine.world.kept? (.bag, itemKey id) = some item ∧
          item.kind.times? = some times ∧ times.value = -2147483648) := by
  refine ⟨fun _ _ => handles_of_executed keyed, fun id => ?_, fun id => ?_, fun id used =>
    ⟨fun _ => executed_operate_iff keyed, operate_breaks_iff⟩⟩
  · rcases @exists_answer engine (.pick id) _ rfl with ⟨answer, done⟩
    exact ⟨answer, done, (executed_iff keyed done).trans World.exists_performs_pick_iff⟩
  · rcases @exists_answer engine (.drop id) _ rfl with ⟨answer, done⟩
    exact ⟨answer, done, (executed_iff keyed done).trans World.exists_performs_drop_iff⟩

/-- A robot at a door, with a lamp at its feet and a candle end in its bag. -/
def atTheDoor : Engine where
  world :=
    { robot := .fresh .standard
      navigation :=
        { city :=
            { places := [⟨"Porch", "A porch", false, .ofItems [⟨"Lamp", "A lamp", .generic⟩]⟩]
              streets := [] }
          current := 0
          heading := .north
          exists_current := by decide }
      inventory := .ofItems [⟨"Stub", "A candle end", .fuel .one .one⟩] }
  history := []

/-- The lamp goes into the bag as it is, and the candle end burns down. -/
theorem atTheDoor_lamp_and_stub :
    atTheDoor.world.IsKeyed ∧
      (∃ answer, atTheDoor.call (.execute (.pick "LAMP")) = .ok answer ∧
        atTheDoor.world.Moves answer.engine.world "LAMP" atTheDoor.world.here .bag) ∧
      ∃ answer, atTheDoor.call (.execute (.operate "stub" none)) = .ok answer ∧
        atTheDoor.world.Uses answer.engine.world "stub" := by
  have keyed : atTheDoor.world.IsKeyed :=
    ⟨by simp only [Bag.IsKeyed]; decide, by simp only [Bag.IsKeyed]; decide⟩
  rcases executed_moves_or_changes_what_it_says keyed with ⟨handles, picks, -, operates⟩
  refine ⟨keyed, ?_, ?_⟩
  · rcases picks "LAMP" with ⟨answer, done, succeeds⟩
    have executed := succeeds.mpr ⟨⟨⟨"Lamp", "A lamp", .generic⟩, by decide +kernel⟩, by decide +kernel⟩
    exact ⟨answer, done, (handles _ _ done executed).2⟩
  · have found : atTheDoor.world.kept? (.bag, itemKey "stub") =
        some ⟨"Stub", "A candle end", .fuel .one .one⟩ := by
      decide +kernel
    have ⟨succeeds, breaks⟩ := operates "stub" none
    cases done : atTheDoor.call (.execute (.operate "stub" none)) with
    | ok answer =>
        have serves : atTheDoor.world.Serves ⟨"Stub", "A candle end", .fuel .one .one⟩ :=
          .inl ⟨.one, rfl, by decide⟩
        have executed := (succeeds answer done).mpr ⟨_, found, serves⟩
        exact ⟨answer, rfl, (handles _ _ done executed).2⟩
    | error breakdown =>
        rcases breaks.mp ⟨breakdown, done⟩ with ⟨item, times, foundToo, counted, least⟩
        rw [found] at foundToo
        cases foundToo
        cases counted
        cases least

end Engine

end Rover
