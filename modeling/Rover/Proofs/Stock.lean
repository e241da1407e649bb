import Mathlib.Algebra.BigOperators.Group.List.Basic
import Mathlib.Algebra.Order.Group.Multiset
import Rover.Proofs.Kept

/-!
# The stock of a world

All items of a world together, those at its places and those in the bag, each
as often as it is there.  To pick and to drop move an item and change nothing
else about the stock; a use replaces an item by what it leaves of it.
-/

namespace Rover

namespace Bag

/-- The items of a bag, in no order. -/
def stock (bag : Bag) : Multiset Item :=
  bag.items

@[simp]
theorem stock_empty : empty.stock = 0 := rfl

theorem perm_placed {key : String} (item : Item) {entries : List (String × Item)}
    (free : ∀ entry ∈ entries, key ≠ entry.1) :
    (placed key item entries).Perm ((key, item) :: entries) := by
  induction entries with
  | nil => exact .refl _
  | cons head rest ih =>
      rw [placed]
      split
      · exact .refl _
      · rw [if_neg (free head List.mem_cons_self)]
        have later := ih fun entry member => free entry (List.mem_cons_of_mem _ member)
        exact (later.cons head).trans (.swap _ _ _)

theorem stock_add {bag : Bag} {item : Item} (free : bag.contains item.id = false) :
    (bag.add item).stock = item ::ₘ bag.stock := by
  have apart : ∀ entry ∈ bag.entries, item.key ≠ entry.1 := by
    rintro ⟨key, held⟩ member rfl
    have found := (bag.mem_entries_iff_atKey? _ held).mp member
    have absent := contains_eq_false_iff.mp free
    cases absent.symm.trans found
  exact Multiset.coe_eq_coe.mpr ((perm_placed item apart).map Prod.snd)

/-- A bag does not gain more than an item that is added, and nothing if it has its key. -/
theorem stock_add_le (bag : Bag) (item : Item) : (bag.add item).stock ≤ item ::ₘ bag.stock := by
  cases free : bag.contains item.id with
  | false => exact (stock_add free).le
  | true =>
      rw [add_eq_self_of_contains free]
      exact Multiset.le_cons_self _ _

/-- The entry that an identifier stands for, and the rest of the entries. -/
theorem perm_remove {bag : Bag} {id : String} {item : Item} (found : bag.find? id = some item) :
    bag.entries.Perm ((itemKey id, item) :: (bag.remove id).entries) := by
  have member : (itemKey id, item) ∈ bag.entries := (bag.mem_entries_iff_atKey? _ _).mpr found
  have rest : bag.entries.erase (itemKey id, item) = (bag.remove id).entries := by
    rw [bag.entries_nodup.erase_eq_filter]
    apply List.filter_congr
    rintro ⟨key, held⟩ inside
    by_cases same : key = itemKey id
    · subst same
      have present := (bag.mem_entries_iff_atKey? _ _).mp inside
      cases present.symm.trans found
      simp
    · have different : (key, held) ≠ (itemKey id, item) := fun equal =>
        same (congrArg Prod.fst equal)
      rw [bne_iff_ne.mpr different, bne_iff_ne.mpr same]
  rw [← rest]
  exact List.perm_cons_erase member

theorem stock_remove {bag : Bag} {id : String} {item : Item} (found : bag.find? id = some item) :
    bag.stock = item ::ₘ (bag.remove id).stock :=
  Multiset.coe_eq_coe.mpr ((perm_remove found).map Prod.snd)

theorem stock_adjust {bag : Bag} {id : String} {item : Item} (found : bag.find? id = some item)
    (left : Item) :
    (bag.adjust id fun _ => left).stock = left ::ₘ (bag.remove id).stock := by
  have present := find?_adjust_self found fun _ => left
  rw [stock_remove present, remove_adjust]

end Bag

namespace City

/-- All items that lie in a city. -/
def stock (city : City) : Multiset Item :=
  (city.places.map fun place => place.items.stock).sum

end City

theorem sum_map_modify {α : Type} {total : Type} [AddCommMonoid total] (measure : α → total)
    (change : α → α) {list : List α} {index : Nat} (inside : index < list.length) :
    ((list.modify index change).map measure).sum + measure list[index] =
      (list.map measure).sum + measure (change list[index]) := by
  induction list generalizing index with
  | nil => cases inside
  | cons head rest ih =>
      cases index with
      | zero =>
          simp only [List.modify_zero_cons, List.map_cons, List.sum_cons,
            List.getElem_cons_zero]
          ac_rfl
      | succ index =>
          simp only [List.modify_succ_cons, List.map_cons, List.sum_cons,
            List.getElem_cons_succ]
          rw [add_assoc, ih (Nat.lt_of_succ_lt_succ inside), add_assoc]

namespace Navigation

theorem stock_changeItems (navigation : Navigation) (change : Bag → Bag) :
    (navigation.changeItems change).city.stock + navigation.here.items.stock =
      navigation.city.stock + (change navigation.here.items).stock :=
  sum_map_modify (fun place : Place => place.items.stock)
    (fun found => { found with items := change found.items }) navigation.exists_current

theorem stock_changeItems_remove {navigation : Navigation} {id : String} {item : Item}
    (found : navigation.here.items.find? id = some item) :
    navigation.city.stock =
      item ::ₘ (navigation.changeItems fun items => items.remove id).city.stock := by
  have moved := navigation.stock_changeItems fun items => items.remove id
  rw [Bag.stock_remove found, Multiset.add_cons, ← Multiset.cons_add] at moved
  exact (add_right_cancel moved).symm

theorem stock_changeItems_add {navigation : Navigation} {item : Item}
    (free : navigation.here.items.contains item.id = false) :
    (navigation.changeItems fun items => items.add item).city.stock =
      item ::ₘ navigation.city.stock := by
  have moved := navigation.stock_changeItems fun items => items.add item
  rw [Bag.stock_add free, Multiset.add_cons, ← Multiset.cons_add] at moved
  exact add_right_cancel moved

theorem stock_changeItems_add_le (navigation : Navigation) (item : Item) :
    (navigation.changeItems fun items => items.add item).city.stock ≤
      item ::ₘ navigation.city.stock := by
  have moved := navigation.stock_changeItems fun items => items.add item
  have gained := add_le_add_right (navigation.here.items.stock_add_le item) navigation.city.stock
  rw [Multiset.add_cons, ← Multiset.cons_add, ← moved] at gained
  exact le_of_add_le_add_right gained

end Navigation

namespace World

/-- All items of a world. -/
def stock (world : World) : Multiset Item :=
  world.navigation.city.stock + world.inventory.stock

theorem stock_walked {world : World} {direction : Direction} {moved : Navigation}
    (went : world.navigation.walk direction = .ok (.ok moved)) (instruction : Instruction)
    (amount : Quantity) :
    (world.walked instruction direction moved amount).world.stock = world.stock := by
  show moved.city.stock + world.inventory.stock = world.stock
  rw [(Navigation.walk_eq_moved_iff.mp went).2.1]
  rfl

theorem stock_picked {world : World} (keyed : world.IsKeyed) {id : String} {item : Item}
    (found : world.navigation.here.items.find? id = some item)
    (free : world.inventory.contains id = false) (instruction : Instruction) :
    (world.picked instruction id item).world.stock = world.stock := by
  have alsoFree : world.inventory.contains item.id = false := by
    rw [Bag.contains_congr _ (keyed.here.key_of_find? found)]
    exact free
  show (world.navigation.changeItems fun items => items.remove id).city.stock +
    (world.inventory.add item).stock = world.stock
  rw [Bag.stock_add alsoFree, stock, Navigation.stock_changeItems_remove found,
    Multiset.add_cons, Multiset.cons_add]

theorem stock_dropped {world : World} (keyed : world.IsKeyed) {id : String} {item : Item}
    (found : world.inventory.find? id = some item)
    (free : world.navigation.here.items.contains id = false) (instruction : Instruction) :
    (world.dropped instruction id item).world.stock = world.stock := by
  have alsoFree : world.navigation.here.items.contains item.id = false := by
    rw [Bag.contains_congr _ (keyed.inventory.key_of_find? found)]
    exact free
  show (world.navigation.changeItems fun items => items.add item).city.stock +
    (world.inventory.remove id).stock = world.stock
  rw [Navigation.stock_changeItems_add alsoFree, stock,
    Bag.stock_remove found, Multiset.add_cons, Multiset.cons_add]

theorem stock_toggled {world : World} {code : String} {toggled : Navigation}
    (worked : world.navigation.toggleAhead? code = some toggled) :
    ({ world with navigation := toggled } : World).stock = world.stock := by
  show (toggled.city.places.map fun place => place.items.stock).sum + world.inventory.stock =
    world.stock
  rw [Navigation.places_toggleAhead? worked]
  rfl

theorem UseOf.stock_eq {world : World} {item : Item} {effect : ItemEffect}
    (rule : UseOf world item effect) : effect.world.stock = world.stock := by
  cases rule with
  | fuel usable lowered => rfl
  | garbage usable lowered => rfl
  | codeCard worked => exact stock_toggled worked

/-- A use takes an item from the stock, and puts back what is left of it if that is usable. -/
theorem stock_operated {world : World} {id : String} {item : Item} {effect : ItemEffect}
    (found : world.inventory.find? id = some item)
    (rule : UseOf world item effect) :
    ∃ rest, world.stock = item ::ₘ rest ∧
      (operated id effect).world.stock =
        if effect.item.isUsable then effect.item ::ₘ rest else rest := by
  have city : effect.world.navigation.city.stock = world.navigation.city.stock := by
    have same := rule.stock_eq
    rw [stock, stock, use_inventory rule] at same
    exact add_right_cancel same
  refine ⟨world.navigation.city.stock + (world.inventory.remove id).stock, ?_, ?_⟩
  · rw [stock, Bag.stock_remove found, Multiset.add_cons]
  · show effect.world.navigation.city.stock +
      (effect.world.inventory.afterUse id effect.item).stock = _
    rw [city, use_inventory rule, Bag.afterUse]
    split
    · rw [Bag.stock_adjust found, Multiset.add_cons]
    · rfl

/-- What an item is picked from holds it, and a bag that has its key leaves it to be lost. -/
theorem stock_picked_le {world : World} {id : String} {item : Item}
    (found : world.navigation.here.items.find? id = some item) (instruction : Instruction) :
    (world.picked instruction id item).world.stock ≤ world.stock := by
  show (world.navigation.changeItems fun items => items.remove id).city.stock +
    (world.inventory.add item).stock ≤ world.stock
  rw [stock, Navigation.stock_changeItems_remove found, Multiset.cons_add, ← Multiset.add_cons]
  exact add_le_add_right (world.inventory.stock_add_le item) _

theorem stock_dropped_le {world : World} {id : String} {item : Item}
    (found : world.inventory.find? id = some item) (instruction : Instruction) :
    (world.dropped instruction id item).world.stock ≤ world.stock := by
  show (world.navigation.changeItems fun items => items.add item).city.stock +
    (world.inventory.remove id).stock ≤ world.stock
  rw [stock, Bag.stock_remove found, Multiset.add_cons, ← Multiset.cons_add]
  exact add_le_add_left (world.navigation.stock_changeItems_add_le item) _

theorem Mislays.stock_le {world : World} {instruction : Instruction} {attempt : Attempt}
    (mislays : Mislays world instruction attempt) : attempt.world.stock ≤ world.stock := by
  cases mislays with
  | @astray id item handled found different =>
      show world.navigation.city.stock + (world.inventory.remove id).stock ≤ world.stock
      rw [stock, Bag.stock_remove found, Multiset.add_cons]
      exact Multiset.le_cons_self _ _

/-- What an instruction makes of the stock. -/
theorem Performs.stock_cases {world : World} (keyed : world.IsKeyed)
    {instruction : Instruction} {attempt : Attempt}
    (rule : Performs world instruction attempt) :
    (attempt.instruction.used? = none ∧ attempt.world.stock = world.stock) ∨
      ∃ item effect rest, UseOf world item effect ∧
        attempt.instruction.used? = some effect.item ∧ world.stock = item ::ₘ rest ∧
          attempt.world.stock =
            if effect.item.isUsable then effect.item ::ₘ rest else rest := by
  cases rule with
  | move went paid => exact Or.inl ⟨rfl, stock_walked went _ _⟩
  | turn paid => exact Or.inl ⟨rfl, rfl⟩
  | pick found free => exact Or.inl ⟨rfl, stock_picked keyed found free _⟩
  | drop found free => exact Or.inl ⟨rfl, stock_dropped keyed found free _⟩
  | @operate id used item effect found rule =>
      rcases stock_operated found rule with ⟨rest, before, after⟩
      exact Or.inr ⟨item, effect, rest, rule, rfl, before, after⟩
  | scan told => exact Or.inl ⟨rfl, rfl⟩
  | radar => exact Or.inl ⟨rfl, rfl⟩
  | help => exact Or.inl ⟨rfl, rfl⟩
  | quit => exact Or.inl ⟨rfl, rfl⟩

theorem stock_putBack_of_contains {world : World} {item : Item}
    (present : world.inventory.contains item.id = true) (events : List Event) :
    (world.putBack item events).world.stock = world.stock := by
  show world.navigation.city.stock + (world.inventory.add item).stock = world.stock
  rw [Bag.add_eq_self_of_contains present]
  rfl

theorem stock_putBack_of_free {world : World} {item : Item}
    (free : world.inventory.contains item.id = false) (events : List Event) :
    (world.putBack item events).world.stock = item ::ₘ world.stock := by
  show world.navigation.city.stock + (world.inventory.add item).stock = item ::ₘ world.stock
  rw [Bag.stock_add free, Multiset.add_cons]
  rfl

end World

end Rover
