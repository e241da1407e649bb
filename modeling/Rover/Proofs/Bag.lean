import Rover.Bag.View
import Rover.Inventory

/-!
# Keyed bags

A bag is keyed if every item lies under its own key.  Adding and removing keep
a bag keyed, and so does changing an item in place if its identifier stays.
In keyed bags the operations undo one another: an item that is removed and
added again, or added and removed again, leaves the bag as it was.
-/

namespace Rover.Bag

/-- Every item is kept under its own key. -/
def IsKeyed (bag : Bag) : Prop :=
  ∀ entry ∈ bag.entries, entry.1 = entry.2.key

theorem isKeyed_iff {bag : Bag} :
    bag.IsKeyed ↔ ∀ key item, bag.atKey? key = some item → item.key = key := by
  constructor
  · intro keyed key item found
    exact (keyed (key, item) ((bag.mem_entries_iff_atKey? key item).mpr found)).symm
  · rintro keyed ⟨key, item⟩ member
    exact (keyed key item ((bag.mem_entries_iff_atKey? key item).mp member)).symm

theorem IsKeyed.key_of_find? {bag : Bag} (keyed : bag.IsKeyed) {id : String} {item : Item}
    (found : bag.find? id = some item) : itemKey item.id = itemKey id :=
  isKeyed_iff.mp keyed (itemKey id) item found

theorem isKeyed_empty : empty.IsKeyed := by
  intro entry member
  cases member

theorem IsKeyed.add {bag : Bag} (keyed : bag.IsKeyed) (item : Item) :
    (bag.add item).IsKeyed := by
  rw [isKeyed_iff] at keyed ⊢
  intro key held found
  rw [atKey?_add] at found
  split at found
  · rename_i same
    cases present : bag.atKey? key with
    | none =>
        simp only [present, Option.none_or, Option.some.injEq] at found
        rw [← found, same]
    | some old =>
        simp only [present, Option.some_or, Option.some.injEq] at found
        exact found ▸ keyed key old present
  · exact keyed key held found

theorem IsKeyed.remove {bag : Bag} (keyed : bag.IsKeyed) (id : String) :
    (bag.remove id).IsKeyed := by
  intro entry member
  exact keyed entry (List.mem_filter.mp member).1

theorem IsKeyed.adjust {bag : Bag} (keyed : bag.IsKeyed) {id : String} {change : Item → Item}
    (kept : ∀ item, bag.find? id = some item → (change item).key = item.key) :
    (bag.adjust id change).IsKeyed := by
  rw [isKeyed_iff] at keyed ⊢
  intro key held found
  rw [atKey?_adjust] at found
  split at found
  · rename_i same
    obtain ⟨old, present, rfl⟩ := Option.map_eq_some_iff.mp found
    subst same
    rw [kept old present]
    exact keyed (itemKey id) old present
  · exact keyed key held found

/-! ## What holds of all items -/

/-- Every item of a bag has a property. -/
def All (property : Item → Prop) (bag : Bag) : Prop :=
  ∀ item ∈ bag.items, property item

variable {property : Item → Prop} {bag : Bag}

theorem all_iff : bag.All property ↔
    ∀ key item, bag.atKey? key = some item → property item := by
  constructor
  · intro holds key item found
    exact holds item (mem_items_iff.mpr ⟨key, found⟩)
  · intro holds item member
    rcases mem_items_iff.mp member with ⟨key, found⟩
    exact holds key item found

theorem All.of_find? (holds : bag.All property) {id : String} {item : Item}
    (found : bag.find? id = some item) : property item :=
  all_iff.mp holds (itemKey id) item found

theorem all_empty : empty.All property := by
  intro item member
  cases member

theorem All.add (holds : bag.All property) {item : Item} (new : property item) :
    (bag.add item).All property := by
  rw [all_iff] at holds ⊢
  intro key held found
  rw [atKey?_add] at found
  split at found
  · cases present : bag.atKey? key with
    | none =>
        rw [present, Option.none_or, Option.some.injEq] at found
        exact found ▸ new
    | some old =>
        rw [present, Option.some_or, Option.some.injEq] at found
        exact found ▸ holds key old present
  · exact holds key held found

theorem All.remove (holds : bag.All property) (id : String) :
    (bag.remove id).All property := by
  rw [all_iff] at holds ⊢
  intro key held found
  rw [atKey?_remove] at found
  split at found
  · cases found
  · exact holds key held found

theorem All.adjust (holds : bag.All property) {id : String} {change : Item → Item}
    (changed : ∀ item, bag.find? id = some item → property (change item)) :
    (bag.adjust id change).All property := by
  rw [all_iff] at holds ⊢
  intro key held found
  rw [atKey?_adjust] at found
  split at found
  · rename_i same
    subst same
    rcases Option.map_eq_some_iff.mp found with ⟨old, present, rfl⟩
    exact changed old present
  · exact holds key held found

/-! ## Operations that undo one another -/

theorem adjust_congr (bag : Bag) {id other : String} (same : itemKey id = itemKey other)
    (change : Item → Item) : bag.adjust id change = bag.adjust other change := by
  simp only [adjust, same]

theorem find?_congr (bag : Bag) {id other : String} (same : itemKey id = itemKey other) :
    bag.find? id = bag.find? other := by
  simp only [find?, same]

theorem contains_congr (bag : Bag) {id other : String} (same : itemKey id = itemKey other) :
    bag.contains id = bag.contains other := by
  simp only [contains, bag.find?_congr same]

theorem contains_eq_false_iff {bag : Bag} {id : String} :
    bag.contains id = false ↔ bag.find? id = none := by
  simp [contains]

theorem contains_remove_self (bag : Bag) (id : String) :
    (bag.remove id).contains id = false := by
  rw [contains_eq_false_iff, find?_remove]
  simp

theorem find?_add_self {bag : Bag} {item : Item} (free : bag.contains item.id = false) :
    (bag.add item).find? item.id = some item := by
  rw [contains_eq_false_iff] at free
  rw [find?_add]
  simp [free, Item.key]

theorem IsKeyed.add_remove {bag : Bag} (keyed : bag.IsKeyed) {id : String} {item : Item}
    (found : bag.find? id = some item) : (bag.remove id).add item = bag := by
  have sameKey : item.key = itemKey id := keyed.key_of_find? found
  apply ext_atKey?
  intro key
  rw [atKey?_add, atKey?_remove, sameKey]
  split
  · rename_i same
    subst same
    rw [Option.none_or]
    exact found.symm
  · rfl

theorem remove_add {bag : Bag} {item : Item} {id : String} (same : itemKey item.id = itemKey id)
    (free : bag.contains id = false) : (bag.add item).remove id = bag := by
  apply ext_atKey?
  intro key
  rw [atKey?_remove, atKey?_add]
  split
  · rename_i here
    subst here
    exact (contains_eq_false_iff.mp free).symm
  · rename_i different
    rw [if_neg]
    rwa [Item.key, same]

theorem adjust_adjust (bag : Bag) (id : String) (first second : Item → Item) :
    (bag.adjust id first).adjust id second = bag.adjust id (second ∘ first) := by
  apply ext_atKey?
  intro key
  simp only [atKey?_adjust]
  split
  · rw [Option.map_map]
  · rfl

theorem adjust_eq_self {bag : Bag} {id : String} {change : Item → Item}
    (kept : ∀ item, bag.find? id = some item → change item = item) :
    bag.adjust id change = bag := by
  apply ext_atKey?
  intro key
  rw [atKey?_adjust]
  split
  · rename_i same
    subst same
    cases found : bag.atKey? (itemKey id) with
    | none => rfl
    | some item =>
        rw [Option.map_some, kept item found]
  · rfl

theorem remove_adjust (bag : Bag) (id : String) (change : Item → Item) :
    (bag.adjust id change).remove id = bag.remove id := by
  apply ext_atKey?
  intro key
  simp only [atKey?_remove, atKey?_adjust]
  split <;> rfl

/-! ## Items that are used up -/

theorem find?_adjust_self {bag : Bag} {id : String} {item : Item}
    (found : bag.find? id = some item) (change : Item → Item) :
    (bag.adjust id change).find? id = some (change item) := by
  rw [find?_adjust, found]
  simp

/-- What its use leaves of an item goes from the bag exactly if it is of no more use. -/
theorem consume?_adjust {bag : Bag} {id : String} {item left : Item}
    (found : bag.find? id = some item) :
    (bag.adjust id fun _ => left).consume? id =
      if left.isUsable then none else some (left, bag.remove id) := by
  unfold consume? exhausted?
  rw [find?_adjust_self found, remove_adjust]
  cases usable : left.isUsable <;> simp [usable]

end Rover.Bag
