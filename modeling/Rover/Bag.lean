import Rover.Item

/-!
# Bags

A bag holds items sorted by key, at most one under each.  The order is part of
the type, so that two bags with the same entries are equal.  An entry keeps
its key when its item is changed in place.

The view of a bag is `find?`; what each operation does to it is told in
`Rover.Bag.View`.
-/

namespace Rover

/-- Items under keys that strictly increase. -/
structure Bag where
  entries : List (String × Item)
  sorted : entries.Pairwise fun earlier later => earlier.1 < later.1

namespace Bag

instance : DecidableEq Bag := fun left right =>
  decidable_of_iff (left.entries = right.entries) (by cases left; cases right; simp)

@[ext]
theorem ext {left right : Bag} (same : left.entries = right.entries) : left = right := by
  cases left
  cases right
  cases same
  rfl

/-! ## Entries in order -/

/-- An entry put where its key belongs, unless the key is there already. -/
def placed (key : String) (item : Item) : List (String × Item) → List (String × Item)
  | [] => [(key, item)]
  | entry :: rest =>
      if key < entry.1 then
        (key, item) :: entry :: rest
      else if key = entry.1 then
        entry :: rest
      else
        entry :: placed key item rest

theorem mem_placed {key : String} {item : Item} {entries : List (String × Item)}
    {entry : String × Item} (member : entry ∈ placed key item entries) :
    entry = (key, item) ∨ entry ∈ entries := by
  induction entries with
  | nil => simpa [placed] using member
  | cons head rest ih =>
      simp only [placed] at member
      split at member
      · simpa using member
      · split at member
        · exact Or.inr member
        · rcases List.mem_cons.mp member with same | later
          · exact Or.inr (by simp [same])
          · rcases ih later with same | old
            · exact Or.inl same
            · exact Or.inr (by simp [old])

theorem lt_of_not_lt_of_ne {left right : String} (notBelow : ¬ left < right)
    (different : left ≠ right) : right < left := by
  apply Decidable.byContradiction
  intro notAbove
  exact different (String.le_antisymm (String.not_lt.mp notAbove) (String.not_lt.mp notBelow))

theorem sorted_placed {key : String} {item : Item} {entries : List (String × Item)}
    (sorted : entries.Pairwise fun earlier later => earlier.1 < later.1) :
    (placed key item entries).Pairwise fun earlier later => earlier.1 < later.1 := by
  induction entries with
  | nil => simp [placed]
  | cons head rest ih =>
      have ⟨below, sortedRest⟩ := List.pairwise_cons.mp sorted
      simp only [placed]
      split
      · rename_i first
        refine List.pairwise_cons.mpr ⟨?_, sorted⟩
        intro entry member
        rcases List.mem_cons.mp member with rfl | later
        · exact first
        · exact String.lt_trans first (below entry later)
      · split
        · exact sorted
        · rename_i notFirst different
          refine List.pairwise_cons.mpr ⟨?_, ih sortedRest⟩
          intro entry member
          rcases mem_placed member with rfl | old
          · exact lt_of_not_lt_of_ne notFirst different
          · exact below entry old

/-! ## Operations -/

/-- The bag without items. -/
def empty : Bag := ⟨[], .nil⟩

/-- How many items a bag holds. -/
def size (bag : Bag) : Nat :=
  bag.entries.length

/-- Whether a bag holds nothing. -/
def isEmpty (bag : Bag) : Bool :=
  bag.entries.isEmpty

/-- The items by increasing key. -/
def items (bag : Bag) : List Item :=
  bag.entries.map Prod.snd

/-- The identifiers by increasing key, each as it was first written. -/
def ids (bag : Bag) : List String :=
  bag.items.map Item.id

/-- The identifiers in a row. -/
def text (bag : Bag) : String :=
  ", ".intercalate bag.ids

/-- The item under a key. -/
def atKey? (bag : Bag) (key : String) : Option Item :=
  (bag.entries.find? fun entry => entry.1 = key).map Prod.snd

/-- The item that an identifier, in any case, stands for. -/
def find? (bag : Bag) (id : String) : Option Item :=
  bag.atKey? (itemKey id)

/-- Whether an identifier, in any case, stands for an item of the bag. -/
def contains (bag : Bag) (id : String) : Bool :=
  (bag.find? id).isSome

/-- A bag with an item added; a bag that has its key already stays as it is. -/
def add (bag : Bag) (item : Item) : Bag :=
  ⟨placed item.key item bag.entries, sorted_placed bag.sorted⟩

/-- A bag without the item that an identifier stands for. -/
def remove (bag : Bag) (id : String) : Bag :=
  ⟨bag.entries.filter fun entry => entry.1 != itemKey id, bag.sorted.filter _⟩

/-- A bag with the item that an identifier stands for changed in place, under its old key. -/
def adjust (bag : Bag) (id : String) (change : Item → Item) : Bag :=
  ⟨bag.entries.map fun entry =>
      if entry.1 = itemKey id then (entry.1, change entry.2) else entry,
    bag.sorted.map _ (by
      intro earlier later below
      split <;> split <;> exact below)⟩

/-- The item that an identifier stands for, if it can no longer be used. -/
def exhausted? (bag : Bag) (id : String) : Option Item :=
  (bag.find? id).filter fun item => !item.isUsable

/-- The bag that the items of a list make, added one after the other. -/
def ofItems (items : List Item) : Bag :=
  items.foldl add empty

end Bag

end Rover
