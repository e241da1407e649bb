import Rover.Bag

/-!
# Bags as maps

The view of a bag is `atKey?`, a map from keys to items; `find?` is the same
view through identifiers in any case.  The map determines the bag, and every
operation on bags is described by one equation on maps: an item is added under
a key only if the key is free, removed or changed under its own key, and
nothing happens under any other key.
-/

namespace Rover.Bag

/-! ## The map determines the bag -/

theorem mem_entries_iff_atKey? (bag : Bag) (key : String) (item : Item) :
    (key, item) ∈ bag.entries ↔ bag.atKey? key = some item := by
  obtain ⟨entries, sorted⟩ := bag
  simp only [atKey?]
  induction entries with
  | nil => simp
  | cons head rest ih =>
      obtain ⟨below, sortedRest⟩ := List.pairwise_cons.mp sorted
      by_cases same : head.1 = key
      · subst same
        have fresh : (head.1, item) ∉ rest := fun member =>
          String.lt_irrefl head.1 (below (head.1, item) member)
        simp [Prod.ext_iff, fresh, eq_comm]
      · have different : (key, item) ≠ head := fun equal => same (by simp [← equal])
        simp [same, different, ih sortedRest]

theorem entries_nodup (bag : Bag) : bag.entries.Nodup := by
  refine bag.sorted.imp fun {earlier later} below => ?_
  rintro rfl
  exact String.lt_irrefl _ below

/-- Two bags with the same view are the same bag. -/
theorem ext_atKey? {left right : Bag} (same : ∀ key, left.atKey? key = right.atKey? key) :
    left = right := by
  apply Bag.ext
  refine List.Perm.eq_of_pairwise (fun first second _ _ below above => ?_)
    left.sorted right.sorted ?_
  · exact absurd (String.lt_trans below above) (String.lt_irrefl first.1)
  · rw [List.perm_ext_iff_of_nodup left.entries_nodup right.entries_nodup]
    rintro ⟨key, item⟩
    rw [mem_entries_iff_atKey?, mem_entries_iff_atKey?, same]

/-! ## One equation for each operation -/

@[simp]
theorem atKey?_empty (key : String) : empty.atKey? key = none := rfl

theorem find?_placed (key : String) (item : Item) {entries : List (String × Item)}
    (sorted : entries.Pairwise fun earlier later => earlier.1 < later.1) (wanted : String) :
    ((placed key item entries).find? fun entry => entry.1 = wanted) =
      if wanted = key then
        (entries.find? fun entry => entry.1 = wanted).or (some (key, item))
      else
        entries.find? fun entry => entry.1 = wanted := by
  induction entries with
  | nil => by_cases same : wanted = key <;> simp [placed, same, eq_comm]
  | cons head rest ih =>
      obtain ⟨below, sortedRest⟩ := List.pairwise_cons.mp sorted
      simp only [placed]
      split
      · rename_i first
        by_cases same : wanted = key
        · subst same
          have absent : ((head :: rest).find? fun entry => entry.1 = wanted) = none := by
            simp only [List.find?_eq_none, List.mem_cons, decide_eq_true_eq]
            rintro entry (rfl | later) rfl
            · exact String.lt_irrefl _ first
            · exact String.lt_irrefl _ (String.lt_trans first (below entry later))
          simp [absent]
        · simp [same, Ne.symm same]
      · split
        · rename_i present
          by_cases same : wanted = key
          · simp [same, present]
          · simp [same]
        · by_cases here : head.1 = wanted
          · simp_all
          · simp [here, ih sortedRest]

/-- A bag keeps what it has under the key of an item that is added. -/
theorem atKey?_add (bag : Bag) (item : Item) (key : String) :
    (bag.add item).atKey? key =
      if key = item.key then (bag.atKey? key).or (some item) else bag.atKey? key := by
  simp only [atKey?, add, find?_placed item.key item bag.sorted]
  split
  · cases bag.entries.find? fun entry => entry.1 = key <;> simp
  · rfl

theorem atKey?_remove (bag : Bag) (id key : String) :
    (bag.remove id).atKey? key = if key = itemKey id then none else bag.atKey? key := by
  simp only [atKey?, remove, List.find?_filter]
  split
  · rename_i same
    simp [List.find?_eq_none, same]
  · rename_i different
    congr 2
    funext entry
    by_cases here : entry.1 = key
    · simp [here, different]
    · simp [here]

theorem atKey?_adjust (bag : Bag) (id key : String) (change : Item → Item) :
    (bag.adjust id change).atKey? key =
      if key = itemKey id then (bag.atKey? key).map change else bag.atKey? key := by
  have kept : (fun entry : String × Item => decide (entry.1 = key)) ∘
      (fun entry => if entry.1 = itemKey id then (entry.1, change entry.2) else entry) =
        fun entry => decide (entry.1 = key) := by
    funext entry
    simp only [Function.comp_apply]
    split <;> rfl
  simp only [atKey?, adjust, List.find?_map, kept, Option.map_map]
  split
  · rename_i same
    subst same
    cases equation : bag.entries.find? fun entry => entry.1 = itemKey id with
    | none => simp
    | some entry =>
        have here : entry.1 = itemKey id := by simpa using List.find?_some equation
        simp [here]
  · rename_i different
    cases equation : bag.entries.find? fun entry => entry.1 = key with
    | none => simp
    | some entry =>
        have here : entry.1 = key := by simpa using List.find?_some equation
        simp [here, different]

/-! ## Identifiers in any case -/

theorem find?_add (bag : Bag) (item : Item) (id : String) :
    (bag.add item).find? id =
      if itemKey id = item.key then (bag.find? id).or (some item) else bag.find? id :=
  bag.atKey?_add item (itemKey id)

theorem find?_remove (bag : Bag) (id other : String) :
    (bag.remove id).find? other =
      if itemKey other = itemKey id then none else bag.find? other :=
  bag.atKey?_remove id (itemKey other)

theorem find?_adjust (bag : Bag) (id other : String) (change : Item → Item) :
    (bag.adjust id change).find? other =
      if itemKey other = itemKey id then (bag.find? other).map change else bag.find? other :=
  bag.atKey?_adjust id (itemKey other) change

theorem contains_iff {bag : Bag} {id : String} :
    bag.contains id = true ↔ ∃ item, bag.find? id = some item := by
  simp [contains, Option.isSome_iff_exists]

/-- A bag does not change when an item is added whose key it has. -/
theorem add_eq_self_of_contains {bag : Bag} {item : Item}
    (present : bag.contains item.id = true) : bag.add item = bag := by
  obtain ⟨held, found⟩ := contains_iff.mp present
  refine ext_atKey? fun key => ?_
  rw [atKey?_add]
  split
  · rename_i same
    have here : bag.atKey? key = some held := same ▸ found
    simp [here]
  · rfl

theorem mem_items_iff {bag : Bag} {item : Item} :
    item ∈ bag.items ↔ ∃ key, bag.atKey? key = some item := by
  simp [items, ← mem_entries_iff_atKey?]

end Rover.Bag
