import Mathlib.Data.Fintype.EquivFin
import Rover.Proofs.Alike
import Rover.Proofs.Stock

/-!
# Labels

Every city has a twin that differs from it in the descriptions of items only,
and in which no two items are described alike.  There are always fresh
descriptions left, so the items are described anew one after the other.
-/

namespace Rover

/-! ## Entries -/

/-- Entries under the same key whose items differ in their descriptions at most. -/
structure EntriesAlike (entry twin : String × Item) : Prop where
  key : twin.1 = entry.1
  items : entry.2.Alike twin.2

theorem find?_alike {entries labelled : List (String × Item)}
    (pairs : List.Forall₂ EntriesAlike entries labelled) (key : String) :
    Option.Rel Item.Alike ((entries.find? fun entry => entry.1 = key).map Prod.snd)
      ((labelled.find? fun entry => entry.1 = key).map Prod.snd) := by
  induction pairs with
  | nil => exact .none
  | cons head rest ih =>
      rw [List.find?_cons, List.find?_cons, head.key]
      split
      · exact .some head.items
      · exact ih

theorem map_fst_eq {entries labelled : List (String × Item)}
    (pairs : List.Forall₂ EntriesAlike entries labelled) :
    labelled.map Prod.fst = entries.map Prod.fst := by
  induction pairs with
  | nil => rfl
  | cons head rest ih => rw [List.map_cons, List.map_cons, head.key, ih]

/-- The descriptions of the items of some entries. -/
def descriptions (entries : List (String × Item)) : List String :=
  entries.map fun entry => entry.2.description

theorem exists_labelled_entries (entries : List (String × Item)) (taken : Finset String) :
    ∃ labelled, List.Forall₂ EntriesAlike entries labelled ∧ (descriptions labelled).Nodup ∧
      ∀ label ∈ descriptions labelled, label ∉ taken := by
  induction entries with
  | nil => exact ⟨[], .nil, .nil, nofun⟩
  | cons entry rest ih =>
      rcases ih with ⟨labelled, pairs, distinct, fresh⟩
      rcases Infinite.exists_notMem_finset (taken ∪ (descriptions labelled).toFinset) with
        ⟨label, new⟩
      rw [Finset.mem_union, not_or, List.mem_toFinset] at new
      refine ⟨(entry.1, { entry.2 with description := label }) :: labelled,
        .cons ⟨rfl, rfl, rfl⟩ pairs, List.nodup_cons.mpr ⟨new.2, distinct⟩, ?_⟩
      intro other member
      rcases List.mem_cons.mp member with rfl | later
      · exact new.1
      · exact fresh other later

/-! ## Bags and cities -/

theorem Bag.exists_labelled (bag : Bag) (taken : Finset String) :
    ∃ labelled : Bag, bag.Alike labelled ∧ (labelled.stock.map Item.description).Nodup ∧
      ∀ label ∈ labelled.stock.map Item.description, label ∉ taken := by
  rcases exists_labelled_entries bag.entries taken with ⟨entries, pairs, distinct, fresh⟩
  have sorted : entries.Pairwise fun earlier later => earlier.1 < later.1 := by
    rw [← List.pairwise_map (R := fun earlier later : String => earlier < later),
      map_fst_eq pairs, List.pairwise_map]
    exact bag.sorted
  have labels : (Bag.mk entries sorted).stock.map Item.description =
      (descriptions entries : Multiset String) := by
    rw [stock, items, Multiset.map_coe, List.map_map]
    rfl
  refine ⟨⟨entries, sorted⟩, find?_alike pairs, ?_, ?_⟩
  · rw [labels]
    exact Multiset.coe_nodup.mpr distinct
  · rw [labels]
    exact fresh

theorem exists_labelled_places (places : List Place) (taken : Finset String) :
    ∃ labelled : List Place, List.Forall₂ Place.Alike places labelled ∧
      ((labelled.map fun place : Place => place.items.stock).sum.map Item.description).Nodup ∧
        ∀ label ∈ (labelled.map fun place : Place => place.items.stock).sum.map Item.description,
          label ∉ taken := by
  induction places generalizing taken with
  | nil =>
      refine ⟨[], .nil, Multiset.nodup_zero, ?_⟩
      intro label member
      exact absurd member (Multiset.notMem_zero label)
  | cons place rest ih =>
      rcases place.items.exists_labelled taken with ⟨items, alike, distinct, fresh⟩
      rcases ih (taken ∪ (items.stock.map Item.description).toFinset) with
        ⟨labelled, pairs, distinctRest, freshRest⟩
      refine ⟨{ place with items } :: labelled, .cons ⟨rfl, alike⟩ pairs, ?_, ?_⟩
      · rw [List.map_cons, List.sum_cons, Multiset.map_add, Multiset.nodup_add]
        refine ⟨distinct, distinctRest, ?_⟩
        rw [Multiset.disjoint_left]
        intro label first later
        apply freshRest label later
        exact Finset.mem_union_right _ (Multiset.mem_toFinset.mpr first)
      · rw [List.map_cons, List.sum_cons, Multiset.map_add]
        intro label member
        rcases Multiset.mem_add.mp member with first | later
        · exact fresh label first
        · exact fun old => freshRest label later (Finset.mem_union_left _ old)

theorem City.exists_labelled (city : City) :
    ∃ labelled : City, city.Alike labelled ∧ (labelled.stock.map Item.description).Nodup := by
  rcases exists_labelled_places city.places ∅ with ⟨places, pairs, distinct, -⟩
  exact ⟨{ city with places }, ⟨pairs, rfl⟩, distinct⟩

end Rover
