import Mathlib.Data.List.Basic
import Rover.Proofs.Draft
import Rover.Proofs.Stock

/-!
# Cities from maps can be written

A record makes no more than a map can tell of, and its number is one more than
the number of the record before it.  So every city from a map can be written:
its names, identifiers and codes have no quotes and no line feeds, and it has
no more places, streets and items than there are numbers for their records.
-/

namespace Rover.Atlas

/-! ## Items where they lie -/

/-- The items of some places, each with the number of the place where it lies. -/
def laidFrom (first : Nat) (places : List Place) : List (PlaceId × Item) :=
  (places.zipIdx first).flatMap fun (place, number) => place.items.items.map (number, ·)

theorem laidFrom_cons (first : Nat) (place : Place) (rest : List Place) :
    laidFrom first (place :: rest) =
      place.items.items.map (first, ·) ++ laidFrom (first + 1) rest := by
  rw [laidFrom, List.zipIdx_cons, List.flatMap_cons]
  rfl

theorem length_laidFrom (first : Nat) (places : List Place) :
    (laidFrom first places).length =
      Multiset.card (places.map fun place : Place => place.items.stock).sum := by
  induction places generalizing first with
  | nil => rfl
  | cons place rest ih =>
      rw [laidFrom_cons, List.length_append, List.length_map, ih, List.map_cons, List.sum_cons,
        Multiset.card_add]
      rfl

theorem isSome_useFields? {kind : ItemKind} (writable : kind.IsWritable) :
    (useFields? kind).isSome = true := by
  cases kind with
  | generic => cases writable
  | _ => rfl

/-- If a map can tell of all items of a city, it tells of all of them. -/
theorem laidItems_eq_laidFrom {city : City}
    (writable : ∀ place ∈ city.places, place.items.All Item.IsWritable) :
    laidItems city = laidFrom 0 city.places := by
  rw [laidItems, laidFrom]
  apply List.flatMap_congr
  rintro ⟨place, number⟩ member
  have told : ∀ item ∈ place.items.items, (useFields? item.kind).isSome = true := by
    intro item inside
    have within := List.fst_mem_of_mem_zipIdx member
    exact isSome_useFields? (writable place within item inside).kind
  dsimp only
  rw [List.filter_eq_self.mpr told]

/-! ## Stock -/

theorem stock_addPlace {city : City} {place : Place} (bare : place.items = .empty) :
    (city.addPlace place).stock = city.stock := by
  rw [City.stock, City.addPlace, List.map_append, List.sum_append, List.map_singleton,
    List.sum_singleton, bare, Bag.stock_empty, add_zero]
  rfl

theorem stock_changeItems {city : City} {place : PlaceId} {item : Item}
    (inside : place < city.places.length)
    (free : ∀ found, city.place? place = some found → found.items.contains item.id = false) :
    (city.changeItems place fun items => items.add item).stock = item ::ₘ city.stock :=
  @Navigation.stock_changeItems_add ⟨city, place, .north, inside⟩ item
    (free _ (List.getElem?_eq_getElem inside))

/-! ## Drafts -/

/-- A draft whose city can be written, but for having no places yet. -/
structure Draft.IsWritable (draft : Draft) : Prop where
  sound : IsSound draft.city
  places : ∀ place ∈ draft.city.places, place.IsWritable
  streets : ∀ street ∈ draft.city.streets, street.IsWritable draft.city.places.length
  items : ∀ place ∈ draft.city.places, place.items.All Item.IsWritable
  placeCount : draft.city.places.length ≤ UInt64.size
  streetCount : draft.city.streets.length ≤ UInt64.size
  itemCount : draft.itemCount ≤ UInt64.size
  counted : draft.city.stock.card = draft.itemCount

theorem Draft.isWritable_empty : Draft.empty.IsWritable where
  sound := ⟨nofun, nofun⟩
  places := nofun
  streets := nofun
  items := nofun
  placeCount := Nat.zero_le _
  streetCount := Nat.zero_le _
  itemCount := Nat.zero_le _
  counted := rfl

theorem Draft.IsWritable.grows {draft next : Draft} {part : Part} (writable : draft.IsWritable)
    (grows : draft.Grows part next) : next.IsWritable := by
  have sound := writable.sound.grows grows
  cases grows with
  | @place place bare placeWritable numbered =>
      have items : place.items.All Item.IsWritable := by
        rw [bare]
        exact Bag.all_empty
      refine ⟨sound, forall_places_addPlace writable.places placeWritable, ?_,
        forall_places_addPlace writable.items items, ?_, writable.streetCount,
        writable.itemCount, ?_⟩
      · intro street member
        have old := writable.streets street member
        rw [Draft.addPlace, length_places_addPlace]
        exact { old with
          source := Nat.lt_succ_of_lt old.source
          target := Nat.lt_succ_of_lt old.target }
      · rw [Draft.addPlace, length_places_addPlace]
        exact numbered
      · rw [Draft.addPlace, stock_addPlace bare]
        exact writable.counted
  | @street street streetWritable numbered =>
      refine ⟨sound, writable.places, forall_streets_addStreet writable.streets streetWritable,
        writable.items, writable.placeCount, ?_, writable.itemCount, writable.counted⟩
      rw [Draft.addStreet, length_streets_addStreet]
      exact numbered
  | @item place item itemWritable numbered inside free =>
      refine ⟨sound, ?_, ?_, ?_, ?_, writable.streetCount, numbered, ?_⟩
      · refine forall_places_changeItems writable.places ?_
        intro found present
        have old := writable.places found (List.mem_of_getElem? present)
        exact ⟨old.name, old.description⟩
      · rw [Draft.addItem, City.length_places_changeItems]
        exact writable.streets
      · refine forall_places_changeItems writable.items ?_
        intro found present
        exact (writable.items found (List.mem_of_getElem? present)).add itemWritable
      · rw [Draft.addItem, City.length_places_changeItems]
        exact writable.placeCount
      · rw [Draft.addItem, stock_changeItems inside free, Multiset.card_cons, writable.counted]

/-- Every city from a map can be written. -/
theorem isWritable_of_read {map : String} {city : City} (ran : read map = .ok city) :
    city.IsWritable := by
  have kept : ∀ (draft next : Draft) (part : Part), draft.IsWritable → draft.Grows part next →
      next.IsWritable :=
    fun draft next part writable grows => writable.grows grows
  rcases read_induction Draft.isWritable_empty kept ran with ⟨inhabited, last, writable, rfl⟩
  refine ⟨inhabited, writable.places, writable.streets, ?_, writable.placeCount,
    writable.streetCount, ?_⟩
  · intro place member entry inside
    constructor
    · exact writable.items place member entry.2 (List.mem_map_of_mem inside)
    · exact writable.sound.keyed place member entry inside
  · rw [laidItems_eq_laidFrom writable.items, length_laidFrom]
    exact writable.counted.trans_le writable.itemCount

end Rover.Atlas
