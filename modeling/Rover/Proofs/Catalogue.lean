import Mathlib.Data.Finmap
import Mathlib.Data.Finset.Sort
import Mathlib.Data.String.Basic
import Rover.Inventory
import Rover.Onlookers
import Rover.Proofs.Bag

/-!
# Bags and catalogues

A catalogue is a finite map from keys to items, with no order to it.  It can be
asked all that a bag can be asked, and lists its items by sorting its keys.  A
bag is as good as its catalogue: asked the same things from the beginning, the
two give the same answers and tell onlookers the same.

As long as no item is put in the place of another one, the items of a list lie
under their own keys.  So a bag that is filled from a list holds the first item
of every key, and the order of the list shows in nothing else.
-/

namespace Rover

/-- Items by key, in no order. -/
abbrev Catalogue := Finmap fun _ : String => Item

namespace Catalogue

/-- The items by increasing key. -/
def listing (catalogue : Catalogue) : List Item :=
  catalogue.keys.sort.filterMap catalogue.lookup

/-- All that a catalogue holds, as onlookers are told it. -/
def changed (catalogue : Catalogue) : Event :=
  .inventoryChanged catalogue.listing

/-- The reply of a catalogue to a request, the catalogue afterwards, and what onlookers are told. -/
def serve (catalogue : Catalogue) : Bag.Request → Bag.Reply × Catalogue × List Event
  | .add item =>
      if item.key ∈ catalogue then
        (.truth false, catalogue, [])
      else
        (.truth true, catalogue.insert item.key item, [])
  | .find id => (.item (catalogue.lookup (itemKey id)), catalogue, [])
  | .overwrite id item =>
      if itemKey id ∈ catalogue then
        (.truth true, catalogue.insert (itemKey id) item, [])
      else
        (.truth false, catalogue, [])
  | .contains id => (.truth (decide (itemKey id ∈ catalogue)), catalogue, [])
  | .remove id => (.item (catalogue.lookup (itemKey id)), catalogue.erase (itemKey id), [])
  | .consume id =>
      match catalogue.lookup (itemKey id) with
      | none => (.item none, catalogue, [])
      | some item =>
          if item.isUsable then
            (.item none, catalogue, [])
          else
            (.item (some item), catalogue.erase (itemKey id),
              [changed (catalogue.erase (itemKey id))])
  | .announce => (.done, catalogue, [catalogue.changed])
  | .items => (.items catalogue.listing, catalogue, [])

end Catalogue

namespace Bag

/-- A bag and a catalogue hold the same items under the same keys. -/
def Matches (bag : Bag) (catalogue : Catalogue) : Prop :=
  ∀ key, bag.atKey? key = catalogue.lookup key

variable {bag : Bag} {catalogue : Catalogue}

theorem matches_empty : Matches empty ∅ := by
  intro key
  rw [Finmap.lookup_empty, atKey?_empty]

theorem Matches.find?_eq (same : bag.Matches catalogue) (id : String) :
    bag.find? id = catalogue.lookup (itemKey id) :=
  same (itemKey id)

theorem Matches.contains_eq (same : bag.Matches catalogue) (id : String) :
    bag.contains id = decide (itemKey id ∈ catalogue) := by
  rw [contains, same.find?_eq]
  exact Bool.eq_iff_iff.mpr (by rw [Finmap.lookup_isSome, decide_eq_true_eq])

/-! ## Listings -/

theorem Matches.lookup_of_mem (same : bag.Matches catalogue) {entry : String × Item}
    (member : entry ∈ bag.entries) : catalogue.lookup entry.1 = some entry.2 := by
  rw [← same]
  exact (bag.mem_entries_iff_atKey? entry.1 entry.2).mp member

/-- The keys of a bag are those of its catalogue, sorted. -/
theorem Matches.map_fst_entries (same : bag.Matches catalogue) :
    bag.entries.map Prod.fst = catalogue.keys.sort := by
  have increasing : (bag.entries.map Prod.fst).Pairwise (· < ·) :=
    List.pairwise_map.mpr bag.sorted
  have members : (bag.entries.map Prod.fst).toFinset = catalogue.keys := by
    ext key
    rw [List.mem_toFinset, Finmap.mem_keys, Finmap.mem_iff]
    constructor
    · intro member
      rcases List.mem_map.mp member with ⟨entry, inside, rfl⟩
      exact ⟨entry.2, same.lookup_of_mem inside⟩
    · rintro ⟨item, found⟩
      rw [← same, ← mem_entries_iff_atKey?] at found
      exact List.mem_map.mpr ⟨(key, item), found, rfl⟩
  rw [← members]
  exact ((List.toFinset_sort (· ≤ ·) increasing.nodup).mpr (increasing.imp le_of_lt)).symm

theorem Matches.items_eq (same : bag.Matches catalogue) : bag.items = catalogue.listing := by
  have found : ∀ entry ∈ bag.entries,
      (catalogue.lookup ∘ Prod.fst) entry = (some ∘ Prod.snd) entry :=
    fun entry member => same.lookup_of_mem member
  rw [Catalogue.listing, ← same.map_fst_entries, List.filterMap_map, List.filterMap_congr found,
    List.filterMap_eq_map]
  rfl

theorem Matches.changed_eq (same : bag.Matches catalogue) : bag.changed = catalogue.changed := by
  rw [changed, Catalogue.changed, same.items_eq]

theorem Matches.size_eq (same : bag.Matches catalogue) : bag.size = catalogue.keys.card := by
  rw [← Finset.length_sort (· ≤ ·), ← same.map_fst_entries, List.length_map]
  rfl

theorem Matches.isEmpty_iff (same : bag.Matches catalogue) :
    bag.isEmpty = true ↔ catalogue = ∅ := by
  rw [isEmpty, List.isEmpty_iff]
  constructor
  · intro bare
    have nothing : bag = empty := Bag.ext bare
    apply Finmap.ext_lookup
    intro key
    rw [← same, nothing, Finmap.lookup_empty, atKey?_empty]
  · rintro rfl
    have keys := same.map_fst_entries
    rw [Finmap.keys_empty, Finset.sort_empty] at keys
    exact List.map_eq_nil_iff.mp keys

/-! ## Requests -/

theorem Matches.add (same : bag.Matches catalogue) {item : Item} (free : item.key ∉ catalogue) :
    (bag.add item).Matches (catalogue.insert item.key item) := by
  intro key
  rw [atKey?_add, same]
  split
  · rename_i here
    rw [here, Finmap.lookup_insert, Finmap.lookup_eq_none.mpr free, Option.none_or]
  · rename_i elsewhere
    rw [Finmap.lookup_insert_of_ne _ elsewhere]

theorem Matches.remove (same : bag.Matches catalogue) (id : String) :
    (bag.remove id).Matches (catalogue.erase (itemKey id)) := by
  intro key
  rw [atKey?_remove, same]
  split
  · rename_i here
    rw [here, Finmap.lookup_erase]
  · rename_i elsewhere
    rw [Finmap.lookup_erase_ne elsewhere]

theorem Matches.overwrite (same : bag.Matches catalogue) {id : String}
    (present : itemKey id ∈ catalogue) (item : Item) :
    (bag.adjust id fun _ => item).Matches (catalogue.insert (itemKey id) item) := by
  intro key
  rw [atKey?_adjust, same]
  split
  · rename_i here
    rcases Finmap.mem_iff.mp present with ⟨held, found⟩
    rw [here, Finmap.lookup_insert, found, Option.map_some]
  · rename_i elsewhere
    rw [Finmap.lookup_insert_of_ne _ elsewhere]

theorem adjust_of_missing {id : String} (missing : bag.contains id = false)
    (change : Item → Item) : bag.adjust id change = bag := by
  apply adjust_eq_self
  intro item found
  rw [contains_eq_false_iff.mp missing] at found
  cases found

/-- A bag tells what it holds when it is asked to, and when it has let go of an item. -/
theorem serve_events (bag : Bag) (request : Request) :
    (bag.serve request).2.2 =
      match request, (bag.serve request).1 with
      | .announce, _ => [(bag.serve request).2.1.changed]
      | .consume _, .item (some _) => [(bag.serve request).2.1.changed]
      | _, _ => [] := by
  cases request with
  | consume id =>
      simp only [serve]
      cases bag.consume? id <;> rfl
  | _ => rfl

/-- Asked the same thing, a bag and its catalogue answer alike, and still match afterwards. -/
theorem Matches.serve (same : bag.Matches catalogue) (request : Request) :
    (bag.serve request).1 = (catalogue.serve request).1 ∧
      (bag.serve request).2.1.Matches (catalogue.serve request).2.1 ∧
        (bag.serve request).2.2 = (catalogue.serve request).2.2 := by
  cases request with
  | add item =>
      have present : bag.contains item.id = decide (item.key ∈ catalogue) :=
        same.contains_eq item.id
      simp only [Bag.serve, Catalogue.serve]
      split
      · rename_i taken
        rw [decide_eq_true taken] at present
        rw [present, add_eq_self_of_contains present]
        exact ⟨rfl, same, rfl⟩
      · rename_i free
        rw [decide_eq_false free] at present
        rw [present]
        exact ⟨rfl, same.add free, rfl⟩
  | find id => exact ⟨congrArg Reply.item (same.find?_eq id), same, rfl⟩
  | overwrite id item =>
      have present := same.contains_eq id
      simp only [Bag.serve, Catalogue.serve]
      split
      · rename_i taken
        rw [decide_eq_true taken] at present
        rw [present]
        exact ⟨rfl, same.overwrite taken item, rfl⟩
      · rename_i free
        rw [decide_eq_false free] at present
        rw [present, adjust_of_missing present]
        exact ⟨rfl, same, rfl⟩
  | contains id => exact ⟨congrArg Reply.truth (same.contains_eq id), same, rfl⟩
  | remove id => exact ⟨congrArg Reply.item (same.find?_eq id), same.remove id, rfl⟩
  | consume id =>
      simp only [Bag.serve, Catalogue.serve, consume?, exhausted?, same.find?_eq]
      cases catalogue.lookup (itemKey id) with
      | none => exact ⟨rfl, same, rfl⟩
      | some item =>
          have rest := same.remove id
          cases usable : item.isUsable with
          | true =>
              simp only [Option.filter_some, usable, Bool.not_true, if_true]
              exact ⟨rfl, same, rfl⟩
          | false =>
              simp only [Option.filter_some, usable, Bool.not_false, if_true]
              exact ⟨rfl, rest, congrArg (fun event => [event]) rest.changed_eq⟩
  | announce => exact ⟨rfl, same, congrArg (fun event => [event]) same.changed_eq⟩
  | items => exact ⟨congrArg Reply.items same.items_eq, same, rfl⟩

end Bag

/-- A list of items names all that a catalogue holds, each once and by increasing key. -/
structure Catalogue.IsListedBy (catalogue : Catalogue) (items : List Item) : Prop where
  increasing : items.Pairwise fun earlier later => earlier.key < later.key
  complete : ∀ key item, catalogue.lookup key = some item ↔ item ∈ items ∧ item.key = key

namespace Bag

variable {bag : Bag} {catalogue : Catalogue}

/-- What a bag shows of itself is what its catalogue holds. -/
structure Shows (bag : Bag) (catalogue : Catalogue) : Prop where
  find? : ∀ id, bag.find? id = catalogue.lookup (itemKey id)
  items : bag.items = catalogue.listing
  size : bag.size = catalogue.keys.card
  isEmpty : bag.isEmpty = true ↔ catalogue = ∅
  text : bag.text = ", ".intercalate (catalogue.listing.map Item.id)

theorem Matches.shows (same : bag.Matches catalogue) : bag.Shows catalogue where
  find? := same.find?_eq
  items := same.items_eq
  size := same.size_eq
  isEmpty := same.isEmpty_iff
  text := by rw [text, ids, same.items_eq]

theorem Matches.isListedBy (same : bag.Matches catalogue) (keyed : bag.IsKeyed) :
    catalogue.IsListedBy bag.items where
  increasing := by
    rw [items, List.pairwise_map]
    refine bag.sorted.imp_of_mem fun {earlier later} first second below => ?_
    rwa [keyed earlier first, keyed later second] at below
  complete := by
    intro key item
    rw [← same, mem_items_iff]
    constructor
    · intro found
      exact ⟨⟨key, found⟩, isKeyed_iff.mp keyed key item found⟩
    · rintro ⟨⟨other, found⟩, rfl⟩
      rwa [isKeyed_iff.mp keyed other item found]

/-! ## Items added one after the other -/

/-- Of several items with one key that are added, the first one counts. -/
theorem atKey?_foldl_add (bag : Bag) (items : List Item) (key : String) :
    (items.foldl Bag.add bag).atKey? key =
      (bag.atKey? key).or (items.find? fun item => item.key = key) := by
  induction items generalizing bag with
  | nil => rw [List.foldl_nil, List.find?_nil, Option.or_none]
  | cons item rest ih =>
      rw [List.foldl_cons, ih, atKey?_add]
      by_cases same : item.key = key
      · subst same
        simp
      · simp [same, Ne.symm same]

theorem find?_key_eq_some_iff {items : List Item} {key : String} {item : Item}
    (distinct : items.Pairwise fun earlier later => earlier.key ≠ later.key) :
    (items.find? fun other => other.key = key) = some item ↔ item ∈ items ∧ item.key = key := by
  induction items with
  | nil => simp
  | cons first rest ih =>
      have ⟨apart, distinctRest⟩ := List.pairwise_cons.mp distinct
      by_cases same : first.key = key
      · rw [List.find?_cons, decide_eq_true same, Option.some.injEq]
        constructor
        · rintro rfl
          exact ⟨List.mem_cons_self, same⟩
        · rintro ⟨member, alike⟩
          rcases List.mem_cons.mp member with rfl | later
          · rfl
          · exact absurd (same.trans alike.symm) (apart item later)
      · rw [List.find?_cons, decide_eq_false same, ih distinctRest, List.mem_cons]
        constructor
        · rintro ⟨later, alike⟩
          exact ⟨.inr later, alike⟩
        · rintro ⟨rfl | later, alike⟩
          · exact absurd alike same
          · exact ⟨later, alike⟩

theorem foldl_add_perm (bag : Bag) {items others : List Item} (reordered : items.Perm others)
    (distinct : items.Pairwise fun earlier later => earlier.key ≠ later.key) :
    items.foldl Bag.add bag = others.foldl Bag.add bag := by
  -- With one item to a key, the first item of a key is the only one, wherever it stands.
  have alsoDistinct := reordered.pairwise distinct fun different => Ne.symm different
  apply ext_atKey?
  intro key
  rw [atKey?_foldl_add, atKey?_foldl_add]
  congr 1
  ext item
  rw [find?_key_eq_some_iff distinct, find?_key_eq_some_iff alsoDistinct, reordered.mem_iff]

end Bag

/-! ## Desks -/

/-- A store of items, and those who are told when it changes. -/
structure Desk (store : Type) where
  store : store
  onlookers : Onlookers

namespace Desk

/-- What is wanted at a desk: to sign up, or something of the store while some are held. -/
inductive Request where
  | watch (onlooker : Onlooker)
  | ask (held : List Onlooker) (request : Bag.Request)
  deriving DecidableEq, Repr

/-- The reply to a request, and who was told of what. -/
structure Answer where
  reply : Bag.Reply
  notices : List Notice
  deriving DecidableEq, Repr

section

variable {store : Type} (serve : store → Bag.Request → Bag.Reply × store × List Event)

/-- The answer to a request, and the desk afterwards. -/
def answer (desk : Desk store) : Request → Answer × Desk store
  | .watch onlooker =>
      (⟨.truth (!desk.onlookers.contains onlooker), []⟩,
        { desk with onlookers := desk.onlookers.add onlooker })
  | .ask held request =>
      let (reply, store, events) := serve desk.store request
      (⟨reply, events.flatMap fun event =>
          (desk.onlookers.hearing held).map fun onlooker => ⟨onlooker, event⟩⟩,
        { desk with store })

/-- The answers to some requests, one after the other, and the desk after all of them. -/
def tend (desk : Desk store) : List Request → List Answer × Desk store
  | [] => ([], desk)
  | request :: rest =>
      let (answer, next) := desk.answer serve request
      let (later, last) := next.tend rest
      (answer :: later, last)

end

/-- The desk over a bag and that over a catalogue stand alike. -/
structure Matches (desk : Desk Bag) (other : Desk Catalogue) : Prop where
  store : desk.store.Matches other.store
  onlookers : desk.onlookers = other.onlookers

theorem Matches.answer {desk : Desk Bag} {other : Desk Catalogue} (same : desk.Matches other)
    (request : Request) :
    (desk.answer Bag.serve request).1 = (other.answer Catalogue.serve request).1 ∧
      (desk.answer Bag.serve request).2.Matches (other.answer Catalogue.serve request).2 := by
  rcases same with ⟨matched, sameOnlookers⟩
  cases request with
  | watch onlooker =>
      refine ⟨?_, matched, ?_⟩
      · simp only [Desk.answer, sameOnlookers]
      · simp only [Desk.answer, sameOnlookers]
  | ask held request =>
      rcases matched.serve request with ⟨sameReply, stillMatched, sameEvents⟩
      refine ⟨?_, stillMatched, sameOnlookers⟩
      simp only [Desk.answer, sameReply, sameEvents, sameOnlookers]

theorem Matches.tend {desk : Desk Bag} {other : Desk Catalogue} (same : desk.Matches other)
    (requests : List Request) :
    (desk.tend Bag.serve requests).1 = (other.tend Catalogue.serve requests).1 ∧
      (desk.tend Bag.serve requests).2.Matches (other.tend Catalogue.serve requests).2 := by
  induction requests generalizing desk other with
  | nil => exact ⟨rfl, same⟩
  | cons request rest ih =>
      rcases same.answer request with ⟨sameAnswer, next⟩
      rcases ih next with ⟨sameLater, last⟩
      refine ⟨?_, last⟩
      simp only [Desk.tend, sameAnswer, sameLater]

/-- A request does not put an item in the place of one with another identifier. -/
def Request.KeepsIds (bag : Bag) : Request → Prop
  | .ask _ (.overwrite id item) => ∀ old ∈ bag.find? id, item.id = old.id
  | _ => True

/-- No request of a row puts an item in the place of one with another identifier. -/
def KeepsIds (desk : Desk Bag) : List Request → Prop
  | [] => True
  | request :: rest =>
      request.KeepsIds desk.store ∧ (desk.answer Bag.serve request).2.KeepsIds rest

theorem isKeyed_answer {desk : Desk Bag} (keyed : desk.store.IsKeyed) {request : Request}
    (keeps : request.KeepsIds desk.store) :
    (desk.answer Bag.serve request).2.store.IsKeyed := by
  cases request with
  | watch onlooker => exact keyed
  | ask held request =>
      cases request with
      | add item => exact keyed.add item
      | remove id => exact keyed.remove id
      | overwrite id item =>
          exact keyed.adjust fun old found => congrArg itemKey (keeps old found)
      | consume id =>
          show (desk.store.serve (.consume id)).2.1.IsKeyed
          simp only [Bag.serve, Bag.consume?]
          cases desk.store.exhausted? id with
          | none => exact keyed
          | some item => exact keyed.remove id
      | find | contains | announce | items => exact keyed

theorem isKeyed_tend {desk : Desk Bag} (keyed : desk.store.IsKeyed) {requests : List Request}
    (keeps : desk.KeepsIds requests) : (desk.tend Bag.serve requests).2.store.IsKeyed := by
  induction requests generalizing desk with
  | nil => exact keyed
  | cons request rest ih =>
      have ⟨first, later⟩ := keeps
      exact ih (isKeyed_answer keyed first) later

/-- Items to be added one after the other. -/
def adding (items : List Item) : List Request :=
  items.map fun item => .ask [] (.add item)

theorem tend_adding (desk : Desk Bag) (items : List Item) :
    (desk.tend Bag.serve (adding items)).2 =
      { desk with store := items.foldl Bag.add desk.store } := by
  induction items generalizing desk with
  | nil => rfl
  | cons item rest ih => exact ih { desk with store := desk.store.add item }

/-- An empty container that nobody watches. -/
def bare : Desk Bag := ⟨.empty, .nobody⟩

/-- An empty catalogue that nobody watches. -/
def blank : Desk Catalogue := ⟨∅, .nobody⟩

theorem bare_matches_blank : bare.Matches blank :=
  ⟨Bag.matches_empty, rfl⟩

/--
Whatever is asked of a bag from the beginning, it answers, tells and shows what a
catalogue does; and if no item is put in the place of one with another
identifier, its list names each item once and by increasing key.  It tells what
it holds when it is asked to and when it has let go of an item that is used up.
Of the items that are added in a row the first one of every key is kept, and the
order in which items with different keys are added does not matter.
-/
theorem bags_are_as_good_as_catalogues :
    (∀ requests,
      (bare.tend Bag.serve requests).1 = (blank.tend Catalogue.serve requests).1 ∧
        (bare.tend Bag.serve requests).2.onlookers =
          (blank.tend Catalogue.serve requests).2.onlookers ∧
        (bare.tend Bag.serve requests).2.store.Shows
          (blank.tend Catalogue.serve requests).2.store ∧
        (bare.KeepsIds requests →
          (blank.tend Catalogue.serve requests).2.store.IsListedBy
            (bare.tend Bag.serve requests).2.store.items)) ∧
    (∀ (bag : Bag) request,
      (bag.serve request).2.2 =
        match request, (bag.serve request).1 with
        | .announce, _ => [(bag.serve request).2.1.changed]
        | .consume _, .item (some _) => [(bag.serve request).2.1.changed]
        | _, _ => []) ∧
    (∀ (desk : Desk Bag) items key,
      (desk.tend Bag.serve (adding items)).2.store.atKey? key =
        (desk.store.atKey? key).or (items.find? fun item => item.key = key)) ∧
    ∀ (desk : Desk Bag) items others, items.Perm others →
      (items.Pairwise fun earlier later => earlier.key ≠ later.key) →
        (desk.tend Bag.serve (adding items)).2 = (desk.tend Bag.serve (adding others)).2 := by
  refine ⟨fun requests => ?_, Bag.serve_events, fun desk items key => ?_,
    fun desk items others again distinct => ?_⟩
  · rcases bare_matches_blank.tend requests with ⟨sameAnswers, same⟩
    refine ⟨sameAnswers, same.onlookers, same.store.shows, fun keeps => ?_⟩
    exact same.store.isListedBy (isKeyed_tend Bag.isKeyed_empty keeps)
  · rw [tend_adding]
    exact desk.store.atKey?_foldl_add items key
  · rw [tend_adding, tend_adding, desk.store.foldl_add_perm again distinct]

/-- A nut and a cell, the cell wound down to nothing and let go of under another spelling. -/
def nutAndCell : List Request :=
  [.watch 3, .ask [] (.add ⟨"Nut", "A nut", .generic⟩),
    .ask [] (.add ⟨"cell", "A cell", .fuel .one .one⟩),
    .ask [] (.overwrite "Cell" ⟨"cell", "A cell", .fuel .one .zero⟩),
    .ask [] (.consume "CELL"), .ask [3] .announce]

/-- The nut is left, and it does not matter whether it came before the cell. -/
theorem nutAndCell_is_listed :
    bare.KeepsIds nutAndCell ∧
      (blank.tend Catalogue.serve nutAndCell).2.store.IsListedBy
        [⟨"Nut", "A nut", .generic⟩] ∧
      (bare.tend Bag.serve
        (adding [⟨"Nut", "A nut", .generic⟩, ⟨"cell", "A cell", .generic⟩])).2 =
        (bare.tend Bag.serve
          (adding [⟨"cell", "A cell", .generic⟩, ⟨"Nut", "A nut", .generic⟩])).2 := by
  rcases bags_are_as_good_as_catalogues with ⟨serves, -, -, reorders⟩
  have keeps : bare.KeepsIds nutAndCell := by
    simp only [KeepsIds, Request.KeepsIds, nutAndCell]
    decide +kernel
  have left : (bare.tend Bag.serve nutAndCell).2.store.items = [⟨"Nut", "A nut", .generic⟩] := by
    decide +kernel
  have ⟨_, _, _, listed⟩ := serves nutAndCell
  refine ⟨keeps, left ▸ listed keeps, reorders bare _ _ (.swap _ _ _) ?_⟩
  decide +kernel

end Desk

end Rover
