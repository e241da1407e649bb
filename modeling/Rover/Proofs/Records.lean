import Mathlib.Data.Multiset.Count
import Mathlib.Logic.Function.Basic
import Rover.Atlas.Printer
import Rover.Proofs.Draft
import Rover.Proofs.Labels
import Rover.Proofs.Run

/-!
# Records of items

Items are followed through a run by their descriptions, which no instruction
changes and which a copy has from its original.  With a description of its own
for every item at the start, an item is lost if nothing has its description any
more, and duplicated if two items have it.

An undo loses or duplicates an item exactly if it hands a use back to the wrong
place: if it finds nothing in the bag under the identifier of an item that the
use had left usable, or something under that of an item that was used up.
-/

namespace Rover

/-- Whether items of the kind are used up. -/
def ItemKind.isConsumable : ItemKind → Bool
  | .fuel _ _ => true
  | .garbage _ _ => true
  | .codeCard _ => false
  | .generic => false

namespace World

/-- The descriptions of all items of a world. -/
def labels (world : World) : Multiset String :=
  world.stock.map Item.description

/--
No record stands for two items, and it stands for none only if its last use has
used it up and has not been undone.
-/
def AccountsFor (world : World) (records : Multiset String) (spent : String → Bool) : Prop :=
  ∀ record ∈ records, world.labels.count record ≤ 1 ∧
    (world.labels.count record = 0 → spent record = true)

theorem UseOf.description_eq {world : World} {item : Item} {effect : ItemEffect}
    (rule : UseOf world item effect) : effect.item.description = item.description := by
  cases rule <;> rfl

theorem UseOf.kind_ne_generic {world : World} {item : Item} {effect : ItemEffect}
    (rule : UseOf world item effect) : effect.item.kind ≠ .generic := by
  cases rule <;> exact nofun

theorem Performs.labels_cases {world : World} (keyed : world.IsKeyed)
    {instruction : Instruction} {attempt : Attempt}
    (rule : Performs world instruction attempt) :
    (attempt.instruction.used? = none ∧ attempt.world.labels = world.labels) ∨
      ∃ left rest, attempt.instruction.used? = some left ∧ left.kind ≠ .generic ∧
        world.labels = left.description ::ₘ rest ∧
          attempt.world.labels =
            if left.isUsable then left.description ::ₘ rest else rest := by
  rcases rule.stock_cases keyed with
    ⟨nothing, same⟩ | ⟨item, effect, rest, used, remembered, before, after⟩
  · exact Or.inl ⟨nothing, congrArg (·.map Item.description) same⟩
  · refine Or.inr ⟨effect.item, rest.map Item.description, remembered, used.kind_ne_generic,
      ?_, ?_⟩
    · rw [labels, before, Multiset.map_cons, used.description_eq]
    · rw [labels, after]
      split
      · rw [Multiset.map_cons]
      · rfl

theorem labels_putBack (world : World) (item : Item) (events : List Event) :
    (world.putBack item events).world.labels =
      if world.inventory.contains item.id then world.labels
      else item.description ::ₘ world.labels := by
  split
  · rename_i present
    rw [labels, stock_putBack_of_contains present, labels]
  · rename_i free
    rw [labels, stock_putBack_of_free (Bool.eq_false_iff.mpr free), Multiset.map_cons, labels]

theorem labels_adjust {world : World} {id : String} {held left : Item}
    (found : world.inventory.find? id = some held)
    (sameLabel : left.description = held.description) (robot : Robot) :
    World.labels { world with robot, inventory := world.inventory.adjust id fun _ => left } =
      world.labels := by
  simp only [labels, stock, Bag.stock_adjust found, Bag.stock_remove found,
    Multiset.map_add, Multiset.map_cons, sameLabel]

/-- To take a use back adds an item exactly if the bag has nothing under its identifier. -/
theorem ReturnOf.labels_eq {world : World} {item : Item} {effect : ItemEffect}
    (rule : ReturnOf world item effect) :
    effect.world.labels =
      if item.kind.isConsumable && !world.inventory.contains item.id then
        item.description ::ₘ world.labels
      else
        world.labels := by
  cases rule with
  | held kind negated found raised =>
      have present : world.inventory.contains item.id = true := Bag.contains_iff.mpr ⟨_, found⟩
      rw [present, Bool.not_true, Bool.and_false, if_neg Bool.false_ne_true]
      exact labels_adjust found (by rfl) _
  | fuel kind negated missing raised =>
      rw [kind, ItemKind.isConsumable, Bool.true_and]
      refine (labels_putBack _ _ _).trans ?_
      cases world.inventory.contains item.id <;> rfl
  | garbage kind negated =>
      rw [kind, ItemKind.isConsumable, Bool.true_and]
      refine (labels_putBack _ _ _).trans ?_
      cases world.inventory.contains item.id <;> rfl
  | codeCard kind worked =>
      rw [kind, ItemKind.isConsumable, Bool.false_and, if_neg Bool.false_ne_true, labels,
        stock_toggled worked, labels]

theorem Retracts.labels_cases {world : World} (keyed : world.IsKeyed)
    {instruction : Instruction} {attempt : Attempt}
    (rule : Retracts world instruction attempt) :
    (instruction.used? = none ∧ attempt.world.labels = world.labels) ∨
      ∃ item, instruction.used? = some item ∧
        attempt.world.labels =
          if item.kind.isConsumable && !world.inventory.contains item.id then
            item.description ::ₘ world.labels
          else
            world.labels := by
  cases rule with
  | move went => exact Or.inl ⟨rfl, congrArg (·.map Item.description) (stock_walked went _ _)⟩
  | turn => exact Or.inl ⟨rfl, rfl⟩
  | pick found free =>
      left
      exact ⟨rfl, congrArg (·.map Item.description) (stock_dropped keyed found free _)⟩
  | drop found free =>
      left
      exact ⟨rfl, congrArg (·.map Item.description) (stock_picked keyed found free _)⟩
  | @operate id item effect rule =>
      exact Or.inr ⟨item, rfl, rule.labels_eq⟩
  | scan => exact Or.inl ⟨rfl, rfl⟩
  | radar => exact Or.inl ⟨rfl, rfl⟩
  | help => exact Or.inl ⟨rfl, rfl⟩
  | quit => exact Or.inl ⟨rfl, rfl⟩

/-- Of the uses that are remembered, only that of a code card can fail to be taken back. -/
theorem kind_of_undo_fails {world : World} {instruction : Instruction} {failure : Failure}
    (failed : world.undo instruction = .ok (world.fails instruction failure)) {item : Item}
    (remembered : instruction.used? = some item) :
    item.kind = .generic ∨ ∃ code, item.kind = .codeCard code := by
  cases instruction with
  | operate id used =>
      have remembered : used = some item := remembered
      rcases operateBack_eq_ok_iff.mp failed with ⟨refused, -⟩ | ⟨_, effect, -, -, same⟩
      · rcases takeBack_eq_none_iff.mp (refused item remembered) with ⟨code, kind, -⟩ | kind
        · exact Or.inr ⟨code, kind⟩
        · exact Or.inl kind
      · cases congrArg Attempt.failure? same
  | _ => cases remembered

end World

namespace Engine

/-! ## The ledger -/

/-- A ledger with a record marked anew, if there is an item to mark. -/
def marked (spent : String → Bool) (item? : Option Item) (mark : Item → Bool) : String → Bool :=
  match item? with
  | some item => Function.update spent item.description (mark item)
  | none => spent

/--
Which records have been used up by their last use, as far as that has not been
undone, after a call.
-/
def spentAfter (engine : Engine) (request : Call) (answer : Answer) (spent : String → Bool) :
    String → Bool :=
  if answer.outcome? = some .executed then
    match request with
    | .execute _ =>
        marked spent (answer.engine.history.head?.bind Instruction.used?) fun item =>
          !item.isUsable
    | .undo => marked spent (engine.history.head?.bind Instruction.used?) fun _ => false
    | _ => spent
  else
    spent

/-- At every moment of a run the world accounts for some records. -/
def StaysAccounted (records : Multiset String) : (String → Bool) → Engine → List Call → Prop
  | spent, engine, [] => engine.world.AccountsFor records spent
  | spent, engine, request :: rest =>
      engine.world.AccountsFor records spent ∧
        ∀ answer, engine.call request = .ok answer →
          StaysAccounted records (engine.spentAfter request answer spent) answer.engine rest

/--
Where a call undoes the use of a consumable, the bag has something under its
identifier exactly if that use has left it usable.
-/
def HandsBack (engine : Engine) : Call → Prop
  | .undo =>
      ∀ item ∈ engine.history.head?.bind Instruction.used?, item.kind.isConsumable = true →
        engine.world.inventory.contains item.id = item.isUsable
  | _ => True

/-- Every undo of a run hands the use back where it belongs. -/
def AlwaysHandsBack : Engine → List Call → Prop
  | _, [] => True
  | engine, request :: rest =>
      ∀ answer, engine.call request = .ok answer →
        engine.HandsBack request ∧ answer.engine.AlwaysHandsBack rest

instance (engine : Engine) (request : Call) : Decidable (engine.HandsBack request) := by
  unfold HandsBack
  split <;> infer_instance

instance decidableAlwaysHandsBack :
    (engine : Engine) → (calls : List Call) → Decidable (engine.AlwaysHandsBack calls)
  | _, [] => .isTrue trivial
  | engine, request :: rest =>
      match answered : engine.call request with
      | .error _ => .isTrue fun _ impossible => nomatch answered.symm.trans impossible
      | .ok answer =>
          have := decidableAlwaysHandsBack answer.engine rest
          decidable_of_iff (engine.HandsBack request ∧ answer.engine.AlwaysHandsBack rest) (by
            show _ ↔ ∀ other, engine.call request = .ok other → _
            simp only [answered, Except.ok.injEq, forall_eq'])

/-! ## Uses in order -/

/-- The items that the instructions of a history remember, the last use first. -/
def uses (history : List Instruction) : List Item :=
  history.filterMap Instruction.used?

/-- Whether a ledger is explained by some uses, the last one first. -/
def Explains : List Item → (String → Bool) → Prop
  | [], spent => ∀ record, spent record = false
  | item :: earlier, spent =>
      spent item.description = !item.isUsable ∧
        Explains earlier (Function.update spent item.description false)

/-- What holds of a run as long as every undo hands uses back where they belong. -/
structure Tracks (records : Multiset String) (engine : Engine) (spent : String → Bool) : Prop where
  keyed : engine.world.IsKeyed
  count : ∀ record, engine.world.labels.count record =
    if record ∈ records ∧ spent record = false then 1 else 0
  explained : Explains (uses engine.history) spent
  known : ∀ item ∈ uses engine.history, item.description ∈ records ∧ item.kind ≠ .generic

namespace Tracks

variable {records : Multiset String} {engine : Engine} {spent : String → Bool}

theorem accountsFor (tracks : Tracks records engine spent) :
    engine.world.AccountsFor records spent := by
  intro record member
  rw [tracks.count]
  cases unspent : spent record with
  | true => simp
  | false => simp [member]

theorem performed (tracks : Tracks records engine spent) {instruction : Instruction}
    {attempt : Attempt} (rule : World.Performs engine.world instruction attempt) :
    Tracks records (engine.performed attempt).engine
      (engine.spentAfter (.execute instruction) (engine.performed attempt) spent) := by
  have entered : uses (engine.performed attempt).engine.history =
      attempt.instruction.used?.toList ++ uses engine.history := by
    show (attempt.instruction :: engine.history).filterMap Instruction.used? = _
    rw [List.filterMap_cons]
    cases attempt.instruction.used? <;> rfl
  have ledger : engine.spentAfter (.execute instruction) (engine.performed attempt) spent =
      marked spent attempt.instruction.used? fun item => !item.isUsable := rfl
  rw [ledger]
  rcases rule.labels_cases tracks.keyed with
    ⟨nothing, same⟩ | ⟨left, rest, remembered, notGeneric, before, after⟩
  · rw [nothing] at entered ⊢
    rw [marked]
    refine ⟨rule.keeps.keyed tracks.keyed, ?_, ?_, ?_⟩
    · intro record
      show attempt.world.labels.count record = _
      rw [same]
      exact tracks.count record
    · rw [entered]
      exact tracks.explained
    · rw [entered]
      exact tracks.known
  · rw [remembered] at entered ⊢
    rw [marked]
    -- The item was there to be used, so its record is one of ours and not spent.
    have present := tracks.count left.description
    rw [before, Multiset.count_cons_self] at present
    have unspent : left.description ∈ records ∧ spent left.description = false := by
      by_contra neither
      rw [if_neg neither] at present
      cases present
    refine ⟨rule.keeps.keyed tracks.keyed, ?_, ?_, ?_⟩
    · intro record
      have held := tracks.count record
      show attempt.world.labels.count record = _
      rw [after]
      rw [before] at held
      by_cases same : record = left.description
      · subst same
        rw [Multiset.count_cons_self, if_pos unspent] at held
        have none : rest.count left.description = 0 := by omega
        rw [Function.update_self]
        cases usable : left.isUsable <;> simp [unspent.1, none]
      · rw [Multiset.count_cons_of_ne same] at held
        rw [Function.update_of_ne same]
        cases usable : left.isUsable <;> simp [Multiset.count_cons_of_ne same, held]
    · rw [entered]
      refine ⟨Function.update_self _ _ _, ?_⟩
      rw [Function.update_idem, Function.update_eq_self_iff.mpr unspent.2.symm]
      exact tracks.explained
    · rw [entered]
      intro item member
      rcases List.mem_cons.mp member with rfl | earlier
      · exact ⟨unspent.1, notGeneric⟩
      · exact tracks.known item earlier

section Undoing

variable {remembered : Instruction} {history : List Instruction}
  (latest : engine.history = remembered :: history)

include latest

theorem uses_of_none (nothing : remembered.used? = none) :
    uses engine.history = uses history := by
  rw [uses, latest, List.filterMap_cons, nothing]
  rfl

theorem uses_of_some {item : Item} (used : remembered.used? = some item) :
    uses engine.history = item :: uses history := by
  rw [uses, latest, List.filterMap_cons, used]
  rfl

theorem spentAfter_retracted (attempt : Attempt) (spent : String → Bool) :
    engine.spentAfter .undo (retracted history attempt) spent =
      marked spent remembered.used? fun _ => false := by
  show marked spent (engine.history.head?.bind Instruction.used?) _ = _
  rw [latest]
  rfl

theorem handsBack_iff {item : Item} (used : remembered.used? = some item) :
    engine.HandsBack .undo ↔
      (item.kind.isConsumable = true →
        engine.world.inventory.contains item.id = item.isUsable) := by
  show (∀ other ∈ engine.history.head?.bind Instruction.used?, _) ↔ _
  rw [latest]
  show (∀ other ∈ remembered.used?, _) ↔ _
  rw [used]
  constructor
  · intro hands
    exact hands item rfl
  · rintro hands other ⟨⟩
    exact hands

theorem handsBack_of_none (nothing : remembered.used? = none) : engine.HandsBack .undo := by
  show ∀ other ∈ engine.history.head?.bind Instruction.used?, _
  rw [latest]
  show ∀ other ∈ remembered.used?, _
  rw [nothing]
  intro other member
  cases member

/-- The items of a record once its last use has been taken back. -/
theorem count_undone (tracks : Tracks records engine spent) {item : Item}
    (used : remembered.used? = some item) {attempt : Attempt}
    (rule : World.Retracts engine.world remembered attempt) :
    attempt.world.labels.count item.description =
      (if item.isUsable then 1 else 0) +
        if item.kind.isConsumable && !engine.world.inventory.contains item.id then 1 else 0 := by
  have explained := tracks.explained
  have known := tracks.known
  rw [uses_of_some latest used] at explained known
  have held := tracks.count item.description
  rw [explained.1] at held
  rcases rule.labels_cases tracks.keyed with ⟨nothing, -⟩ | ⟨other, same, after⟩
  · cases used.symm.trans nothing
  · cases used.symm.trans same
    have ours := (known item List.mem_cons_self).1
    rw [after]
    split
    · rw [Multiset.count_cons_self, held]
      cases item.isUsable <;> simp [ours]
    · rw [held]
      cases item.isUsable <;> simp [ours]

theorem undone (tracks : Tracks records engine spent) {attempt : Attempt}
    (rule : World.Retracts engine.world remembered attempt) (hands : engine.HandsBack .undo) :
    Tracks records (retracted history attempt).engine
      (engine.spentAfter .undo (retracted history attempt) spent) := by
  rw [spentAfter_retracted latest]
  have explained := tracks.explained
  have known := tracks.known
  cases used : remembered.used? with
  | none =>
      rw [uses_of_none latest used] at explained known
      refine ⟨rule.keeps.keyed tracks.keyed, ?_, explained, known⟩
      rcases rule.labels_cases tracks.keyed with ⟨-, same⟩ | ⟨other, impossible, -⟩
      · intro record
        show attempt.world.labels.count record = _
        rw [same]
        exact tracks.count record
      · cases used.symm.trans impossible
  | some item =>
      rw [uses_of_some latest used] at explained known
      have ⟨ours, notGeneric⟩ := known item List.mem_cons_self
      refine ⟨rule.keeps.keyed tracks.keyed, ?_, explained.2,
        fun other member => known other (List.mem_cons_of_mem _ member)⟩
      intro record
      show attempt.world.labels.count record = _
      rw [marked]
      by_cases same : record = item.description
      · subst same
        have consumed := (handsBack_iff latest used).mp hands
        rw [count_undone latest tracks used rule, Function.update_self]
        cases kind : item.kind with
        | fuel power times =>
            rw [kind] at consumed
            rw [consumed rfl]
            cases item.isUsable <;> simp [ours, ItemKind.isConsumable]
        | garbage material times =>
            rw [kind] at consumed
            rw [consumed rfl]
            cases item.isUsable <;> simp [ours, ItemKind.isConsumable]
        | codeCard code =>
            have usable : item.isUsable = true := by
              rw [Item.isUsable, kind]
              rfl
            simp [usable, ours, ItemKind.isConsumable]
        | generic => exact absurd kind notGeneric
      · have unchanged : attempt.world.labels.count record =
            engine.world.labels.count record := by
          rcases rule.labels_cases tracks.keyed with ⟨-, after⟩ | ⟨other, remembers, after⟩
          · rw [after]
          · cases used.symm.trans remembers
            rw [after]
            split
            · exact Multiset.count_cons_of_ne same _
            · rfl
        rw [unchanged, Function.update_of_ne same]
        exact tracks.count record

/-- What is handed back to the wrong place is lost, or is there twice. -/
theorem not_accountsFor (tracks : Tracks records engine spent) {attempt : Attempt}
    (rule : World.Retracts engine.world remembered attempt)
    (misplaced : ¬ engine.HandsBack .undo) :
    ¬ attempt.world.AccountsFor records
      (engine.spentAfter .undo (retracted history attempt) spent) := by
  intro accounted
  cases used : remembered.used? with
  | none => exact misplaced (handsBack_of_none latest used)
  | some item =>
      have known := tracks.known
      rw [uses_of_some latest used] at known
      have ⟨most, least⟩ := accounted item.description (known item List.mem_cons_self).1
      rw [spentAfter_retracted latest, used, marked, Function.update_self] at least
      rw [count_undone latest tracks used rule] at most least
      apply misplaced
      rw [handsBack_iff latest used]
      intro consumable
      rw [consumable, Bool.true_and] at most least
      cases contained : engine.world.inventory.contains item.id <;>
        cases usable : item.isUsable <;> simp [contained, usable] at most least ⊢

theorem undo_failed (tracks : Tracks records engine spent) {failure : Failure}
    (failed : engine.world.undo remembered =
      .ok (engine.world.fails remembered failure)) :
    Tracks records { engine with history } spent := by
  have explained := tracks.explained
  have known := tracks.known
  cases used : remembered.used? with
  | none =>
      rw [uses_of_none latest used] at explained known
      exact ⟨tracks.keyed, tracks.count, explained, known⟩
  | some item =>
      rw [uses_of_some latest used] at explained known
      have ⟨_, notGeneric⟩ := known item List.mem_cons_self
      refine ⟨tracks.keyed, tracks.count, ?_,
        fun other member => known other (List.mem_cons_of_mem _ member)⟩
      rcases World.kind_of_undo_fails failed used with generic | ⟨code, kind⟩
      · exact absurd generic notGeneric
      · have ⟨standing, earlier⟩ := explained
        rw [Item.isUsable, kind] at standing
        rwa [Function.update_eq_self_iff.mpr standing.symm] at earlier

end Undoing

theorem call (tracks : Tracks records engine spent) {request : Call} (play : request.IsPlay)
    {answer : Answer} (answered : engine.call request = .ok answer)
    (hands : engine.HandsBack request) :
    Tracks records answer.engine (engine.spentAfter request answer spent) := by
  cases request with
  | execute instruction =>
      rcases execute_cases tracks.keyed.inventory answered with
        ⟨failure, -, rfl⟩ | ⟨attempt, rule, rfl⟩
      · exact tracks
      · exact tracks.performed rule
  | undo =>
      rcases undo_cases tracks.keyed.inventory answered with
        ⟨-, rfl⟩ | ⟨remembered, history, latest, ⟨failure, failed, rfl⟩ | ⟨attempt, rule, rfl⟩⟩
      · exact tracks
      · exact undo_failed latest tracks failed
      · exact undone latest tracks rule hands
  | _ => cases play

theorem handsBack_of_accountsFor (tracks : Tracks records engine spent) {request : Call}
    (play : request.IsPlay) {answer : Answer} (answered : engine.call request = .ok answer)
    (accounted : answer.engine.world.AccountsFor records
      (engine.spentAfter request answer spent)) : engine.HandsBack request := by
  cases request with
  | execute instruction => trivial
  | undo =>
      rcases undo_cases tracks.keyed.inventory answered with
        ⟨nothing, -⟩ | ⟨remembered, history, latest, ⟨failure, failed, rfl⟩ | ⟨attempt, rule, rfl⟩⟩
      · show ∀ item ∈ engine.history.head?.bind Instruction.used?, _
        rw [nothing]
        intro item member
        cases member
      · cases used : remembered.used? with
        | none => exact handsBack_of_none latest used
        | some item =>
            rw [handsBack_iff latest used]
            intro consumable
            rcases World.kind_of_undo_fails failed used with kind | ⟨code, kind⟩ <;>
              rw [kind] at consumable <;> cases consumable
      · by_contra misplaced
        exact not_accountsFor latest tracks rule misplaced accounted
  | _ => cases play

/-- A run accounts for its records at all times exactly if every undo hands back rightly. -/
theorem staysAccounted_iff (tracks : Tracks records engine spent) {calls : List Call}
    (play : ∀ request ∈ calls, request.IsPlay) :
    StaysAccounted records spent engine calls ↔ engine.AlwaysHandsBack calls := by
  induction calls generalizing engine spent with
  | nil => exact ⟨fun _ => trivial, fun _ => tracks.accountsFor⟩
  | cons request rest ih =>
      have played := play request List.mem_cons_self
      have later : ∀ next ∈ rest, next.IsPlay := fun next member =>
        play next (List.mem_cons_of_mem _ member)
      constructor
      · rintro ⟨-, onward⟩ answer answered
        have accounted : answer.engine.world.AccountsFor records
            (engine.spentAfter request answer spent) := by
          have next := onward answer answered
          cases rest with
          | nil => exact next
          | cons => exact next.1
        have hands := handsBack_of_accountsFor tracks played answered accounted
        exact ⟨hands, (ih (tracks.call played answered hands) later).mp (onward answer answered)⟩
      · intro always
        refine ⟨tracks.accountsFor, fun answer answered => ?_⟩
        have ⟨hands, onward⟩ := always answer answered
        exact (ih (tracks.call played answered hands) later).mpr onward

end Tracks

/-! ## Descriptions play no part -/

namespace Alike

variable {engine twin : Engine}

theorem handsBack_iff (alike : engine.Alike twin) (request : Call) :
    twin.HandsBack request ↔ engine.HandsBack request := by
  cases request with
  | undo =>
      rcases engine with ⟨world, history⟩
      rcases twin with ⟨twinWorld, twinHistory⟩
      have contains_eq := alike.world.inventory.contains_eq
      have histories := alike.history
      cases histories with
      | nil =>
          constructor
          · intro _ item member
            cases member
          · intro _ item member
            cases member
      | cons latest earlier =>
          cases latest with
          | same =>
              unfold HandsBack
              simp only [contains_eq]
              rfl
          | used id items =>
              rw [Tracks.handsBack_iff rfl rfl, Tracks.handsBack_iff rfl rfl, items.kind,
                items.id, items.isUsable_eq, contains_eq]
  | _ => exact Iff.rfl

theorem alwaysHandsBack_iff (alike : engine.Alike twin) (calls : List Call) :
    twin.AlwaysHandsBack calls ↔ engine.AlwaysHandsBack calls := by
  induction calls generalizing engine twin with
  | nil => exact Iff.rfl
  | cons request rest ih =>
      show (∀ answer, twin.call request = .ok answer → _) ↔
        ∀ answer, engine.call request = .ok answer → _
      rcases matches_cases (alike.call request) with
        ⟨breakdown, other, broke, alsoBroke, -⟩ | ⟨answer, same, answered, alsoAnswered, values⟩
      · simp [broke, alsoBroke]
      · simp only [answered, alsoAnswered, Except.ok.injEq, forall_eq',
          alike.handsBack_iff request, ih values.engine]

end Alike

/-! ## Games on maps -/

/--
The items of a map, each labelled with a record of its own, are all accounted
for at every moment of a game exactly if every undo in it hands back rightly.
The labels make no difference to the game.
-/
theorem staysAccounted_iff_alwaysHandsBack {map : String} {loaded : Atlas.Loaded}
    (load : Atlas.load map = .ok loaded) (heading : Direction) (settings : EngineSettings) :
    (∃ labelled, loaded.city.Alike labelled ∧ (labelled.stock.map Item.description).Nodup) ∧
    ∀ labelled, loaded.city.Alike labelled → (labelled.stock.map Item.description).Nodup →
      ∃ engine shadow, Engine.start loaded.city loaded.start heading settings = .ok engine ∧
        Engine.start labelled loaded.start heading settings = .ok shadow ∧
        ∀ calls : List Call, (∀ request ∈ calls, request.IsPlay) →
          Matches (fun reached same => reached.1.Alike same.1) (engine.run calls)
            (shadow.run calls) ∧
          (StaysAccounted (labelled.stock.map Item.description) (fun _ => false) shadow calls ↔
            engine.AlwaysHandsBack calls) := by
  rcases loaded with ⟨city, start⟩
  obtain ⟨read, rfl : start = Atlas.firstPlace⟩ := Atlas.load_eq_ok_iff.mp load
  refine ⟨city.exists_labelled, fun labelled alike distinct => ?_⟩
  have ⟨sound, inhabited⟩ := Atlas.read_isSound read
  have alsoInhabited : labelled.places ≠ [] := by
    rw [← List.length_pos_iff, ← alike.places.length_eq]
    exact List.length_pos_iff.mpr inhabited
  rcases exists_start inhabited heading settings with
    ⟨navigation, started, inCity, atFirst, looking⟩
  rcases exists_start alsoInhabited heading settings with
    ⟨other, otherStarted, rfl, otherFirst, otherLooking⟩
  refine ⟨_, _, started, otherStarted, fun calls play => ?_⟩
  have engines : Engine.Alike
      { world := ⟨.fresh settings, navigation, .empty⟩, history := [] }
      { world := ⟨.fresh settings, other, .empty⟩, history := [] } := by
    refine ⟨⟨rfl, ⟨?_, otherFirst.trans atFirst.symm, otherLooking.trans looking.symm⟩,
      .refl _⟩, .nil⟩
    rw [inCity]
    exact alike
  have labels : World.labels ⟨.fresh settings, other, .empty⟩ =
      other.city.stock.map Item.description := by
    rw [World.labels, World.stock, Bag.stock_empty, add_zero]
  have tracks : Tracks (other.city.stock.map Item.description)
      { world := ⟨.fresh settings, other, .empty⟩, history := [] } fun _ => false := by
    refine ⟨⟨alike.isKeyed sound.keyed, Bag.isKeyed_empty⟩, ?_, fun _ => rfl, ?_⟩
    · intro record
      rw [labels, Multiset.count_eq_of_nodup distinct]
      exact (if_congr (and_iff_left rfl) rfl rfl).symm
    · intro item member
      cases member
  exact ⟨engines.run calls, (tracks.staysAccounted_iff play).trans
    (engines.alwaysHandsBack_iff calls)⟩

/-- A yard and a hall, with a way to the hall that a closed gate keeps from leading back. -/
def crossing : City where
  places :=
    [⟨"Yard", "A yard", false, .ofItems
        [⟨"cell", "spare", .fuel ⟨10, by decide, by decide⟩ ⟨2, by decide, by decide⟩⟩]⟩,
      ⟨"Hall", "A hall", false, .empty⟩]
  streets := [⟨1, .north, 1, false, "gate"⟩, ⟨0, .north, 1, true, ""⟩, ⟨1, .east, 0, true, ""⟩]

/-- A robot at the start of a game there. -/
def atTheCrossing : Engine where
  world := ⟨.fresh .standard, ⟨crossing, Atlas.firstPlace, .north, by decide⟩, .empty⟩
  history := []

/-- The cell used and left in the yard, and its use undone in the hall. -/
def undoneInTheHall : List Call :=
  [.execute (.pick "cell"), .execute (.operate "cell" none), .execute (.drop "cell"),
    .execute .move, .undo, .undo, .undo]

/-- The cell is then in the yard and in the bag. -/
theorem cell_in_yard_and_bag :
    Atlas.load (Atlas.render crossing) = .ok ⟨crossing, 0⟩ ∧ crossing.Alike crossing ∧
      (crossing.stock.map Item.description).Nodup ∧
      ∃ engine shadow, Engine.start crossing 0 .north .standard = .ok engine ∧
        Engine.start crossing 0 .north .standard = .ok shadow ∧
        (shadow.run undoneInTheHall).map (fun reached => reached.1.world.labels.count "spare") =
          .ok 2 ∧
        ¬ StaysAccounted (crossing.stock.map Item.description) (fun _ => false) shadow
          undoneInTheHall := by
  have load : Atlas.load (Atlas.render crossing) = .ok ⟨crossing, 0⟩ := by
    rw [Atlas.load, Atlas.render, String.toList_ofList]
    decide +kernel
  have distinct : (crossing.stock.map Item.description).Nodup := by decide +kernel
  have play : ∀ request ∈ undoneInTheHall, request.IsPlay := by
    simp [undoneInTheHall, Call.IsPlay, Instruction.fresh]
  have begins : Engine.start crossing 0 .north .standard = .ok atTheCrossing := rfl
  refine ⟨load, .refl crossing, distinct, ?_⟩
  rcases (staysAccounted_iff_alwaysHandsBack load .north .standard).2 crossing (.refl crossing)
    distinct with ⟨engine, shadow, started, alsoStarted, runs⟩
  have same : atTheCrossing = engine := Except.ok.inj (begins.symm.trans started)
  have alsoSame : atTheCrossing = shadow := Except.ok.inj (begins.symm.trans alsoStarted)
  subst same
  subst alsoSame
  have misplaced : ¬ atTheCrossing.AlwaysHandsBack undoneInTheHall := by decide +kernel
  refine ⟨_, _, started, alsoStarted, by decide +kernel, ?_⟩
  exact (not_congr (runs undoneInTheHall play).2).mpr misplaced

end Engine

end Rover
