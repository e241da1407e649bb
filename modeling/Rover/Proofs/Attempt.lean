import Rover.Instruction.Execution
import Rover.Proofs.Bag
import Rover.Proofs.Navigation

/-!
# What instructions come to

The rules of instructions at work, one for each way to succeed: `UseOf` and
`ReturnOf` for items, `Performs` and `Retracts` for instructions.  An attempt
that is no instance of a rule failed, and left the world as it was.  In a world
whose bag is not keyed there is one more thing that can happen, `Mislays`: an
item goes from the bag and finds its own key taken at the place.
-/

namespace Rover

/-- What is left of a bag when an item in it has been used. -/
def Bag.afterUse (bag : Bag) (id : String) (left : Item) : Bag :=
  if left.isUsable then bag.adjust id fun _ => left else bag.remove id

namespace World

/-- Every item of the world is kept under its own key. -/
structure IsKeyed (world : World) : Prop where
  places : ∀ place ∈ world.navigation.city.places, place.items.IsKeyed
  inventory : world.inventory.IsKeyed

theorem IsKeyed.here {world : World} (keyed : world.IsKeyed) :
    world.navigation.here.items.IsKeyed :=
  keyed.places _ (List.get_mem _ _)

/-! ## Items -/

/-- What the use of an item comes to, by its kind. -/
inductive UseOf (world : World) : Item → ItemEffect → Prop
  | fuel {id description : String} {power times fewer : Quantity} (usable : times ≠ .zero)
      (lowered : times.decrement = .ok fewer) :
      UseOf world ⟨id, description, .fuel power times⟩
        { world := { world with robot := world.robot.addFuel power }
          item := ⟨id, description, .fuel power fewer⟩
          events := [(world.robot.addFuel power).report] }
  | garbage {id description : String} {material times fewer : Quantity} (usable : times ≠ .zero)
      (lowered : times.decrement = .ok fewer) :
      UseOf world ⟨id, description, .garbage material times⟩
        { world := { world with robot := world.robot.addRecycled material }
          item := ⟨id, description, .garbage material fewer⟩
          events := [(world.robot.addRecycled material).report] }
  | codeCard {id description code : String} {toggled : Navigation}
      (worked : world.navigation.toggleAhead? code = some toggled) :
      UseOf world ⟨id, description, .codeCard code⟩
        { world := { world with navigation := toggled }
          item := ⟨id, description, .codeCard code⟩
          events := [] }

theorem use_eq_some_iff {world : World} {item : Item} {effect : ItemEffect} :
    world.use item = .ok (some effect) ↔ UseOf world item effect := by
  obtain ⟨id, description, kind⟩ := item
  unfold use
  constructor
  · intro used
    split at used
    · rename_i usable
      cases kind with
      | fuel power times =>
          obtain ⟨fewer, lowered, told⟩ := bind_eq_ok_iff.mp used
          cases told
          exact .fuel (by simpa [Item.isUsable, ItemKind.isUsable] using usable)
            (afterTelling_eq_ok_iff.mp lowered)
      | garbage material times =>
          obtain ⟨fewer, lowered, told⟩ := bind_eq_ok_iff.mp used
          cases told
          exact .garbage (by simpa [Item.isUsable, ItemKind.isUsable] using usable)
            (afterTelling_eq_ok_iff.mp lowered)
      | codeCard code =>
          obtain ⟨toggled, worked, told⟩ := Option.map_eq_some_iff.mp (pure_eq_ok_iff.mp used)
          cases told
          exact .codeCard worked
      | generic => cases used
    · cases used
  · intro rule
    cases rule with
    | fuel usable lowered =>
        rw [if_pos (by simpa [Item.isUsable, ItemKind.isUsable] using usable)]
        exact bind_eq_ok_iff.mpr ⟨_, afterTelling_eq_ok_iff.mpr lowered, rfl⟩
    | garbage usable lowered =>
        rw [if_pos (by simpa [Item.isUsable, ItemKind.isUsable] using usable)]
        exact bind_eq_ok_iff.mpr ⟨_, afterTelling_eq_ok_iff.mpr lowered, rfl⟩
    | codeCard worked =>
        exact congrArg Except.ok (Option.map_eq_some_iff.mpr ⟨_, worked, rfl⟩)

/-- What it comes to that the use of an item is taken back, by its kind. -/
inductive ReturnOf (world : World) : Item → ItemEffect → Prop
  | held {item : Item} {id description : String}
      {power times loss heldPower heldTimes more : Quantity}
      (kind : item.kind = .fuel power times) (negated : power.negate = .ok loss)
      (found : world.inventory.find? item.id =
        some ⟨id, description, .fuel heldPower heldTimes⟩)
      (raised : heldTimes.increment = .ok more) :
      ReturnOf world item
        { world :=
            { world with
              robot := world.robot.addFuel loss
              inventory := world.inventory.adjust item.id fun _ =>
                ⟨id, description, .fuel heldPower more⟩ }
          item
          events := [(world.robot.addFuel loss).report] }
  | fuel {item : Item} {power times loss more : Quantity}
      (kind : item.kind = .fuel power times) (negated : power.negate = .ok loss)
      (missing : ∀ id description heldPower heldTimes, world.inventory.find? item.id ≠
        some ⟨id, description, .fuel heldPower heldTimes⟩)
      (raised : times.increment = .ok more) :
      ReturnOf world item
        ({ world with robot := world.robot.addFuel loss }.putBack
          { item with kind := .fuel power more } [(world.robot.addFuel loss).report])
  | garbage {item : Item} {material times loss : Quantity}
      (kind : item.kind = .garbage material times) (negated : material.negate = .ok loss) :
      ReturnOf world item
        ({ world with robot := world.robot.addRecycled loss }.putBack
          { item with kind := .garbage material .one } [(world.robot.addRecycled loss).report])
  | codeCard {item : Item} {code : String} {toggled : Navigation}
      (kind : item.kind = .codeCard code)
      (worked : world.navigation.toggleAhead? code = some toggled) :
      ReturnOf world item
        { world := { world with navigation := toggled }, item, events := [] }

theorem takeBack_eq_none_iff {world : World} {item : Item} :
    world.takeBack item = .ok none ↔
      (∃ code, item.kind = .codeCard code ∧ world.navigation.toggleAhead? code = none) ∨
        item.kind = .generic := by
  unfold takeBack
  split
  · rename_i power times kind
    simp only [kind, bind_eq_ok_iff, reduceCtorEq, false_and, exists_false, or_self, iff_false]
    rintro ⟨loss, -, rest⟩
    split at rest <;>
      · rcases bind_eq_ok_iff.mp rest with ⟨more, -, told⟩
        cases told
  · rename_i material times kind
    simp only [kind, bind_eq_ok_iff, reduceCtorEq, false_and, exists_false, or_self, iff_false]
    rintro ⟨loss, -, told⟩
    cases told
  · rename_i code kind
    simp [kind, swipe?]
  · rename_i kind
    simp [kind]

theorem takeBack_eq_some_iff {world : World} {item : Item} {effect : ItemEffect} :
    world.takeBack item = .ok (some effect) ↔ ReturnOf world item effect := by
  unfold takeBack
  constructor
  · intro returned
    split at returned
    · rename_i power times kind
      obtain ⟨loss, negated, rest⟩ := bind_eq_ok_iff.mp returned
      have negated := afterTelling_eq_ok_iff.mp negated
      dsimp only at rest
      split at rest
      · rename_i id description heldPower heldTimes found
        obtain ⟨more, raised, told⟩ := bind_eq_ok_iff.mp rest
        cases told
        exact .held kind negated found (afterTelling_eq_ok_iff.mp raised)
      · rename_i missing
        obtain ⟨more, raised, told⟩ := bind_eq_ok_iff.mp rest
        cases told
        exact .fuel kind negated missing (afterTelling_eq_ok_iff.mp raised)
    · rename_i material times kind
      obtain ⟨loss, negated, told⟩ := bind_eq_ok_iff.mp returned
      cases told
      exact .garbage kind (afterTelling_eq_ok_iff.mp negated)
    · rename_i code kind
      obtain ⟨toggled, worked, told⟩ :=
        Option.map_eq_some_iff.mp (pure_eq_ok_iff.mp returned)
      cases told
      exact .codeCard kind worked
    · cases returned
  · intro rule
    cases rule with
    | held kind negated found raised =>
        rw [kind]
        refine bind_eq_ok_iff.mpr ⟨_, afterTelling_eq_ok_iff.mpr negated, ?_⟩
        simp only [found]
        exact bind_eq_ok_iff.mpr ⟨_, afterTelling_eq_ok_iff.mpr raised, rfl⟩
    | fuel kind negated missing raised =>
        rw [kind]
        refine bind_eq_ok_iff.mpr ⟨_, afterTelling_eq_ok_iff.mpr negated, ?_⟩
        simp only
        exact bind_eq_ok_iff.mpr ⟨_, afterTelling_eq_ok_iff.mpr raised, rfl⟩
    | garbage kind negated =>
        rw [kind]
        exact bind_eq_ok_iff.mpr ⟨_, afterTelling_eq_ok_iff.mpr negated, rfl⟩
    | codeCard kind worked =>
        rw [kind]
        exact congrArg Except.ok (Option.map_eq_some_iff.mpr ⟨_, worked, rfl⟩)

/-! ## Instructions -/

/-- The robot has walked to a place and paid for it. -/
def walked (world : World) (instruction : Instruction) (direction : Direction)
    (moved : Navigation) (amount : Quantity) : Attempt :=
  { world with robot := world.robot.addFuel amount, navigation := moved }.succeeds instruction
    [moved.arrived direction, (world.robot.addFuel amount).report]

/-- The robot has turned and paid for it. -/
def turned (world : World) (instruction : Instruction) (rotation : Rotation)
    (amount : Quantity) : Attempt :=
  { world with
    robot := world.robot.addFuel amount
    navigation := world.navigation.rotate rotation }.succeeds instruction
    [(world.navigation.rotate rotation).turned, (world.robot.addFuel amount).report]

/-- An item has gone from the place into the bag. -/
def picked (world : World) (instruction : Instruction) (id : String) (item : Item) : Attempt :=
  let navigation := world.navigation.changeItems fun items => items.remove id
  let inventory := world.inventory.add item
  { world with navigation, inventory }.succeeds instruction
    [inventory.changed, navigation.changed, .robotSpeaks ("I am happy! Now I have " ++ id)]

/-- An item has gone from the bag to the place. -/
def dropped (world : World) (instruction : Instruction) (id : String) (item : Item) : Attempt :=
  let navigation := world.navigation.changeItems fun items => items.add item
  let inventory := world.inventory.remove id
  { world with navigation, inventory }.succeeds instruction
    [navigation.changed, inventory.changed,
      .robotSpeaks ("Great! I have dropped " ++ item.id)]

/-- An item has gone from the bag, and the place holds something else under its key. -/
def mislaid (world : World) (instruction : Instruction) (id : String) (item : Item) : Attempt :=
  let inventory := world.inventory.remove id
  { world with inventory }.succeeds instruction
    [inventory.changed, .robotSpeaks ("Great! I have dropped " ++ item.id)]

/-- A carried item has been used. -/
def operated (id : String) (effect : ItemEffect) : Attempt :=
  let inventory := effect.world.inventory.afterUse id effect.item
  { effect.world with inventory }.succeeds (.operate id (some effect.item))
    (effect.events ++ if effect.item.isUsable then [] else
      [Event.robotSpeaks ("What a pity! I have no more " ++ id ++ " in my inventory"),
        inventory.changed])

theorem walk_eq_ok_iff {world : World} {instruction : Instruction} {direction : Direction}
    {price : Except Fault Quantity} {attempt : Attempt} :
    world.walk instruction direction price = .ok attempt ↔
      (∃ failure, world.navigation.walk direction = .ok (.error failure) ∧
        attempt = world.fails instruction failure) ∨
      ∃ moved amount, world.navigation.walk direction = .ok (.ok moved) ∧
        price = .ok amount ∧ attempt = world.walked instruction direction moved amount := by
  simp only [walk, bind_eq_ok_iff, afterTelling_eq_ok_iff]
  constructor
  · rintro ⟨failure | moved, went, rest⟩
    · cases rest
      exact Or.inl ⟨failure, went, rfl⟩
    · obtain ⟨amount, paid, told⟩ := bind_eq_ok_iff.mp rest
      cases told
      exact Or.inr ⟨moved, amount, went, afterTelling_eq_ok_iff.mp paid, rfl⟩
  · rintro (⟨failure, went, rfl⟩ | ⟨moved, amount, went, paid, rfl⟩)
    · exact ⟨.error failure, went, rfl⟩
    · exact ⟨.ok moved, went,
        bind_eq_ok_iff.mpr ⟨amount, afterTelling_eq_ok_iff.mpr paid, rfl⟩⟩

theorem turn_eq_ok_iff {world : World} {instruction : Instruction} {rotation : Rotation}
    {price : Except Fault Quantity} {attempt : Attempt} :
    world.turn instruction rotation price = .ok attempt ↔
      ∃ amount, price = .ok amount ∧ attempt = world.turned instruction rotation amount := by
  simp only [turn, bind_eq_ok_iff, afterTelling_eq_ok_iff, pure_eq_ok_iff]
  constructor
  · rintro ⟨amount, paid, rfl⟩
    exact ⟨amount, paid, rfl⟩
  · rintro ⟨amount, paid, rfl⟩
    exact ⟨amount, paid, rfl⟩

theorem pick_of_found {world : World} {id : String} {item : Item} (instruction : Instruction)
    (found : world.navigation.here.items.find? id = some item)
    (free : world.inventory.contains id = false) :
    world.pick instruction id = world.picked instruction id item := by
  simp [pick, picked, Navigation.take?, found, free]

theorem pick_cases (world : World) (instruction : Instruction) (id : String) :
    (∃ failure, world.pick instruction id = world.fails instruction failure) ∨
      ∃ item, world.navigation.here.items.find? id = some item ∧
        world.inventory.contains id = false ∧
          world.pick instruction id = world.picked instruction id item := by
  cases found : world.navigation.here.items.find? id with
  | none => exact Or.inl ⟨.notAtPlace id, by simp [pick, Navigation.take?, found]⟩
  | some item =>
      cases carried : world.inventory.contains id with
      | true =>
          exact Or.inl ⟨.alreadyCarrying id, by simp [pick, Navigation.take?, found, carried]⟩
      | false => exact Or.inr ⟨item, rfl, rfl, pick_of_found instruction found carried⟩

theorem drop_of_found {world : World} {id : String} {item : Item} (instruction : Instruction)
    (keyed : world.inventory.IsKeyed) (found : world.inventory.find? id = some item)
    (free : world.navigation.here.items.contains id = false) :
    world.drop instruction id = world.dropped instruction id item := by
  have alsoFree : world.navigation.here.items.contains item.id = false := by
    rw [Bag.contains_congr _ (keyed.key_of_find? found)]
    exact free
  simp [drop, dropped, Navigation.lay?, Navigation.holds, found, free, alsoFree]

theorem drop_cases (world : World) (instruction : Instruction) (id : String) :
    (∃ failure, world.drop instruction id = world.fails instruction failure) ∨
      ∃ item, world.inventory.find? id = some item ∧
        world.navigation.here.items.contains id = false ∧
          (world.drop instruction id = world.dropped instruction id item ∨
            item.key ≠ itemKey id ∧
              world.drop instruction id = world.mislaid instruction id item) := by
  cases found : world.inventory.find? id with
  | none => exact Or.inl ⟨.notCarrying id, by simp [drop, found]⟩
  | some item =>
      cases present : world.navigation.here.items.contains id with
      | true =>
          exact Or.inl ⟨.alreadyAtPlace id, by simp [drop, Navigation.holds, found, present]⟩
      | false =>
          refine Or.inr ⟨item, rfl, rfl, ?_⟩
          cases taken : world.navigation.here.items.contains item.id with
          | false =>
              left
              simp [drop, dropped, Navigation.lay?, Navigation.holds, found, present, taken]
          | true =>
              right
              constructor
              · intro same
                rw [Bag.contains_congr _ same, present] at taken
                cases taken
              · simp [drop, mislaid, Navigation.lay?, Navigation.holds, found, present, taken]

theorem use_inventory {world : World} {item : Item} {effect : ItemEffect}
    (rule : UseOf world item effect) : effect.world.inventory = world.inventory := by
  cases rule <;> rfl

theorem operate_of_use {world : World} {id : String} {item : Item} {effect : ItemEffect}
    (used : Option Item) (found : world.inventory.find? id = some item)
    (rule : UseOf world item effect) : world.operate id used = .ok (operated id effect) := by
  have held : effect.world.inventory.find? id = some item := by
    rw [use_inventory rule]
    exact found
  simp only [operate, found]
  refine bind_eq_ok_iff.mpr ⟨some effect, use_eq_some_iff.mpr rule, ?_⟩
  simp only [Bag.consume?_adjust held, operated, Bag.afterUse]
  cases effect.item.isUsable <;> simp [pure, Except.pure, World.succeeds]

theorem operate_cases {world : World} {id : String} {used : Option Item} {attempt : Attempt}
    (done : world.operate id used = .ok attempt) :
    (∃ failure, attempt = world.fails (.operate id used) failure) ∨
      ∃ item effect, world.inventory.find? id = some item ∧ UseOf world item effect ∧
        attempt = operated id effect := by
  cases found : world.inventory.find? id with
  | none =>
      simp only [operate, found, pure_eq_ok_iff] at done
      exact Or.inl ⟨.notInInventory id, done.symm⟩
  | some item =>
      have opened := done
      simp only [operate, found] at opened
      obtain ⟨tried, used?, rest⟩ := bind_eq_ok_iff.mp opened
      cases tried with
      | none => exact Or.inl ⟨.cannotUse id, (pure_eq_ok_iff.mp rest).symm⟩
      | some effect =>
          have rule := use_eq_some_iff.mp used?
          rw [operate_of_use used found rule] at done
          exact Or.inr ⟨item, effect, rfl, rule, (Except.ok.inj done).symm⟩

theorem operateBack_eq_ok_iff {world : World} {id : String} {used : Option Item}
    {attempt : Attempt} :
    world.operateBack id used = .ok attempt ↔
      ((∀ item, used = some item → world.takeBack item = .ok none) ∧
        attempt = world.fails (.operate id used) (.undoFailed id)) ∨
      ∃ item effect, used = some item ∧ ReturnOf world item effect ∧
        attempt = effect.world.succeeds (.operate id none) effect.events := by
  cases used with
  | none =>
      simp only [operateBack, pure_eq_ok_iff]
      constructor
      · rintro rfl
        refine Or.inl ⟨?_, rfl⟩
        intro item impossible
        cases impossible
      · rintro (⟨-, same⟩ | ⟨_, _, impossible, _⟩)
        · exact same.symm
        · cases impossible
  | some item =>
      simp only [operateBack, bind_eq_ok_iff, ← takeBack_eq_some_iff]
      constructor
      · rintro ⟨_ | effect, returned, told⟩
        · refine Or.inl ⟨?_, (pure_eq_ok_iff.mp told).symm⟩
          rintro _ ⟨⟩
          exact returned
        · exact Or.inr ⟨item, effect, rfl, returned, (pure_eq_ok_iff.mp told).symm⟩
      · rintro (⟨refused, rfl⟩ | ⟨_, effect, ⟨⟩, returned, rfl⟩)
        · exact ⟨none, refused item rfl, rfl⟩
        · exact ⟨some effect, returned, rfl⟩

theorem scan_cases (world : World) (instruction : Instruction) (id : Option String) :
    (∃ failure, world.scan instruction id = world.fails instruction failure) ∨
      ∃ message, world.scan instruction id =
        world.succeeds instruction [.robotSpeaks message] := by
  cases id with
  | none =>
      cases bare : world.inventory.isEmpty with
      | true => exact Or.inl ⟨.inventoryEmpty, by simp [scan, bare]⟩
      | false => exact Or.inr ⟨_, by simp only [scan, bare]; rfl⟩
  | some id =>
      cases found : world.inventory.find? id with
      | none => exact Or.inl ⟨.unknownItem id, by simp [scan, found]⟩
      | some item => exact Or.inr ⟨_, by simp only [scan, found]; rfl⟩

/-- What an instruction comes to that succeeds. -/
inductive Performs (world : World) : Instruction → Attempt → Prop
  | move {moved : Navigation} {amount : Quantity}
      (went : world.navigation.walk world.navigation.heading = .ok (.ok moved))
      (paid : world.robot.settings.moveCost.negate = .ok amount) :
      Performs world .move (world.walked .move world.navigation.heading moved amount)
  | turn {rotation : Rotation} {amount : Quantity}
      (paid : world.robot.settings.turnCost.negate = .ok amount) :
      Performs world (.turn rotation) (world.turned (.turn rotation) rotation amount)
  | pick {id : String} {item : Item}
      (found : world.navigation.here.items.find? id = some item)
      (free : world.inventory.contains id = false) :
      Performs world (.pick id) (world.picked (.pick id) id item)
  | drop {id : String} {item : Item} (found : world.inventory.find? id = some item)
      (free : world.navigation.here.items.contains id = false) :
      Performs world (.drop id) (world.dropped (.drop id) id item)
  | operate {id : String} {used : Option Item} {item : Item} {effect : ItemEffect}
      (found : world.inventory.find? id = some item) (rule : UseOf world item effect) :
      Performs world (.operate id used) (operated id effect)
  | scan {id : Option String} {message : String}
      (told : world.scan (.scan id) id = world.succeeds (.scan id) [.robotSpeaks message]) :
      Performs world (.scan id) (world.succeeds (.scan id) [.robotSpeaks message])
  | radar : Performs world .radar (world.succeeds .radar [world.navigation.scanned])
  | help : Performs world .help (world.succeeds .help [.helpRequested .full])
  | quit :
      Performs world .quit ({ world with robot := world.robot.quit }.succeeds .quit [])

/-- What the undoing of an instruction comes to that succeeds. -/
inductive Retracts (world : World) : Instruction → Attempt → Prop
  | move {moved : Navigation}
      (went : world.navigation.walk world.navigation.heading.opposite = .ok (.ok moved)) :
      Retracts world .move
        (world.walked .move world.navigation.heading.opposite moved
          world.robot.settings.moveCost)
  | turn {rotation : Rotation} :
      Retracts world (.turn rotation)
        (world.turned (.turn rotation) rotation.opposite world.robot.settings.turnCost)
  | pick {id : String} {item : Item} (found : world.inventory.find? id = some item)
      (free : world.navigation.here.items.contains id = false) :
      Retracts world (.pick id) (world.dropped (.pick id) id item)
  | drop {id : String} {item : Item}
      (found : world.navigation.here.items.find? id = some item)
      (free : world.inventory.contains id = false) :
      Retracts world (.drop id) (world.picked (.drop id) id item)
  | operate {id : String} {item : Item} {effect : ItemEffect}
      (rule : ReturnOf world item effect) :
      Retracts world (.operate id (some item))
        (effect.world.succeeds (.operate id none) effect.events)
  | scan {id : Option String} :
      Retracts world (.scan id) (world.succeeds (.scan id) [])
  | radar : Retracts world .radar (world.succeeds .radar [])
  | help : Retracts world .help (world.succeeds .help [])
  | quit : Retracts world .quit (world.succeeds .quit [])

/-- An item leaves the bag from under a key that is not its own, and the place does not take it. -/
inductive Mislays (world : World) (instruction : Instruction) : Attempt → Prop
  | astray {id : String} {item : Item}
      (handled : instruction = .drop id ∨ instruction = .pick id)
      (found : world.inventory.find? id = some item) (different : item.key ≠ itemKey id) :
      Mislays world instruction (world.mislaid instruction id item)

/-- Nothing is mislaid from a keyed bag. -/
theorem Mislays.not_isKeyed {world : World} {instruction : Instruction} {attempt : Attempt}
    (mislays : Mislays world instruction attempt) : ¬ world.inventory.IsKeyed := by
  intro keyed
  cases mislays with
  | astray handled found different => exact different (keyed.key_of_find? found)

theorem Mislays.used?_eq_none {world : World} {instruction : Instruction} {attempt : Attempt}
    (mislays : Mislays world instruction attempt) : attempt.instruction.used? = none := by
  cases mislays with
  | astray handled found different => rcases handled with rfl | rfl <;> rfl

theorem execute_cases_of_any {world : World} {instruction : Instruction} {attempt : Attempt}
    (done : world.execute instruction = .ok attempt) :
    (∃ failure, attempt = world.fails instruction failure) ∨
      Performs world instruction attempt ∨ Mislays world instruction attempt := by
  cases instruction with
  | move =>
      rcases walk_eq_ok_iff.mp done with ⟨failure, -, rfl⟩ | ⟨moved, amount, went, paid, rfl⟩
      · exact Or.inl ⟨failure, rfl⟩
      · exact Or.inr (Or.inl (.move went paid))
  | turn rotation =>
      obtain ⟨amount, paid, rfl⟩ := turn_eq_ok_iff.mp done
      exact Or.inr (Or.inl (.turn paid))
  | pick id =>
      cases done
      rcases world.pick_cases (.pick id) id with ⟨failure, same⟩ | ⟨item, found, free, same⟩
      · exact Or.inl ⟨failure, same⟩
      · rw [same]
        exact Or.inr (Or.inl (.pick found free))
  | drop id =>
      cases done
      rcases world.drop_cases (.drop id) id with
        ⟨failure, same⟩ | ⟨item, found, free, same | ⟨different, same⟩⟩
      · exact Or.inl ⟨failure, same⟩
      · rw [same]
        exact Or.inr (Or.inl (.drop found free))
      · rw [same]
        exact Or.inr (Or.inr (.astray (Or.inl rfl) found different))
  | operate id used =>
      rcases operate_cases done with ⟨failure, rfl⟩ | ⟨item, effect, found, rule, rfl⟩
      · exact Or.inl ⟨failure, rfl⟩
      · exact Or.inr (Or.inl (.operate found rule))
  | scan id =>
      cases done
      rcases world.scan_cases (.scan id) id with ⟨failure, same⟩ | ⟨message, same⟩
      · exact Or.inl ⟨failure, same⟩
      · rw [same]
        exact Or.inr (Or.inl (.scan same))
  | radar =>
      cases done
      exact Or.inr (Or.inl .radar)
  | help =>
      cases done
      exact Or.inr (Or.inl .help)
  | quit =>
      cases done
      exact Or.inr (Or.inl .quit)

theorem Performs.execute {world : World} (keyed : world.inventory.IsKeyed)
    {instruction : Instruction} {attempt : Attempt}
    (rule : Performs world instruction attempt) :
    world.execute instruction = .ok attempt := by
  cases rule with
  | move went paid => exact walk_eq_ok_iff.mpr (Or.inr ⟨_, _, went, paid, rfl⟩)
  | turn paid => exact turn_eq_ok_iff.mpr ⟨_, paid, rfl⟩
  | pick found free => exact congrArg Except.ok (pick_of_found _ found free)
  | drop found free => exact congrArg Except.ok (drop_of_found _ keyed found free)
  | operate found rule => exact operate_of_use _ found rule
  | scan told => exact congrArg Except.ok told
  | radar => rfl
  | help => rfl
  | quit => rfl

theorem undo_cases_of_any {world : World} {instruction : Instruction} {attempt : Attempt}
    (done : world.undo instruction = .ok attempt) :
    (∃ failure, attempt = world.fails instruction failure) ∨
      Retracts world instruction attempt ∨ Mislays world instruction attempt := by
  cases instruction with
  | move =>
      rcases walk_eq_ok_iff.mp done with ⟨failure, -, rfl⟩ | ⟨moved, amount, went, ⟨⟩, rfl⟩
      · exact Or.inl ⟨failure, rfl⟩
      · exact Or.inr (Or.inl (.move went))
  | turn rotation =>
      obtain ⟨amount, ⟨⟩, rfl⟩ := turn_eq_ok_iff.mp done
      exact Or.inr (Or.inl .turn)
  | pick id =>
      cases done
      rcases world.drop_cases (.pick id) id with
        ⟨failure, same⟩ | ⟨item, found, free, same | ⟨different, same⟩⟩
      · exact Or.inl ⟨failure, same⟩
      · rw [same]
        exact Or.inr (Or.inl (.pick found free))
      · rw [same]
        exact Or.inr (Or.inr (.astray (Or.inr rfl) found different))
  | drop id =>
      cases done
      rcases world.pick_cases (.drop id) id with ⟨failure, same⟩ | ⟨item, found, free, same⟩
      · exact Or.inl ⟨failure, same⟩
      · rw [same]
        exact Or.inr (Or.inl (.drop found free))
  | operate id used =>
      rcases operateBack_eq_ok_iff.mp done with ⟨-, rfl⟩ | ⟨item, effect, rfl, rule, rfl⟩
      · exact Or.inl ⟨.undoFailed id, rfl⟩
      · exact Or.inr (Or.inl (.operate rule))
  | scan id =>
      cases done
      exact Or.inr (Or.inl .scan)
  | radar =>
      cases done
      exact Or.inr (Or.inl .radar)
  | help =>
      cases done
      exact Or.inr (Or.inl .help)
  | quit =>
      cases done
      exact Or.inr (Or.inl .quit)

theorem Retracts.undo {world : World} (keyed : world.inventory.IsKeyed)
    {instruction : Instruction} {attempt : Attempt}
    (rule : Retracts world instruction attempt) :
    world.undo instruction = .ok attempt := by
  cases rule with
  | move went => exact walk_eq_ok_iff.mpr (Or.inr ⟨_, _, went, rfl, rfl⟩)
  | turn => exact turn_eq_ok_iff.mpr ⟨_, rfl, rfl⟩
  | pick found free => exact congrArg Except.ok (drop_of_found _ keyed found free)
  | drop found free => exact congrArg Except.ok (pick_of_found _ found free)
  | operate rule => exact operateBack_eq_ok_iff.mpr (Or.inr ⟨_, _, rfl, rule, rfl⟩)
  | scan => rfl
  | radar => rfl
  | help => rfl
  | quit => rfl

end World

end Rover
