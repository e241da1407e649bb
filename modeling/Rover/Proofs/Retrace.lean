import Rover.Proofs.Kept

/-!
# Taking an instruction back

In an orderly world an instruction that succeeded can be taken back: its undoing
succeeds too, and leads back to the world before it, counters apart.  Counters
play no part in what an instruction does to the rest, so worlds that agree in
all but their counters go on agreeing.
-/

namespace Rover

/-- Garbage is good for one use; other kinds are for as many as they like. -/
def ItemKind.IsSingleUse : ItemKind → Prop
  | .garbage _ times => times = .one
  | _ => True

namespace World

/-- Two worlds are the same but for their counters. -/
structure Agrees (world twin : World) : Prop where
  settings : twin.robot.settings = world.robot.settings
  navigation : twin.navigation = world.navigation
  inventory : twin.inventory = world.inventory

theorem Agrees.refl (world : World) : world.Agrees world :=
  ⟨rfl, rfl, rfl⟩

theorem Agrees.isKeyed {world twin : World} (agrees : world.Agrees twin)
    (keyed : world.IsKeyed) : twin.IsKeyed where
  places := by rw [agrees.navigation]; exact keyed.places
  inventory := by rw [agrees.inventory]; exact keyed.inventory

/-- A property of all items of the world. -/
structure Everywhere (world : World) (property : Item → Prop) : Prop where
  places : ∀ place ∈ world.navigation.city.places, place.items.All property
  inventory : world.inventory.All property

namespace Everywhere

variable {world : World} {property : Item → Prop}

theorem here (holds : world.Everywhere property) :
    world.navigation.here.items.All property :=
  holds.places _ (List.get_mem _ _)

theorem walked (holds : world.Everywhere property) {direction : Direction}
    {moved : Navigation} (went : world.navigation.walk direction = .ok (.ok moved))
    (instruction : Instruction) (amount : Quantity) :
    (world.walked instruction direction moved amount).world.Everywhere property := by
  refine ⟨?_, holds.inventory⟩
  show ∀ place ∈ moved.city.places, place.items.All property
  rw [(Navigation.walk_eq_moved_iff.mp went).2.1]
  exact holds.places

theorem picked (holds : world.Everywhere property) (instruction : Instruction) {id : String}
    {item : Item} (found : world.navigation.here.items.find? id = some item) :
    (world.picked instruction id item).world.Everywhere property where
  places := Navigation.forall_items_changeItems holds.places (holds.here.remove id)
  inventory := holds.inventory.add (holds.here.of_find? found)

theorem dropped (holds : world.Everywhere property) (instruction : Instruction) {id : String}
    {item : Item} (found : world.inventory.find? id = some item) :
    (world.dropped instruction id item).world.Everywhere property where
  places :=
    Navigation.forall_items_changeItems holds.places
      (holds.here.add (holds.inventory.of_find? found))
  inventory := holds.inventory.remove id

theorem toggled (holds : world.Everywhere property) {code : String} {toggled : Navigation}
    (worked : world.navigation.toggleAhead? code = some toggled) :
    ({ world with navigation := toggled } : World).Everywhere property := by
  refine ⟨?_, holds.inventory⟩
  show ∀ place ∈ toggled.city.places, place.items.All property
  rw [Navigation.places_toggleAhead? worked]
  exact holds.places

theorem used (holds : world.Everywhere property) {item : Item} {effect : ItemEffect}
    (rule : UseOf world item effect) : effect.world.Everywhere property := by
  cases rule with
  | fuel usable lowered => exact ⟨holds.places, holds.inventory⟩
  | garbage usable lowered => exact ⟨holds.places, holds.inventory⟩
  | codeCard worked => exact holds.toggled worked

theorem operated (holds : world.Everywhere property) {item : Item} {effect : ItemEffect}
    (rule : UseOf world item effect) (id : String)
    (left : effect.item.isUsable = true → property effect.item) :
    (World.operated id effect).world.Everywhere property := by
  refine ⟨(holds.used rule).places, ?_⟩
  show (effect.world.inventory.afterUse id effect.item).All property
  unfold Bag.afterUse
  split
  · rename_i usable
    exact (holds.used rule).inventory.adjust fun _ _ => left usable
  · exact (holds.used rule).inventory.remove id

theorem mono {other : Item → Prop} (holds : world.Everywhere property)
    (weaker : ∀ item, property item → other item) : world.Everywhere other where
  places := fun place member entry held => weaker _ (holds.places place member entry held)
  inventory := fun entry held => weaker _ (holds.inventory entry held)

/-- What follows for all items, and for items after a use that leaves them usable, holds then. -/
theorem performs {other : Item → Prop} (holds : world.Everywhere property)
    {instruction : Instruction} {attempt : Attempt}
    (rule : Performs world instruction attempt) (weaker : ∀ item, property item → other item)
    (left : ∀ item effect, property item → UseOf world item effect →
      effect.item.isUsable = true → other effect.item) :
    attempt.world.Everywhere other := by
  have kept := holds.mono weaker
  cases rule with
  | move went paid => exact kept.walked went _ _
  | turn paid => exact ⟨kept.places, kept.inventory⟩
  | pick found free => exact kept.picked _ found
  | drop found free => exact kept.dropped _ found
  | operate found rule =>
      exact kept.operated rule _ (left _ _ (holds.inventory.of_find? found) rule)
  | scan told => exact kept
  | radar => exact kept
  | help => exact kept
  | quit => exact ⟨kept.places, kept.inventory⟩

/-- What follows for an item after a use holds of the item that the instruction remembers. -/
theorem remembers {other : Item → Prop} (holds : world.Everywhere property)
    {instruction : Instruction} {attempt : Attempt} (rule : Performs world instruction attempt)
    (left : ∀ item effect, property item → UseOf world item effect → other effect.item) :
    ∀ item ∈ attempt.instruction.used?, other item := by
  intro item used
  cases rule with
  | operate found rule =>
      cases used
      exact left _ _ (holds.inventory.of_find? found) rule
  | _ => cases used

theorem mislaid (holds : world.Everywhere property) {instruction : Instruction}
    {attempt : Attempt} (mislays : Mislays world instruction attempt) :
    attempt.world.Everywhere property := by
  cases mislays with
  | astray handled found different => exact ⟨holds.places, holds.inventory.remove _⟩

/-- What holds of all items holds then if it does after the use of an item is taken back. -/
theorem retracts (holds : world.Everywhere property) {instruction : Instruction}
    {attempt : Attempt} (rule : Retracts world instruction attempt)
    (returned : ∀ item effect, instruction.used? = some item → ReturnOf world item effect →
      effect.world.Everywhere property) : attempt.world.Everywhere property := by
  cases rule with
  | move went => exact holds.walked went _ _
  | turn => exact ⟨holds.places, holds.inventory⟩
  | pick found free => exact holds.dropped _ found
  | drop found free => exact holds.picked _ found
  | operate rule => exact returned _ _ rfl rule
  | scan => exact holds
  | radar => exact holds
  | help => exact holds
  | quit => exact holds

end Everywhere

/-- The worlds in which whatever succeeds can be taken back. -/
structure IsOrderly (world : World) : Prop where
  keyed : world.IsKeyed
  single : world.Everywhere fun item => item.kind.IsSingleUse
  distinct : world.navigation.city.HasDistinctExits

theorem UseOf.isSingleUse {world : World} {item : Item} {effect : ItemEffect}
    (rule : UseOf world item effect) (single : item.kind.IsSingleUse)
    (usable : effect.item.isUsable = true) : effect.item.kind.IsSingleUse := by
  cases rule with
  | fuel => trivial
  | @garbage id description material times fewer used lowered =>
      have none : fewer = .zero := by
        apply Quantity.ext
        rw [Quantity.decrement_eq_ok_iff.mp lowered, show times = .one from single]
        rfl
      simp [Item.isUsable, ItemKind.isUsable, none] at usable
  | codeCard => trivial

theorem Performs.isOrderly {world : World} {instruction : Instruction} {attempt : Attempt}
    (rule : Performs world instruction attempt) (orderly : world.IsOrderly) :
    attempt.world.IsOrderly where
  keyed := rule.keeps.keyed orderly.keyed
  single :=
    orderly.single.performs rule (fun _ single => single) fun _ _ single used =>
      used.isSingleUse single
  distinct :=
    City.hasDistinctExits_of_courses_eq (City.courses_eq_of_plan_eq rule.keeps.plan.symm)
      orderly.distinct

/-! ## Counters play no part -/

section Agreement

variable {world twin : World} (agrees : world.Agrees twin)

include agrees

theorem UseOf.of_agrees {item : Item} {effect : ItemEffect} (rule : UseOf world item effect) :
    ∃ same, UseOf twin item same ∧ same.item = effect.item ∧
      effect.world.Agrees same.world := by
  cases rule with
  | fuel usable lowered =>
      exact ⟨_, .fuel usable lowered, rfl, ⟨agrees.settings, agrees.navigation, agrees.inventory⟩⟩
  | garbage usable lowered =>
      exact ⟨_, .garbage usable lowered, rfl,
        ⟨agrees.settings, agrees.navigation, agrees.inventory⟩⟩
  | codeCard worked =>
      rw [← agrees.navigation] at worked
      exact ⟨_, .codeCard worked, rfl, ⟨agrees.settings, rfl, agrees.inventory⟩⟩

theorem scan_of_agrees {instruction : Instruction} {id : Option String} {events : List Event}
    (told : world.scan instruction id = world.succeeds instruction events) :
    twin.scan instruction id = twin.succeeds instruction events := by
  cases id with
  | none =>
      cases bare : world.inventory.isEmpty with
      | true => simp [scan, fails, succeeds, bare] at told
      | false => simpa [scan, succeeds, agrees.inventory, bare] using told
  | some id =>
      cases found : world.inventory.find? id with
      | none => simp [scan, fails, succeeds, found] at told
      | some item => simpa [scan, succeeds, agrees.inventory, found] using told

/-- What succeeds in a world succeeds in every world that agrees with it. -/
theorem Performs.of_agrees {instruction : Instruction} {attempt : Attempt}
    (rule : Performs world instruction attempt) :
    ∃ same, Performs twin instruction same ∧ same.instruction = attempt.instruction ∧
      attempt.world.Agrees same.world := by
  rcases agrees with ⟨settings, navigation, inventory⟩
  cases rule with
  | move went paid =>
      rw [← navigation] at went ⊢
      rw [← settings] at paid
      exact ⟨_, .move went paid, rfl, ⟨settings, rfl, inventory⟩⟩
  | turn paid =>
      rw [← settings] at paid
      exact ⟨_, .turn paid, rfl,
        ⟨settings, congrArg (Navigation.rotate · _) navigation, inventory⟩⟩
  | @pick id item found free =>
      rw [← navigation] at found
      rw [← inventory] at free
      exact ⟨_, .pick found free, rfl,
        ⟨settings, congrArg (Navigation.changeItems · _) navigation,
          congrArg (Bag.add · item) inventory⟩⟩
  | @drop id item found free =>
      rw [← inventory] at found
      rw [← navigation] at free
      exact ⟨_, .drop found free, rfl,
        ⟨settings, congrArg (Navigation.changeItems · _) navigation,
          congrArg (Bag.remove · id) inventory⟩⟩
  | @operate id used item effect found rule =>
      rcases UseOf.of_agrees ⟨settings, navigation, inventory⟩ rule with
        ⟨same, sameRule, sameItem, further⟩
      rw [← inventory] at found
      refine ⟨_, .operate found sameRule, ?_, ?_⟩
      · show Instruction.operate id (some same.item) = .operate id (some effect.item)
        rw [sameItem]
      · refine ⟨further.settings, further.navigation, ?_⟩
        show same.world.inventory.afterUse id same.item =
          effect.world.inventory.afterUse id effect.item
        rw [sameItem, further.inventory]
  | scan told =>
      exact ⟨_, .scan (scan_of_agrees ⟨settings, navigation, inventory⟩ told), rfl,
        ⟨settings, navigation, inventory⟩⟩
  | radar => exact ⟨_, .radar, rfl, ⟨settings, navigation, inventory⟩⟩
  | help => exact ⟨_, .help, rfl, ⟨settings, navigation, inventory⟩⟩
  | quit => exact ⟨_, .quit, rfl, ⟨settings, navigation, inventory⟩⟩

end Agreement

/-! ## Undoing -/

section Undoing

variable {bag : Bag} {id : String} {item left : Item} (found : bag.find? id = some item)

include found

theorem find?_afterUse_of_usable (usable : left.isUsable = true) :
    (bag.afterUse id left).find? id = some left := by
  rw [Bag.afterUse, if_pos usable]
  exact Bag.find?_adjust_self found _

theorem adjust_afterUse_of_usable (usable : left.isUsable = true) :
    ((bag.afterUse id left).adjust id fun _ => item) = bag := by
  rw [Bag.afterUse, if_pos usable, Bag.adjust_adjust]
  apply Bag.adjust_eq_self
  intro old present
  exact Option.some.inj (found.symm.trans present)

theorem add_afterUse_of_spent (keyed : bag.IsKeyed) (spent : left.isUsable = false) :
    (bag.afterUse id left).add item = bag := by
  rw [Bag.afterUse, if_neg (by simp [spent])]
  exact keyed.add_remove found

end Undoing

theorem find?_afterUse_of_spent (bag : Bag) {id : String} {left : Item}
    (spent : left.isUsable = false) : (bag.afterUse id left).find? id = none := by
  rw [Bag.afterUse, if_neg (by simp [spent])]
  exact Bag.contains_eq_false_iff.mp (bag.contains_remove_self id)

/-- The use of a fuel cell is taken back, whether the cell is still in the bag or not. -/
theorem ReturnOf.agrees_of_fuel {world twin : World} {id label description : String}
    {power times fewer : Quantity} {back : ItemEffect} (keyed : world.inventory.IsKeyed)
    (found : world.inventory.find? id = some ⟨label, description, .fuel power times⟩)
    (lowered : times.decrement = .ok fewer)
    (settings : twin.robot.settings = world.robot.settings)
    (navigation : twin.navigation = world.navigation)
    (inventory : twin.inventory =
      world.inventory.afterUse id ⟨label, description, .fuel power fewer⟩)
    (returned : ReturnOf twin ⟨label, description, .fuel power fewer⟩ back) :
    world.Agrees back.world := by
  have sameKey : itemKey label = itemKey id := (keyed.key_of_find? found :)
  have restored : ∀ more, fewer.increment = .ok more → more = times := by
    intro more raised
    apply Quantity.ext
    rw [Quantity.increment_eq_ok_iff.mp raised, Quantity.decrement_eq_ok_iff.mp lowered]
    omega
  have usable? := Bool.eq_false_or_eq_true
    (Item.isUsable ⟨label, description, .fuel power fewer⟩)
  cases returned with
  | held kind negated present raised =>
      cases kind
      rw [inventory, Bag.find?_congr _ sameKey] at present
      rcases usable? with usable | spent
      · rw [find?_afterUse_of_usable found usable] at present
        cases present
        rw [restored _ raised]
        refine ⟨settings, navigation, ?_⟩
        show (twin.inventory.adjust label fun _ => _) = world.inventory
        rw [inventory, Bag.adjust_congr _ sameKey]
        exact adjust_afterUse_of_usable found usable
      · rw [find?_afterUse_of_spent _ spent] at present
        cases present
  | fuel kind negated missing raised =>
      cases kind
      rcases usable? with usable | spent
      · exfalso
        apply missing label description power fewer
        rw [inventory, Bag.find?_congr _ sameKey]
        exact find?_afterUse_of_usable found usable
      · rw [restored _ raised]
        refine ⟨settings, navigation, ?_⟩
        show twin.inventory.add _ = world.inventory
        rw [inventory]
        exact add_afterUse_of_spent found keyed spent
  | garbage kind negated => cases kind
  | codeCard kind worked => cases kind

/-- The use of a piece of garbage, which has used it up, is taken back. -/
theorem ReturnOf.agrees_of_garbage {world twin : World} {id label description : String}
    {material times fewer : Quantity} {back : ItemEffect} (keyed : world.inventory.IsKeyed)
    (found : world.inventory.find? id = some ⟨label, description, .garbage material times⟩)
    (single : times = .one) (lowered : times.decrement = .ok fewer)
    (settings : twin.robot.settings = world.robot.settings)
    (navigation : twin.navigation = world.navigation)
    (inventory : twin.inventory =
      world.inventory.afterUse id ⟨label, description, .garbage material fewer⟩)
    (returned : ReturnOf twin ⟨label, description, .garbage material fewer⟩ back) :
    world.Agrees back.world := by
  have none : fewer = .zero := by
    apply Quantity.ext
    rw [Quantity.decrement_eq_ok_iff.mp lowered, single]
    rfl
  subst single none
  cases returned with
  | held kind negated present raised => cases kind
  | fuel kind negated missing raised => cases kind
  | garbage kind negated =>
      cases kind
      refine ⟨settings, navigation, ?_⟩
      show twin.inventory.add _ = world.inventory
      rw [inventory]
      exact add_afterUse_of_spent found keyed rfl
  | codeCard kind worked => cases kind

/-- The use of a code card is taken back by another use. -/
theorem ReturnOf.agrees_of_codeCard {world twin : World} {id label description code : String}
    {toggled : Navigation} {back : ItemEffect}
    (found : world.inventory.find? id = some ⟨label, description, .codeCard code⟩)
    (worked : world.navigation.toggleAhead? code = some toggled)
    (settings : twin.robot.settings = world.robot.settings)
    (navigation : twin.navigation = toggled)
    (inventory : twin.inventory =
      world.inventory.afterUse id ⟨label, description, .codeCard code⟩)
    (returned : ReturnOf twin ⟨label, description, .codeCard code⟩ back) :
    world.Agrees back.world := by
  cases returned with
  | held kind negated present raised => cases kind
  | fuel kind negated missing raised => cases kind
  | garbage kind negated => cases kind
  | codeCard kind worksBack =>
      cases kind
      rw [navigation, Navigation.toggleAhead?_twice worked] at worksBack
      cases worksBack
      refine ⟨settings, rfl, ?_⟩
      show twin.inventory = world.inventory
      rw [inventory, Bag.afterUse,
        if_pos (show Item.isUsable ⟨label, description, .codeCard code⟩ = true from rfl)]
      apply Bag.adjust_eq_self
      intro old present
      exact Option.some.inj (found.symm.trans present)

/-- Where a use was for one use only, its return leads back. -/
theorem UseOf.agrees_of_returned {world twin : World} {id : String} {item : Item}
    {effect back : ItemEffect} (keyed : world.inventory.IsKeyed)
    (found : world.inventory.find? id = some item) (single : item.kind.IsSingleUse)
    (rule : UseOf world item effect) (agrees : (World.operated id effect).world.Agrees twin)
    (returned : ReturnOf twin effect.item back) : world.Agrees back.world := by
  rcases agrees with ⟨settings, navigation, inventory⟩
  cases rule with
  | fuel usable lowered =>
      exact returned.agrees_of_fuel keyed found lowered settings navigation inventory
  | garbage usable lowered =>
      exact returned.agrees_of_garbage keyed found single lowered settings navigation inventory
  | codeCard worked =>
      exact returned.agrees_of_codeCard found worked settings navigation inventory

theorem UseOf.undone {world twin : World} {id : String} {used : Option Item} {item : Item}
    {effect : ItemEffect} {undone : Attempt} (keyed : world.inventory.IsKeyed)
    (found : world.inventory.find? id = some item) (single : item.kind.IsSingleUse)
    (rule : UseOf world item effect) (agrees : (World.operated id effect).world.Agrees twin)
    (remembered : used = some effect.item)
    (done : twin.operateBack id used = .ok undone) :
    Retracts twin (.operate id used) undone ∧ world.Agrees undone.world := by
  subst remembered
  rcases operateBack_eq_ok_iff.mp done with ⟨refused, -⟩ | ⟨_, back, ⟨⟩, returned, rfl⟩
  · exfalso
    have stuck := takeBack_eq_none_iff.mp (refused _ rfl)
    cases rule with
    | fuel => rcases stuck with ⟨code, kind, -⟩ | kind <;> cases kind
    | garbage => rcases stuck with ⟨code, kind, -⟩ | kind <;> cases kind
    | codeCard worked =>
        rcases stuck with ⟨code, kind, failed⟩ | kind
        · cases kind
          rw [show twin.navigation = _ from agrees.navigation] at failed
          cases failed.symm.trans (Navigation.toggleAhead?_twice worked)
        · cases kind
  · exact ⟨.operate returned, rule.agrees_of_returned keyed found single agrees returned⟩

/--
What succeeded in an orderly world is undone wherever the world is as it was
left, and its undoing leads back.
-/
theorem Performs.undone {world twin : World} {instruction : Instruction}
    {attempt undone : Attempt} (orderly : world.IsOrderly)
    (rule : Performs world instruction attempt) (agrees : attempt.world.Agrees twin)
    (done : twin.undo attempt.instruction = .ok undone) :
    Retracts twin attempt.instruction undone ∧ world.Agrees undone.world := by
  have ⟨settings, navigation, inventory⟩ := agrees
  have keyed : twin.inventory.IsKeyed :=
    (agrees.isKeyed (rule.keeps.keyed orderly.keyed)).inventory
  cases rule with
  | @move moved amount went paid =>
      have navigation : twin.navigation = moved := navigation
      have sameHeading := (Navigation.walk_eq_moved_iff.mp went).2.2
      have returns : twin.navigation.walk twin.navigation.heading.opposite =
          .ok (.ok world.navigation) := by
        rw [navigation, sameHeading]
        exact Navigation.walk_opposite orderly.distinct went
      rcases walk_eq_ok_iff.mp done with ⟨failure, failed, -⟩ | ⟨back, amount, led, ⟨⟩, rfl⟩
      · cases failed.symm.trans returns
      · cases returns.symm.trans led
        exact ⟨.move returns, ⟨settings, rfl, inventory⟩⟩
  | @turn rotation amount paid =>
      rcases turn_eq_ok_iff.mp done with ⟨amount, ⟨⟩, rfl⟩
      refine ⟨.turn, ⟨settings, ?_, inventory⟩⟩
      show twin.navigation.rotate rotation.opposite = world.navigation
      rw [navigation]
      exact Navigation.ext rfl rfl (Direction.rotate_opposite_rotate _ _)
  | @pick id item found free =>
      have sameKey : itemKey item.id = itemKey id := orderly.keyed.here.key_of_find? found
      have inventory : twin.inventory = world.inventory.add item := inventory
      have navigation : twin.navigation = world.navigation.changeItems (Bag.remove · id) :=
        navigation
      have carried : twin.inventory.find? id = some item := by
        rw [inventory, ← Bag.find?_congr _ sameKey]
        exact Bag.find?_add_self ((Bag.contains_congr _ sameKey).trans free)
      have taken : twin.navigation.here.items.contains id = false := by
        rw [navigation, Navigation.items_changeItems]
        exact Bag.contains_remove_self _ _
      cases (congrArg Except.ok (drop_of_found (.pick id) keyed carried taken)).symm.trans done
      refine ⟨.pick carried taken, ⟨settings, ?_, ?_⟩⟩
      · show twin.navigation.changeItems (Bag.add · item) = world.navigation
        rw [navigation, Navigation.changeItems_changeItems]
        exact Navigation.changeItems_eq_self (orderly.keyed.here.add_remove found)
      · show twin.inventory.remove id = world.inventory
        rw [inventory]
        exact Bag.remove_add sameKey free
  | @drop id item found free =>
      have sameKey : itemKey item.id = itemKey id :=
        orderly.keyed.inventory.key_of_find? found
      have inventory : twin.inventory = world.inventory.remove id := inventory
      have navigation : twin.navigation = world.navigation.changeItems (Bag.add · item) :=
        navigation
      have laid : twin.navigation.here.items.find? id = some item := by
        rw [navigation, Navigation.items_changeItems, ← Bag.find?_congr _ sameKey]
        exact Bag.find?_add_self ((Bag.contains_congr _ sameKey).trans free)
      have gone : twin.inventory.contains id = false := by
        rw [inventory]
        exact Bag.contains_remove_self _ _
      cases (congrArg Except.ok (pick_of_found (.drop id) laid gone)).symm.trans done
      refine ⟨.drop laid gone, ⟨settings, ?_, ?_⟩⟩
      · show twin.navigation.changeItems (Bag.remove · id) = world.navigation
        rw [navigation, Navigation.changeItems_changeItems]
        exact Navigation.changeItems_eq_self (Bag.remove_add sameKey free)
      · show twin.inventory.add item = world.inventory
        rw [inventory]
        exact orderly.keyed.inventory.add_remove found
  | operate found rule =>
      exact rule.undone orderly.keyed.inventory found
        (orderly.single.inventory.of_find? found) agrees rfl done
  | scan told =>
      cases done
      exact ⟨.scan, ⟨settings, navigation, inventory⟩⟩
  | radar =>
      cases done
      exact ⟨.radar, ⟨settings, navigation, inventory⟩⟩
  | help =>
      cases done
      exact ⟨.help, ⟨settings, navigation, inventory⟩⟩
  | quit =>
      cases done
      exact ⟨.quit, ⟨settings, navigation, inventory⟩⟩

end World

end Rover
