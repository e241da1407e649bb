import Rover.Proofs.Attempt

/-!
# What no instruction changes

Neither an instruction nor its undoing changes the costs of a run or the plan
of the city.  A robot that looks along the compass does so afterwards, and bags
that are keyed stay so.
-/

namespace Rover

theorem Direction.rotate_ne_unknown {direction : Direction} (known : direction ≠ .unknown)
    (rotation : Rotation) : direction.rotate rotation ≠ .unknown := by
  cases direction with
  | unknown => exact absurd rfl known
  | _ => cases rotation <;> exact nofun

namespace World

/-- One world comes after another with its costs, its plan, its compass and its keys. -/
structure Keeps (before after : World) : Prop where
  settings : after.robot.settings = before.robot.settings
  plan : after.navigation.city.plan = before.navigation.city.plan
  known : before.navigation.heading ≠ .unknown → after.navigation.heading ≠ .unknown
  keyed : before.IsKeyed → after.IsKeyed

theorem Keeps.refl (world : World) : world.Keeps world :=
  ⟨rfl, rfl, id, id⟩

theorem Keeps.trans {first second third : World} (earlier : first.Keeps second)
    (later : second.Keeps third) : first.Keeps third where
  settings := later.settings.trans earlier.settings
  plan := later.plan.trans earlier.plan
  known := later.known ∘ earlier.known
  keyed := later.keyed ∘ earlier.keyed

variable {world : World}

/-! ## One part of the world changed -/

/-- New counters with the old costs change nothing of all this. -/
theorem keeps_robot {robot : Robot} (settings : robot.settings = world.robot.settings) :
    world.Keeps { world with robot } :=
  ⟨settings, rfl, id, fun keyed => ⟨keyed.places, keyed.inventory⟩⟩

theorem keeps_inventory {inventory : Bag}
    (keyed : world.inventory.IsKeyed → inventory.IsKeyed) :
    world.Keeps { world with inventory } :=
  ⟨rfl, rfl, id, fun before => ⟨before.places, keyed before.inventory⟩⟩

theorem keeps_moved {direction : Direction} {moved : Navigation}
    (went : world.navigation.walk direction = .ok (.ok moved)) :
    world.Keeps { world with navigation := moved } := by
  obtain ⟨-, sameCity, sameHeading⟩ := Navigation.walk_eq_moved_iff.mp went
  refine ⟨rfl, congrArg City.plan sameCity, fun known => sameHeading ▸ known,
    fun keyed => ⟨?_, keyed.inventory⟩⟩
  change ∀ place ∈ moved.city.places, place.items.IsKeyed
  rw [sameCity]
  exact keyed.places

theorem keeps_rotated (rotation : Rotation) :
    world.Keeps { world with navigation := world.navigation.rotate rotation } where
  settings := rfl
  plan := rfl
  known := fun known => Direction.rotate_ne_unknown known rotation
  keyed := fun keyed => ⟨keyed.places, keyed.inventory⟩

theorem keeps_changedItems {change : Bag → Bag}
    (kept : world.navigation.here.items.IsKeyed →
      (change world.navigation.here.items).IsKeyed) :
    world.Keeps { world with navigation := world.navigation.changeItems change } where
  settings := rfl
  plan := Navigation.plan_changeItems _ _
  known := id
  keyed := fun keyed =>
    ⟨Navigation.forall_items_changeItems keyed.places (kept keyed.here), keyed.inventory⟩

theorem keeps_workedDoor {work : Street → Option Street} {worked : Navigation}
    (kept : ∀ street changed, work street = some changed → changed.course = street.course)
    (done : world.navigation.workDoorAhead? work = some worked) :
    world.Keeps { world with navigation := worked } where
  settings := rfl
  plan := Navigation.plan_workDoorAhead? kept done
  known := fun known => by
    rw [(Navigation.workDoorAhead?_eq_some_iff.mp done).2.2]
    exact known
  keyed := fun keyed =>
    ⟨by rw [Navigation.places_workDoorAhead? done]; exact keyed.places, keyed.inventory⟩

/-! ## Instructions -/

theorem keeps_walked {direction : Direction} {moved : Navigation}
    (went : world.navigation.walk direction = .ok (.ok moved)) (instruction : Instruction)
    (amount : Quantity) :
    world.Keeps (world.walked instruction direction moved amount).world :=
  (keeps_moved went).trans (keeps_robot rfl)

theorem keeps_turned (instruction : Instruction) (rotation : Rotation) (amount : Quantity) :
    world.Keeps (world.turned instruction rotation amount).world :=
  (keeps_rotated rotation).trans (keeps_robot rfl)

theorem keeps_picked (instruction : Instruction) (id : String) (item : Item) :
    world.Keeps (world.picked instruction id item).world :=
  (keeps_changedItems fun keyed => keyed.remove id).trans
    (keeps_inventory fun keyed => keyed.add item)

theorem keeps_dropped (instruction : Instruction) (id : String) (item : Item) :
    world.Keeps (world.dropped instruction id item).world :=
  (keeps_changedItems fun keyed => keyed.add item).trans
    (keeps_inventory fun keyed => keyed.remove id)

theorem keeps_toggled {code : String} {toggled : Navigation}
    (worked : world.navigation.toggleAhead? code = some toggled) :
    world.Keeps { world with navigation := toggled } :=
  keeps_workedDoor (fun _ _ => Street.course_toggle?) worked

theorem UseOf.keeps {item : Item} {effect : ItemEffect} (rule : UseOf world item effect) :
    world.Keeps effect.world := by
  cases rule with
  | fuel usable lowered => exact keeps_robot rfl
  | garbage usable lowered => exact keeps_robot rfl
  | codeCard worked => exact keeps_toggled worked

theorem UseOf.id_eq {item : Item} {effect : ItemEffect} (rule : UseOf world item effect) :
    effect.item.id = item.id := by
  cases rule <;> rfl

theorem keeps_operated {id : String} {item : Item} {effect : ItemEffect}
    (found : world.inventory.find? id = some item) (rule : UseOf world item effect) :
    world.Keeps (operated id effect).world := by
  obtain ⟨settings, plan, known, keyed⟩ := rule.keeps
  refine ⟨settings, plan, known, fun keyedBefore => ⟨(keyed keyedBefore).places, ?_⟩⟩
  have held : effect.world.inventory.find? id = some item := by
    rw [use_inventory rule]
    exact found
  change (effect.world.inventory.afterUse id effect.item).IsKeyed
  unfold Bag.afterUse
  split
  · refine (keyed keyedBefore).inventory.adjust fun old present => ?_
    rw [held, Option.some.injEq] at present
    rw [← present, Item.key, Item.key, rule.id_eq]
  · exact (keyed keyedBefore).inventory.remove id

theorem Performs.keeps {instruction : Instruction} {attempt : Attempt}
    (rule : Performs world instruction attempt) : world.Keeps attempt.world := by
  cases rule with
  | move went paid => exact keeps_walked went _ _
  | turn paid => exact keeps_turned _ _ _
  | pick found free => exact keeps_picked _ _ _
  | drop found free => exact keeps_dropped _ _ _
  | operate found rule => exact keeps_operated found rule
  | scan told => exact .refl world
  | radar => exact .refl world
  | help => exact .refl world
  | quit => exact keeps_robot rfl

theorem ReturnOf.keeps {item : Item} {effect : ItemEffect} (rule : ReturnOf world item effect) :
    world.Keeps effect.world := by
  cases rule with
  | held kind negated found raised =>
      refine ⟨rfl, rfl, id, fun keyed => ⟨keyed.places, ?_⟩⟩
      apply keyed.inventory.adjust
      intro old present
      rw [found, Option.some.injEq] at present
      rw [← present]
      rfl
  | fuel kind negated missing raised =>
      exact ⟨rfl, rfl, id, fun keyed => ⟨keyed.places, keyed.inventory.add _⟩⟩
  | garbage kind negated =>
      exact ⟨rfl, rfl, id, fun keyed => ⟨keyed.places, keyed.inventory.add _⟩⟩
  | codeCard kind worked => exact keeps_toggled worked

theorem Retracts.keeps {instruction : Instruction} {attempt : Attempt}
    (rule : Retracts world instruction attempt) : world.Keeps attempt.world := by
  cases rule with
  | move went => exact keeps_walked went _ _
  | turn => exact keeps_turned _ _ _
  | pick found free => exact keeps_dropped _ _ _
  | drop found free => exact keeps_picked _ _ _
  | operate rule => exact rule.keeps
  | scan => exact .refl world
  | radar => exact .refl world
  | help => exact .refl world
  | quit => exact .refl world

theorem Mislays.keeps {instruction : Instruction} {attempt : Attempt}
    (mislays : Mislays world instruction attempt) : world.Keeps attempt.world := by
  cases mislays with
  | astray handled found different =>
      exact keeps_inventory fun keyed => keyed.remove _

end World

end Rover
