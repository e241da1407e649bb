import Rover.Event

/-!
# The inventory desk

A bag that answers requests and tells onlookers what it holds.  They are told
when somebody asks for it and when an item that can no longer be used leaves
the bag, and at no other time: who adds or takes an item asks for it himself.
-/

namespace Rover

namespace Bag

/-- All that a bag holds, as onlookers are told it. -/
def changed (bag : Bag) : Event :=
  .inventoryChanged bag.items

/-- A bag without the item that an identifier stands for, if that can no longer be used. -/
def consume? (bag : Bag) (id : String) : Option (Item × Bag) :=
  (bag.exhausted? id).map fun item => (item, bag.remove id)

/-- What a bag can be asked. -/
inductive Request where
  | add (item : Item)
  | find (id : String)
  /-- Put an item in the place of another, under the key of the other. -/
  | overwrite (id : String) (item : Item)
  | contains (id : String)
  | remove (id : String)
  /-- Let go of an item that can no longer be used. -/
  | consume (id : String)
  /-- Tell onlookers what the bag holds. -/
  | announce
  | items
  deriving DecidableEq, Repr

/-- What a bag answers. -/
inductive Reply where
  | done
  | truth (value : Bool)
  | item (found : Option Item)
  | items (all : List Item)
  deriving DecidableEq, Repr

/-- The reply of a bag to a request, the bag afterwards, and what onlookers are told. -/
def serve (bag : Bag) : Request → Reply × Bag × List Event
  | .add item => (.truth (!bag.contains item.id), bag.add item, [])
  | .find id => (.item (bag.find? id), bag, [])
  | .overwrite id item => (.truth (bag.contains id), bag.adjust id fun _ => item, [])
  | .contains id => (.truth (bag.contains id), bag, [])
  | .remove id => (.item (bag.find? id), bag.remove id, [])
  | .consume id =>
      match bag.consume? id with
      | some (item, rest) => (.item (some item), rest, [rest.changed])
      | none => (.item none, bag, [])
  | .announce => (.done, bag, [bag.changed])
  | .items => (.items bag.items, bag, [])

end Bag

end Rover
