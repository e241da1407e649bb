import Rover.Quantity
import Rover.Text.Lowercase

/-!
# Items

What lies about in a city and can be carried: fuel cells, garbage, code cards
and things of no use.  An item is told from the others by its identifier,
whatever the case it is written in, so its key is the identifier in small
letters.
-/

namespace Rover

/-- What an item is good for. -/
inductive ItemKind where
  /-- Gives `power` fuel with every use; usable while its uses are not nought. -/
  | fuel (power times : Quantity)
  /-- Gives `material` to recycle with every use; usable while its uses are not nought. -/
  | garbage (material times : Quantity)
  /-- Works the door of the street ahead, if that has the same code. -/
  | codeCard (code : String)
  /-- No use at all. -/
  | generic
  deriving DecidableEq, Repr

/-- A thing with an identifier, a description and a use. -/
structure Item where
  id : String
  description : String
  kind : ItemKind
  deriving DecidableEq, Repr

/-- The form of an identifier by which items are found and sorted. -/
def itemKey (id : String) : String :=
  Text.lowercase id

namespace ItemKind

/-- Whether an item of the kind can be used now. -/
def isUsable : ItemKind → Bool
  | .fuel _ times => times != .zero
  | .garbage _ times => times != .zero
  | .codeCard _ => true
  | .generic => false

/-- What a description of an item of the kind ends with. -/
def detail : ItemKind → String
  | .fuel power times =>
      " // power = " ++ power.text ++ ", times = " ++ times.text
  | .garbage material _ => " // recycled material = " ++ material.text
  | .codeCard _ => ""
  | .generic => ""

end ItemKind

namespace Item

/-- The key of an item. -/
def key (item : Item) : String :=
  itemKey item.id

/-- Whether an item can be used now. -/
def isUsable (item : Item) : Bool :=
  item.kind.isUsable

/-- The description of an item, with the figures of its kind. -/
def text (item : Item) : String :=
  item.description ++ item.kind.detail

end Item

end Rover
