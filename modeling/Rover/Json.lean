import Rover.Quantity

/-!
# JSON values

A JSON value keeps what decoding can ask of it.  A number counts as a whole
number only if it is written as one, so `1.0`, `1e2` and `-0` do not.  A text
with half of a surrogate pair in it is allowed where nobody looks, but stands
for no text; an object keeps its members as they come, repeated names
included.
-/

namespace Rover

/-- A JSON value. -/
inductive Json where
  | null
  | boolean (value : Bool)
  | integer (value : Int)
  /-- A number that is not written as a whole number. -/
  | real (written : String)
  /-- A text; nothing stands for one with half of a surrogate pair. -/
  | text (value : Option String)
  | array (items : List Json)
  | object (members : List (Option String × Json))

namespace Json

/-- A text that is one. -/
def string (value : String) : Json :=
  .text (some value)

/-- An object with well-formed names. -/
def record (members : List (String × Json)) : Json :=
  .object (members.map fun member => (some member.1, member.2))

/-- The text that a value is. -/
def text? : Json → Option String
  | .text value => value
  | _ => none

/-- The truth value that a value is. -/
def boolean? : Json → Option Bool
  | .boolean value => some value
  | _ => none

/-- The quantity that a value is. -/
def quantity? : Json → Option Quantity
  | .integer value => Quantity.ofInt? value
  | _ => none

/-- The number of 64 bits that a value is. -/
def index? : Json → Option Nat
  | .integer (.ofNat value) => if value < UInt64.size then some value else none
  | _ => none

/-- The list of texts that a value is. -/
def texts? : Json → Option (List String)
  | .array items => items.mapM text?
  | _ => none

/-- The value under a name, if there is one; a name that stands twice is an error. -/
def single? (name : String) (members : List (Option String × Json)) : Option (Option Json) :=
  match members.filter fun member => member.1 == some name with
  | [] => some none
  | [member] => some (some member.2)
  | _ => none

/--
The values of the named fields of a record.  A record is written as an object,
whose other members do not matter, or as an array of its first fields in the
order of their names.  A field that is not there has no value.
-/
def fields? (names : List String) : Json → Option (List (Option Json))
  | .object members =>
      if members.all fun member => member.1.isSome then
        names.mapM fun name => single? name members
      else
        none
  | .array items =>
      if items.length ≤ names.length then
        some (items.map some ++ List.replicate (names.length - items.length) none)
      else
        none
  | _ => none

/--
The case that a value names, and the value that comes with it: a lone text has
none, and an object with one member has that of the member.
-/
def variant? : Json → Option (String × Option Json)
  | .text (some name) => some (name, none)
  | .object [(some name, value)] => some (name, some value)
  | _ => none

/-- The name of a case that nothing comes with. -/
def plainVariant? (json : Json) : Option String :=
  match json.variant? with
  | some (name, none) => some name
  | some (name, some .null) => some name
  | _ => none

end Json

end Rover
