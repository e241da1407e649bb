/-!
# Faults

A fault ends a run on the spot: nothing after it happens, and onlookers are not
told of it.  Counters are 32-bit words, and the three plain operations
on them that leave that range are faults; so are a place number that the city
does not have and a start outside the city.
-/

namespace Rover

/-- Why a run was cut short. -/
inductive Fault where
  /-- The least 32-bit number has no opposite. -/
  | negate
  /-- A counter was lowered below the least 32-bit number. -/
  | subtract
  /-- A counter was raised above the greatest 32-bit number. -/
  | add
  /-- Entry `index` of a list of `length` entries was asked for. -/
  | outOfRange (length index : Nat)
  /-- A robot was put on a place that its city does not have. -/
  | strayStart (place : Nat)
  deriving DecidableEq, Repr

/-- The words in which a fault is told. -/
def Fault.message : Fault → String
  | .negate => "attempt to negate with overflow"
  | .subtract => "attempt to subtract with overflow"
  | .add => "attempt to add with overflow"
  | .outOfRange length index =>
      s!"index out of bounds: the len is {length} but the index is {index}"
  | .strayStart place => s!"initial place place#{place} is not part of the city"

end Rover
