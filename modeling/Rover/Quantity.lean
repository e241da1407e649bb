import Rover.Fault

/-!
# Quantities

Fuel, recycled material, power, yields, costs and use counters are quantities:
whole numbers of 32 bits.  Tanks are filled with an addition that stops at the
ends of the range; signs and counters change with operations that fault there.
-/

namespace Rover

/-- A whole number of 32 bits. -/
structure Quantity where
  value : Int
  lower : -2147483648 ≤ value
  upper : value ≤ 2147483647
  deriving DecidableEq, Repr

namespace Quantity

@[ext]
theorem ext {left right : Quantity} (same : left.value = right.value) : left = right := by
  cases left
  cases right
  cases same
  rfl

/-- The quantity of a given value, if it has 32 bits. -/
def ofInt? (value : Int) : Option Quantity :=
  if range : -2147483648 ≤ value ∧ value ≤ 2147483647 then
    some ⟨value, range.1, range.2⟩
  else
    none

/-- The quantity nearest to a value. -/
def nearest (value : Int) : Quantity :=
  ⟨max (-2147483648) (min value 2147483647), by omega, by omega⟩

/-- Nothing. -/
def zero : Quantity := ⟨0, by decide, by decide⟩

/-- A single one. -/
def one : Quantity := ⟨1, by decide, by decide⟩

/-- A quantity, but nothing in place of a debt. -/
def orZero (quantity : Quantity) : Quantity :=
  ⟨max quantity.value 0, by have := quantity.lower; omega, by have := quantity.upper; omega⟩

/-- Addition that stops at the ends of the range. -/
def fill (quantity amount : Quantity) : Quantity :=
  nearest (quantity.value + amount.value)

/-- The opposite quantity; the least one has none. -/
def negate (quantity : Quantity) : Except Fault Quantity :=
  match ofInt? (-quantity.value) with
  | some opposite => .ok opposite
  | none => .error .negate

/-- One less; a fault at the least quantity. -/
def decrement (quantity : Quantity) : Except Fault Quantity :=
  match ofInt? (quantity.value - 1) with
  | some less => .ok less
  | none => .error .subtract

/-- One more; a fault at the greatest quantity. -/
def increment (quantity : Quantity) : Except Fault Quantity :=
  match ofInt? (quantity.value + 1) with
  | some more => .ok more
  | none => .error .add

/-- A quantity in decimal, with a sign only below zero. -/
def text (quantity : Quantity) : String :=
  toString quantity.value

theorem ofInt?_eq_some_iff {value : Int} {quantity : Quantity} :
    ofInt? value = some quantity ↔ quantity.value = value := by
  unfold ofInt?
  constructor
  · intro found
    split at found
    · cases found
      rfl
    · cases found
  · rintro rfl
    simp [quantity.lower, quantity.upper]

@[simp]
theorem ofInt?_value (quantity : Quantity) : ofInt? quantity.value = some quantity :=
  ofInt?_eq_some_iff.mpr rfl

theorem ofInt?_eq_none_iff {value : Int} :
    ofInt? value = none ↔ value < -2147483648 ∨ 2147483647 < value := by
  unfold ofInt?
  split <;> simp <;> omega

theorem negate_eq_ok_iff {quantity opposite : Quantity} :
    quantity.negate = .ok opposite ↔ opposite.value = -quantity.value := by
  rw [← ofInt?_eq_some_iff]
  unfold negate
  cases ofInt? (-quantity.value) <;> simp

theorem decrement_eq_ok_iff {quantity less : Quantity} :
    quantity.decrement = .ok less ↔ less.value = quantity.value - 1 := by
  rw [← ofInt?_eq_some_iff]
  unfold decrement
  cases ofInt? (quantity.value - 1) <;> simp

theorem increment_eq_ok_iff {quantity more : Quantity} :
    quantity.increment = .ok more ↔ more.value = quantity.value + 1 := by
  rw [← ofInt?_eq_some_iff]
  unfold increment
  cases ofInt? (quantity.value + 1) <;> simp

theorem negate_eq_error_iff {quantity : Quantity} {fault : Fault} :
    quantity.negate = .error fault ↔ quantity.value = -2147483648 ∧ fault = .negate := by
  have missing := @ofInt?_eq_none_iff (-quantity.value)
  have := quantity.lower
  have := quantity.upper
  unfold negate
  cases found : ofInt? (-quantity.value) with
  | none =>
      have least : quantity.value = -2147483648 := by
        rcases missing.mp found with below | above <;> omega
      simp [least, eq_comm]
  | some opposite =>
      have same := ofInt?_eq_some_iff.mp found
      have := opposite.upper
      simp
      omega

theorem decrement_eq_error_iff {quantity : Quantity} {fault : Fault} :
    quantity.decrement = .error fault ↔
      quantity.value = -2147483648 ∧ fault = .subtract := by
  have missing := @ofInt?_eq_none_iff (quantity.value - 1)
  have := quantity.lower
  have := quantity.upper
  unfold decrement
  cases found : ofInt? (quantity.value - 1) with
  | none =>
      have least : quantity.value = -2147483648 := by
        rcases missing.mp found with below | above <;> omega
      simp [least, eq_comm]
  | some less =>
      have same := ofInt?_eq_some_iff.mp found
      have := less.lower
      simp
      omega

theorem increment_eq_error_iff {quantity : Quantity} {fault : Fault} :
    quantity.increment = .error fault ↔ quantity.value = 2147483647 ∧ fault = .add := by
  have missing := @ofInt?_eq_none_iff (quantity.value + 1)
  have := quantity.lower
  have := quantity.upper
  unfold increment
  cases found : ofInt? (quantity.value + 1) with
  | none =>
      have greatest : quantity.value = 2147483647 := by
        rcases missing.mp found with below | above <;> omega
      simp [greatest, eq_comm]
  | some more =>
      have same := ofInt?_eq_some_iff.mp found
      have := more.upper
      simp
      omega

end Quantity

end Rover
