/-!
# Numerals

Decimal numerals of ASCII digits.  A whole number may carry a sign in front; a
numeral without digits is none.  Place and record numbers are machine words of
64 bits.
-/

namespace Rover.Text

/-- The value of a digit in a base up to sixteen. -/
def digitValue? (base : Nat) (character : Char) : Option Nat :=
  let value? :=
    if '0' ≤ character && character ≤ '9' then
      some (character.toNat - '0'.toNat)
    else if 'a' ≤ character && character ≤ 'f' then
      some (character.toNat - 'a'.toNat + 10)
    else if 'A' ≤ character && character ≤ 'F' then
      some (character.toNat - 'A'.toNat + 10)
    else
      none
  value?.filter (· < base)

/-- The number whose leading digits give `value` and whose other digits follow. -/
def digitsAfter? (base value : Nat) : List Char → Option Nat
  | [] => some value
  | character :: rest =>
      match digitValue? base character with
      | some digit => digitsAfter? base (value * base + digit) rest
      | none => none

/-- The number that a nonempty row of digits writes. -/
def digits? (base : Nat) : List Char → Option Nat
  | [] => none
  | row => digitsAfter? base 0 row

/-- The whole number that a row of decimal digits writes, with `+`, `-` or no sign in front. -/
def whole? : List Char → Option Int
  | '+' :: row => (digits? 10 row).map Int.ofNat
  | '-' :: row => (digits? 10 row).map fun magnitude => -Int.ofNat magnitude
  | row => (digits? 10 row).map Int.ofNat

/-- The number of 64 bits that a row of decimal digits writes, with `+` or no sign in front. -/
def index? (text : List Char) : Option Nat :=
  let row :=
    match text with
    | '+' :: row => row
    | row => row
  (digits? 10 row).filter (· < UInt64.size)

end Rover.Text
