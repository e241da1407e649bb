import Rover.Event

/-!
# Breakdowns

A fault cuts a call short, but what onlookers have been told by then is not
taken back.  A breakdown is a fault together with what the call had told them.
-/

namespace Rover

/-- A fault, and the events that a call had raised when it happened. -/
structure Breakdown where
  fault : Fault
  events : List Event
  deriving DecidableEq, Repr

/-- A calculation that is made after onlookers have been told of some events. -/
def afterTelling {α : Type} (events : List Event) : Except Fault α → Except Breakdown α
  | .ok value => .ok value
  | .error fault => .error ⟨fault, events⟩

@[simp]
theorem afterTelling_eq_ok_iff {α : Type} {events : List Event} {tried : Except Fault α}
    {value : α} : afterTelling events tried = .ok value ↔ tried = .ok value := by
  cases tried <;> simp [afterTelling]

theorem afterTelling_eq_error_iff {α : Type} {events : List Event} {tried : Except Fault α}
    {breakdown : Breakdown} : afterTelling events tried = .error breakdown ↔
      ∃ fault, tried = .error fault ∧ breakdown = ⟨fault, events⟩ := by
  cases tried <;> simp [afterTelling, eq_comm]

/-- A calculation of two steps succeeds if both of them do. -/
theorem bind_eq_ok_iff {ε α β : Type} {tried : Except ε α} {next : α → Except ε β}
    {result : β} : (tried >>= next) = .ok result ↔
      ∃ value, tried = .ok value ∧ next value = .ok result := by
  cases tried <;> simp [bind, Except.bind]

/-- A calculation of two steps breaks off in the first or, if that succeeds, in the second. -/
theorem bind_eq_error_iff {ε α β : Type} {tried : Except ε α} {next : α → Except ε β}
    {cause : ε} : (tried >>= next) = .error cause ↔
      tried = .error cause ∨ ∃ value, tried = .ok value ∧ next value = .error cause := by
  cases tried <;> simp [bind, Except.bind]

@[simp]
theorem pure_eq_ok_iff {ε α : Type} {value result : α} :
    (pure value : Except ε α) = .ok result ↔ value = result := by
  simp [pure, Except.pure]

@[simp]
theorem pure_ne_error {ε α : Type} {value : α} {cause : ε} :
    (pure value : Except ε α) ≠ .error cause := by
  simp [pure, Except.pure]

end Rover
