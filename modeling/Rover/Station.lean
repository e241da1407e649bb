import Rover.Engine
import Rover.Onlookers

/-!
# Watched engines

An engine together with those who watch it and all that they have been told.
The audience hears of every call and has no part in it.
-/

namespace Rover

/-- An engine, its audience and the notices given so far, first one first. -/
structure Station where
  engine : Engine
  audience : Audience
  log : List Notice

namespace Station

/-- An engine that nobody watches yet. -/
def unwatched (engine : Engine) : Station := ⟨engine, .nobody, []⟩

/-- The audience with an onlooker signed up for a source. -/
def watch (station : Station) (source : Source) (onlooker : Onlooker) : Station :=
  { station with audience := station.audience.add source onlooker }

/-- The station after events that changed the world, with some onlookers held meanwhile. -/
def publish (station : Station) (held : List Onlooker) (engine : Engine)
    (events : List Event) : Station :=
  { station with engine, log := station.log ++ station.audience.deliver held events }

/-- The station after a call, with some onlookers held meanwhile, and what the call came to. -/
def call (station : Station) (held : List Onlooker) (request : Engine.Call) :
    Except Breakdown (Option Outcome × Station) := do
  let answer ← station.engine.call request
  return (answer.outcome?, station.publish held answer.engine answer.events)

/--
The station after some calls, each with the onlookers who are held meanwhile,
and what the calls came to.
-/
def run (station : Station) :
    List (List Onlooker × Engine.Call) → Except Breakdown (List (Option Outcome) × Station)
  | [] => return ([], station)
  | (held, request) :: rest => do
      let (outcome, next) ← station.call held request
      let (outcomes, last) ← next.run rest
      return (outcome :: outcomes, last)

/-- What a call does to the engine does not depend on who watches. -/
theorem engine_call {station next : Station} {held : List Onlooker} {request : Engine.Call}
    {outcome : Option Outcome} (done : station.call held request = .ok (outcome, next)) :
    ∃ answer, station.engine.call request = .ok answer ∧ outcome = answer.outcome? ∧
      next = station.publish held answer.engine answer.events := by
  unfold call at done
  cases answered : station.engine.call request with
  | error breakdown => simp [answered, bind, Except.bind] at done
  | ok answer =>
      simp only [answered, bind, Except.bind, pure, Except.pure, Except.ok.injEq,
        Prod.mk.injEq] at done
      exact ⟨answer, rfl, done.1.symm, done.2.symm⟩

end Station

end Rover
