import Rover.Event

/-!
# Onlookers

Who is told of events.  Onlookers are known by numbers.  Each source has its
own list of them, in the order in which they first signed up; to sign up again
changes nothing.  An onlooker who is held while a call runs misses the events
of that call.
-/

namespace Rover

/-- The number of an onlooker. -/
abbrev Onlooker := Nat

/-- The onlookers of one source, each once. -/
structure Onlookers where
  list : List Onlooker
  nodup : list.Nodup

namespace Onlookers

/-- Nobody. -/
def nobody : Onlookers := ⟨[], .nil⟩

/-- Whether an onlooker has signed up. -/
def contains (onlookers : Onlookers) (onlooker : Onlooker) : Bool :=
  onlookers.list.contains onlooker

/-- The onlookers with one more behind them, unless that one has signed up before. -/
def add (onlookers : Onlookers) (onlooker : Onlooker) : Onlookers :=
  if present : onlooker ∈ onlookers.list then
    onlookers
  else
    ⟨onlookers.list ++ [onlooker], by
      rw [List.nodup_append]
      refine ⟨onlookers.nodup, by simp, ?_⟩
      intro earlier member later last
      rw [List.mem_singleton.mp last]
      rintro rfl
      exact present member⟩

/-- The onlookers who hear of an event, in order. -/
def hearing (onlookers : Onlookers) (held : List Onlooker) : List Onlooker :=
  onlookers.list.filter fun onlooker => !held.contains onlooker

/-- The onlookers, as a count. -/
def text (onlookers : Onlookers) : String :=
  "Observers \x7b len: " ++ toString onlookers.list.length ++ " \x7d"

end Onlookers

/-- Somebody told of something. -/
structure Notice where
  onlooker : Onlooker
  event : Event
  deriving DecidableEq, Repr

/-- The onlookers of all three sources. -/
structure Audience where
  navigation : Onlookers
  engine : Onlookers
  inventory : Onlookers

namespace Audience

/-- Nobody at all. -/
def nobody : Audience := ⟨.nobody, .nobody, .nobody⟩

/-- The onlookers of a source. -/
def of (audience : Audience) : Source → Onlookers
  | .navigation => audience.navigation
  | .engine => audience.engine
  | .inventory => audience.inventory

/-- An audience with an onlooker signed up for a source. -/
def add (audience : Audience) (source : Source) (onlooker : Onlooker) : Audience :=
  match source with
  | .navigation => { audience with navigation := audience.navigation.add onlooker }
  | .engine => { audience with engine := audience.engine.add onlooker }
  | .inventory => { audience with inventory := audience.inventory.add onlooker }

/-- An audience with an onlooker signed up for every source. -/
def addEverywhere (audience : Audience) (onlooker : Onlooker) : Audience :=
  ((audience.add .navigation onlooker).add .engine onlooker).add .inventory onlooker

/-- Who is told of an event while some onlookers are held. -/
def notices (audience : Audience) (held : List Onlooker) (event : Event) : List Notice :=
  ((audience.of event.source).hearing held).map fun onlooker => ⟨onlooker, event⟩

/-- Who is told of what, event by event. -/
def deliver (audience : Audience) (held : List Onlooker) (events : List Event) : List Notice :=
  events.flatMap (audience.notices held)

end Audience

end Rover
