import Rover.Event

/-!
# The robot's counters

The fuel in the tank, the material recycled so far and whether the run has been
given up.  Fuel that is added or set never ends below nought; the recycled
material may.  A start, though, fills the tank with exactly what the settings
say.
-/

namespace Rover

/-- What a run costs, and the fuel that it starts with. -/
structure EngineSettings where
  initialFuel : Quantity
  moveCost : Quantity
  turnCost : Quantity
  deriving DecidableEq, Repr

/-- A full tank is one hundred; a move or a turn costs five. -/
def EngineSettings.standard : EngineSettings where
  initialFuel := ⟨100, by decide, by decide⟩
  moveCost := ⟨5, by decide, by decide⟩
  turnCost := ⟨5, by decide, by decide⟩

/-- The counters of a robot. -/
structure Robot where
  fuel : Quantity
  recycled : Quantity
  quitRequested : Bool
  settings : EngineSettings
  deriving DecidableEq, Repr

namespace Robot

/-- A robot at the start of a run. -/
def fresh (settings : EngineSettings) : Robot where
  fuel := settings.initialFuel
  recycled := .zero
  quitRequested := false
  settings := settings

/-- The counters at the start of another run. -/
def restart (robot : Robot) : Robot :=
  fresh robot.settings

/-- Fuel added, within the range of quantities and not below nought. -/
def addFuel (robot : Robot) (amount : Quantity) : Robot :=
  { robot with fuel := (robot.fuel.fill amount).orZero }

/-- The fuel set, to nought in place of a debt. -/
def setFuel (robot : Robot) (amount : Quantity) : Robot :=
  { robot with fuel := amount.orZero }

/-- Recycled material added, within the range of quantities. -/
def addRecycled (robot : Robot) (amount : Quantity) : Robot :=
  { robot with recycled := robot.recycled.fill amount }

/-- The recycled material set. -/
def setRecycled (robot : Robot) (amount : Quantity) : Robot :=
  { robot with recycled := amount }

/-- The run given up. -/
def quit (robot : Robot) : Robot :=
  { robot with quitRequested := true }

/-- The counters, as onlookers are told them. -/
def report (robot : Robot) : Event :=
  .stateUpdated robot.fuel robot.recycled

theorem fuel_addFuel (robot : Robot) (amount : Quantity) :
    (robot.addFuel amount).fuel.value =
      max (min (robot.fuel.value + amount.value) 2147483647) 0 := by
  simp only [addFuel, Quantity.fill, Quantity.nearest, Quantity.orZero]
  omega

theorem recycled_addRecycled (robot : Robot) (amount : Quantity) :
    (robot.addRecycled amount).recycled.value =
      max (-2147483648) (min (robot.recycled.value + amount.value) 2147483647) := rfl

end Robot

end Rover
