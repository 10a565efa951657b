import Broadphase.Geometry.Error

/-! # Why a simulation is refused -/

namespace Broadphase

/-- The causes for which a setting or a step of a simulation is refused. -/
inductive SimulationError where
  | geometry (cause : GeometryError)
  | deltaTime (value : Float)
  | damping (value : Float)
  | gravity (value : Float)
  | bounds (width height : Float)
  | referenceHeight (value : Float)
deriving DecidableEq, Repr

/-- The wording of a refused setting or step.  A geometric cause speaks for itself. -/
def SimulationError.message : SimulationError → String
  | geometry cause => cause.message
  | deltaTime v => s!"invalid delta time {num v}: must be finite and >= 0"
  | damping v => s!"invalid damping {num v}: must be in (0, 1]"
  | gravity v => s!"invalid gravity {num v}: must be finite"
  | bounds w h => s!"invalid bounds {num w}x{num h}: both must be finite and > 0"
  | referenceHeight v => s!"invalid reference height {num v}: must be finite"
where
  /-- Numbers stand in messages in their shortest positional form. -/
  num (x : Float) : String := Layout.message.text x

end Broadphase
