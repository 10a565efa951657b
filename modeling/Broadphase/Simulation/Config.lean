import Broadphase.Grid.Config
import Broadphase.Sampling.Shapes
import Broadphase.Simulation.Motion

/-! # Settings of a simulation -/

namespace Broadphase

/-- Everything that determines a simulation before its first tick. -/
structure SimConfig where
  objectCount : UInt64 := 200
  seed : UInt64 := 0x5eed
  bounds : Bounds := {}
  motion : MotionParams := {}
  /-- The height of zero potential energy; the floor of the arena if absent. -/
  referenceHeight? : Option Float := none
  grid : GridConfig := {}
  shape : ShapeRanges := {}
deriving DecidableEq, Repr

namespace SimConfig

/-- The height of zero potential energy. -/
def referenceHeight (c : SimConfig) : Float := c.referenceHeight?.getD c.bounds.height

/-- The shape ranges with the walls as their arena. -/
def spawnShape (c : SimConfig) : ShapeRanges :=
  { c.shape with arenaWidth := c.bounds.width, arenaHeight := c.bounds.height }

/-- Regards a geometric cause as one of a simulation. -/
def liftGeometry {α : Type} : Except GeometryError α → Except SimulationError α
  | .ok a => .ok a
  | .error e => .error (.geometry e)

/-- Checks the walls, the motion, the grid, the shapes and the reference height, in this order. -/
def validate (c : SimConfig) : Except SimulationError Unit := do
  c.bounds.validate
  c.motion.validate
  liftGeometry c.grid.validate
  liftGeometry c.spawnShape.validate
  match c.referenceHeight? with
  | some h => unless h.isFinite do throw (.referenceHeight h)
  | none => return ()

/-- The bodies with which a simulation starts. -/
def spawn (c : SimConfig) : Except SimulationError (List Body) := do
  c.validate
  liftGeometry (c.spawnShape.bodies c.objectCount.toNat 0 c.seed)

end SimConfig

end Broadphase
