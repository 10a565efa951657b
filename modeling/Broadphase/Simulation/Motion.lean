import Broadphase.Binary64
import Broadphase.Geometry.Body
import Broadphase.Simulation.Error

/-! # Motion inside walls

Time is measured in reference frames: one unit is a frame at about 60 frames a second.  A step
accelerates, damps and moves every dynamic body by the explicit Euler rule and then contains it
between the walls.  Static bodies stay as they are. -/

namespace Broadphase

/-- The length of a reference frame in milliseconds. -/
def referenceFrameMs : Float := 16.67

/-- A duration in milliseconds, measured in reference frames. -/
def deltaTimeUnits (milliseconds : Float) : Float := milliseconds / referenceFrameMs

/-- The walls: the arena reaches from the origin to `(width, height)`. -/
structure Bounds where
  width : Float := 800
  height : Float := 600
deriving DecidableEq, Repr

namespace Bounds

/-- Both sides of the arena must be positive and finite. -/
def validate (b : Bounds) : Except SimulationError Unit :=
  if (b.width.isFinite ∧ b.width > 0) ∧ (b.height.isFinite ∧ b.height > 0) then .ok ()
  else .error (.bounds b.width b.height)

/-- Checked bounds. -/
def make (width height : Float) : Except SimulationError Bounds := do
  let b : Bounds := { width, height }
  b.validate
  return b

end Bounds

/-- What changes velocities between walls. -/
structure MotionParams where
  /-- Downward acceleration. -/
  gravity : Float := 0
  /-- The share of its velocity that a body keeps per unit of time. -/
  damping : Float := 1
deriving DecidableEq, Repr

namespace MotionParams

/-- Gravity must be finite, and damping must keep a positive share of at most all. -/
def validate (p : MotionParams) : Except SimulationError Unit :=
  if ¬ p.gravity.isFinite then .error (.gravity p.gravity)
  else if ¬ (p.damping > 0 ∧ p.damping ≤ 1) then .error (.damping p.damping)
  else .ok ()

/-- The share of its velocity that a body keeps over `dt`. -/
def kept (p : MotionParams) (dt : Float) : Float := if p.damping < 1 then p.damping.pow dt else 1

end MotionParams

namespace Motion

/-- The largest coordinate at which an extent fits before the far wall; the near wall if it does
not fit. -/
def farLimit (extent bound : Float) : Float := Binary64.larger (bound - extent) 0

/-- Puts a position between the walls of one axis.  A velocity that hit a wall points away from
it afterwards. -/
def contain (pos vel extent bound : Float) : Float × Float :=
  let limit := farLimit extent bound
  if pos < 0 then (0, vel.abs)
  else if pos > limit then (limit, -vel.abs)
  else (pos, vel)

/-- Moves one body by one step. -/
def advance (dt kept gravity : Float) (bounds : Bounds) (b : Body) : Body :=
  if b.isStatic then b
  else
    let vx := b.vx * kept
    let vy := (b.vy + gravity * dt) * kept
    let (x, vx) := contain (b.rect.x + vx * dt) vx b.rect.width bounds.width
    let (y, vy) := contain (b.rect.y + vy * dt) vy b.rect.height bounds.height
    { b with rect := b.rect.moveTo x y, vx, vy }

/-- A step must be finite and must not go back in time; the walls and the parameters must be
valid. -/
def check (dt : Float) (bounds : Bounds) (params : MotionParams) : Except SimulationError Unit := do
  unless dt.isFinite ∧ dt ≥ 0 do throw (.deltaTime dt)
  bounds.validate
  params.validate

/-- Moves all bodies by one step. -/
def integrate (dt : Float) (bounds : Bounds) (params : MotionParams) (bodies : List Body) :
    Except SimulationError (List Body) := do
  check dt bounds params
  return bodies.map (advance dt (params.kept dt) params.gravity bounds)

end Motion

end Broadphase
