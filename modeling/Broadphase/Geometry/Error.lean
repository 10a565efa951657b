import Broadphase.Decimal.Layout

/-! # Why geometry is refused

Every operation on rectangles, bodies, grids and shape distributions that can fail reports one of
these causes.  `GeometryError.message` is the only place that words them. -/

namespace Broadphase

/-- What is wrong with a shape distribution. -/
inductive ShapeFault where
  | notFinite
  | sizeRange
  | arenaTooSmall
  | negativeSpeed
  | massRange
deriving DecidableEq, Repr

/-- The wording of a fault in a shape distribution. -/
def ShapeFault.message : ShapeFault → String
  | notFinite => "all parameters must be finite"
  | sizeRange => "size range must satisfy 0 <= min_size <= max_size"
  | arenaTooSmall => "max_size must fit inside the arena"
  | negativeSpeed => "max_speed must be >= 0"
  | massRange => "mass range must satisfy 0 < min_mass <= max_mass"

/-- The causes for which a geometric value or query is refused. -/
inductive GeometryError where
  /-- The side of a grid cell is not a positive finite number. -/
  | cellSize (value : Float)
  /-- The expected number of objects in a cell is zero. -/
  | cellCapacity
  /-- A rectangle's extent is negative or not finite. -/
  | extent (width height : Float)
  /-- A rectangle's corner is not finite. -/
  | position (x y : Float)
  /-- A body's mass is not a positive finite number. -/
  | mass (value : Float)
  /-- A body's velocity is not finite. -/
  | velocity (vx vy : Float)
  /-- A grid built from `built` rectangles was queried with `given` of them. -/
  | staleGrid (built given : Nat)
  /-- A shape distribution cannot be sampled. -/
  | distribution (fault : ShapeFault)
deriving DecidableEq, Repr

/-- The wording of a refused geometric value. -/
def GeometryError.message : GeometryError → String
  | cellSize v => s!"invalid cell size {num v}: must be finite and greater than zero"
  | cellCapacity => "invalid max objects per cell: must be at least 1"
  | extent w h => s!"invalid extent {num w}x{num h}: width and height must be finite and >= 0"
  | position x y => s!"invalid position ({num x}, {num y}): coordinates must be finite"
  | mass v => s!"invalid mass {num v}: must be finite and greater than zero"
  | velocity vx vy => s!"invalid velocity ({num vx}, {num vy}): components must be finite"
  | staleGrid built given =>
    s!"stale spatial hash: built from {built} rectangles, queried with {given}"
  | distribution fault => "invalid shape distribution: " ++ fault.message
where
  /-- Numbers stand in messages in their shortest positional form. -/
  num (x : Float) : String := Layout.message.text x

end Broadphase
