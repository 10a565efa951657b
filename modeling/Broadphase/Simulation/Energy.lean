import Broadphase.Geometry.Body

/-! # Energy of a collection of bodies -/

namespace Broadphase.Energy

/-- Kinetic energy of a body plus its potential energy against a reference height. -/
def ofBody (gravity height : Float) (b : Body) : Float :=
  0.5 * b.mass * (b.vx * b.vx + b.vy * b.vy) + b.mass * gravity * (height - b.rect.y)

/-- The energy of all dynamic bodies, added up in order.  The empty sum is the negative zero, which
is neutral for addition. -/
def total (gravity height : Float) (bodies : List Body) : Float :=
  ((bodies.filter Body.isDynamic).map (ofBody gravity height)).foldl (· + ·) (-0.0)

end Broadphase.Energy
