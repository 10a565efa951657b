import Broadphase.Geometry.Rect

/-! # Bodies

A body is a rectangle with a mass and a velocity.  A static body takes part in nothing: it never
moves and never collides.  The mass is checked once, when the body is made; the velocity is
checked by `withVelocity` only. -/

namespace Broadphase

/-- A mass is a positive finite number. -/
def ValidMass (mass : Float) : Prop := mass.isFinite ∧ mass > 0

instance (mass : Float) : Decidable (ValidMass mass) := by
  unfold ValidMass; infer_instance

/-- A rectangle with mass and velocity.  The identifier stays with the body when other bodies
come and go. -/
@[ext]
structure Body where
  id : UInt64
  rect : Rect
  /-- Horizontal velocity in arena units per reference frame. -/
  vx : Float
  /-- Vertical velocity in arena units per reference frame. -/
  vy : Float
  mass : Float
  /-- Whether the body took part in a collision in the last tick. -/
  colliding : Bool
  isStatic : Bool
  validMass : ValidMass mass
deriving DecidableEq

namespace Body

/-- A dynamic body at rest. -/
def make (id : UInt64) (rect : Rect) (mass : Float) : Except GeometryError Body :=
  if h : ValidMass mass then
    .ok { id, rect, vx := 0, vy := 0, mass, colliding := false, isStatic := false, validMass := h }
  else .error (.mass mass)

/-- The body with a checked velocity. -/
def withVelocity (b : Body) (vx vy : Float) : Except GeometryError Body :=
  if vx.isFinite ∧ vy.isFinite then .ok { b with vx, vy } else .error (.velocity vx vy)

/-- The body as an immovable one. -/
def asStatic (b : Body) : Body := { b with isStatic := true }

/-- The body at another corner; the corner is not checked. -/
def moveTo (b : Body) (x y : Float) : Body := { b with rect := b.rect.moveTo x y }

/-- Whether the body moves and collides. -/
def isDynamic (b : Body) : Bool := !b.isStatic

@[simp] theorem moveTo_isStatic (b : Body) (x y : Float) :
    (b.moveTo x y).isStatic = b.isStatic := rfl

end Body

end Broadphase
