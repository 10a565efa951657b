import Broadphase.Geometry.Error

/-! # Axis-aligned rectangles

A rectangle is the corner `(x, y)` with the smallest coordinates and an extent.  The extent is
checked once, when the rectangle is made, and never changes, so the check is part of the type.
The corner is checked when the rectangle is made too, but `moveTo` may put it anywhere. -/

namespace Broadphase

/-- An extent has finite sides that are not negative. -/
def ValidExtent (width height : Float) : Prop :=
  width.isFinite ∧ height.isFinite ∧ width ≥ 0 ∧ height ≥ 0

instance (width height : Float) : Decidable (ValidExtent width height) := by
  unfold ValidExtent; infer_instance

/-- An axis-aligned rectangle in arena coordinates. -/
@[ext]
structure Rect where
  x : Float
  y : Float
  width : Float
  height : Float
  validExtent : ValidExtent width height
deriving DecidableEq

namespace Rect

/-- The rectangle with the given corner and extent.  A bad extent is reported before a bad
corner. -/
def make (x y width height : Float) : Except GeometryError Rect :=
  if h : ValidExtent width height then
    if x.isFinite ∧ y.isFinite then .ok { x, y, width, height, validExtent := h }
    else .error (.position x y)
  else .error (.extent width height)

/-- The right edge. -/
def right (r : Rect) : Float := r.x + r.width

/-- The bottom edge. -/
def bottom (r : Rect) : Float := r.y + r.height

/-- The same extent at another corner; the corner is not checked. -/
def moveTo (r : Rect) (x y : Float) : Rect := { r with x, y }

/-- The interiors of two rectangles meet.  Rectangles that only touch do not overlap. -/
def overlaps (a b : Rect) : Bool :=
  a.x < b.right && a.right > b.x && a.y < b.bottom && a.bottom > b.y

/-- The slack that `isWithin` allows at the far edges. -/
def containmentSlack : Float := 1e-9

/-- The rectangle lies in the arena from the origin to `(width, height)`, up to
`containmentSlack` at the far edges. -/
def isWithin (r : Rect) (width height : Float) : Bool :=
  r.x ≥ 0 && r.y ≥ 0 && r.right ≤ width + containmentSlack &&
    r.bottom ≤ height + containmentSlack

@[simp] theorem moveTo_width (r : Rect) (x y : Float) : (r.moveTo x y).width = r.width := rfl

@[simp] theorem moveTo_height (r : Rect) (x y : Float) : (r.moveTo x y).height = r.height := rfl

/-- Overlap does not depend on which rectangle is named first. -/
theorem overlaps_comm (a b : Rect) : a.overlaps b = b.overlaps a := by
  simp only [overlaps, GT.gt]
  cases decide (a.x < b.right) <;> cases decide (b.x < a.right) <;>
    cases decide (a.y < b.bottom) <;> cases decide (b.y < a.bottom) <;> rfl

end Rect

end Broadphase
