import Broadphase.Simulation.Motion

/-! # Edits from outside

Whoever watches a simulation may spawn, remove, drag or replace bodies at any time.  Such edits are
kept in order and applied together at the start of the next tick. -/

namespace Broadphase

/-- A change to the collection of bodies. -/
inductive Edit where
  | spawn (b : Body)
  | remove (id : UInt64)
  | drag (id : UInt64) (x y : Float)
  | replaceAll (bodies : List Body)

namespace Edit

/-- Puts a body at rest as near to `(x, y)` as the walls allow; a target that is not finite is
ignored. -/
def dragTo (bounds : Bounds) (x y : Float) (b : Body) : Body :=
  if x.isFinite ∧ y.isFinite then
    { b.moveTo (Binary64.clamp 0 (Motion.farLimit b.rect.width bounds.width) x)
        (Binary64.clamp 0 (Motion.farLimit b.rect.height bounds.height) y) with vx := 0, vy := 0 }
  else b

/-- Changes the first body with the given identifier. -/
def modifyFirst (id : UInt64) (f : Body → Body) : List Body → List Body
  | [] => []
  | b :: bs => if b.id = id then f b :: bs else b :: modifyFirst id f bs

/-- Applies one edit and tells whether it concerned a body. -/
def apply (bounds : Bounds) (bodies : List Body) : Edit → List Body × Bool
  | spawn b => (bodies ++ [b], true)
  | remove id => (bodies.filter (·.id ≠ id), bodies.any (·.id = id))
  | drag id x y => (modifyFirst id (dragTo bounds x y) bodies, bodies.any (·.id = id))
  | replaceAll next => (next, true)

/-- Applies edits in order and counts those that concerned a body. -/
def applyAll (bounds : Bounds) : List Edit → List Body → List Body × Nat
  | [], bodies => (bodies, 0)
  | e :: es, bodies =>
    let (bodies, hit) := e.apply bounds bodies
    let (bodies, count) := applyAll bounds es bodies
    (bodies, (if hit then 1 else 0) + count)

end Edit

/-- Edits that are kept for the next tick, the oldest first. -/
abbrev EditBuffer := List Edit

namespace EditBuffer

/-- Keeps one more edit. -/
def push (b : EditBuffer) (e : Edit) : EditBuffer := b ++ [e]

/-- Applies the kept edits and counts those that concerned a body.  None is kept afterwards. -/
def apply (b : EditBuffer) (bounds : Bounds) (bodies : List Body) :
    (List Body × Nat) × EditBuffer :=
  (Edit.applyAll bounds b bodies, [])

end EditBuffer

end Broadphase
