import Broadphase.Detection.Basic
import Broadphase.Geometry.Body
import Std.Data.TreeSet

/-! # From overlapping pairs to colliding bodies

Detection sees only the dynamic bodies, in their order; the indices of its pairs are positions
among those.  `reconcile` turns the pairs into the `colliding` flags of all bodies. -/

namespace Broadphase.Contacts

/-- The positions of the dynamic bodies. -/
def dynamicView (bodies : List Body) : List Nat :=
  bodies.zipIdx.filterMap fun (b, i) => if b.isDynamic then some i else none

/-- The rectangles of the dynamic bodies. -/
def dynamicRects (bodies : List Body) : Array Rect :=
  ((bodies.filter Body.isDynamic).map Body.rect).toArray

/-- How many bodies are flagged, and how many pairs named no body. -/
structure Outcome where
  flagged : Nat
  skipped : Nat
deriving DecidableEq, Repr

/-- The positions of the two bodies of a pair. -/
def resolve? (view : Array Nat) (p : IndexPair) : Option (Nat × Nat) :=
  match view[p.first]?, view[p.second]? with
  | some a, some b => some (a, b)
  | _, _ => none

/-- The positions of all bodies that take part in a pair. -/
def touched (view : Array Nat) (pairs : List IndexPair) : Std.TreeSet Nat :=
  pairs.foldl (fun found p =>
    match resolve? view p with
    | some (a, b) => (found.insert a).insert b
    | none => found) ∅

/-- Flags exactly the bodies that take part in a pair. -/
def reconcile (bodies : List Body) (pairs : List IndexPair) : List Body × Outcome :=
  let view := (dynamicView bodies).toArray
  let hit := touched view pairs
  let flagged := bodies.zipIdx.map fun (b, i) => { b with colliding := hit.contains i }
  (flagged,
    { flagged := flagged.countP Body.colliding
      skipped := pairs.countP fun p => (resolve? view p).isNone })

end Broadphase.Contacts
