import Broadphase.Geometry.Rect

/-! # Pairs of rectangles and the result of a detection

Rectangles are named by their index in an array.  A pair of them is stored with the smaller index
first, so each unordered pair has one form.  `Detection.exhaustive` tests every pair; it is the
reference for every faster method. -/

namespace Broadphase

/-- Two different indices, the smaller one first. -/
@[ext]
structure IndexPair where
  first : Nat
  second : Nat
  lt : first < second
deriving DecidableEq

namespace IndexPair

/-- The pair of two indices; an index makes no pair with itself. -/
def of? (a b : Nat) : Option IndexPair :=
  if h : a < b then some ⟨a, b, h⟩ else if h : b < a then some ⟨b, a, h⟩ else none

/-- Pairs are ordered by their first index, then by their second. -/
instance : Ord IndexPair where
  compare p q := (compare p.first q.first).then (compare p.second q.second)

/-- The pairs of a list in increasing order. -/
def sort (pairs : List IndexPair) : List IndexPair :=
  pairs.mergeSort fun p q => (compare p q).isLE

end IndexPair

/-- The overlapping pairs in increasing order, and how many pairs were tested for it. -/
structure Detection where
  pairs : List IndexPair := []
  checks : Nat := 0
deriving DecidableEq

namespace Detection

/-- Both indices name a rectangle, and the two overlap. -/
def overlapAt (rects : Array Rect) (i j : Nat) : Bool :=
  match rects[i]?, rects[j]? with
  | some a, some b => a.overlaps b
  | _, _ => false

/-- The indices after `i`. -/
def indicesAfter (i size : Nat) : List Nat := List.range' (i + 1) (size - (i + 1))

/-- Tests `j` against `i`: counts the test, and keeps the pair if the two overlap.  The latest pair
stands first. -/
def test (rects : Array Rect) (i : Nat) (d : Detection) (j : Nat) : Detection where
  pairs := if overlapAt rects i j then (IndexPair.of? i j).toList ++ d.pairs else d.pairs
  checks := d.checks + 1

/-- Tests every index against all later ones.  The pairs are found in increasing order. -/
def exhaustive (rects : Array Rect) : Detection :=
  let d := (List.range rects.size).foldl
    (fun d i => (indicesAfter i rects.size).foldl (test rects i) d) {}
  { d with pairs := d.pairs.reverse }

end Detection

end Broadphase
