/-! # Exact operations on binary64 numbers

The arena measures everything in binary64 numbers (`Float`).  Sums, products, quotients and
comparisons are those of the core library.  This module adds the three operations that the
core library leaves to the platform or does not have, each defined by its exact rule:

* `floorInt64` rounds down and saturates at the ends of the signed 64-bit range;
* `larger` is the greater of two numbers and prefers a number to a NaN;
* `clamp` brings a number between two limits. -/

namespace Broadphase.Binary64

/-- The least signed 64-bit integer. -/
def minInt64 : Int := -9223372036854775808

/-- The greatest signed 64-bit integer. -/
def maxInt64 : Int := 9223372036854775807

/-- The signed 64-bit integer nearest to `n`. -/
def saturate (n : Int) : Int := max minInt64 (min maxInt64 n)

/-- The integer part of `z * 2 ^ e`, rounded down. -/
def floorScaled (z e : Int) : Int :=
  if 0 ≤ e then z * Int.pow 2 e.toNat else z / Int.pow 2 (-e).toNat

/-- The greatest integer that is at most `x`, brought into the signed 64-bit range.  A NaN
counts as zero, and an infinity saturates. -/
def floorInt64 (x : Float) : Int :=
  match x.toModel.unpack with
  | .notANumber => 0
  | .zero _ => 0
  | .infinity .positive => maxInt64
  | .infinity .negative => minInt64
  | .finite s m e _ => saturate (floorScaled (s.apply (m : Int)) e)

/-- The greater of two numbers; if one of them is a NaN, the other one. -/
def larger (a b : Float) : Float :=
  if a.isNaN then b else if b.isNaN then a else if a > b then a else b

/-- Brings `x` between `lo` and `hi`.  A value that compares equal to a limit is kept as it is,
so a negative zero survives a lower limit of zero. -/
def clamp (lo hi x : Float) : Float :=
  let y := if x < lo then lo else x
  if y > hi then hi else y

theorem saturate_mem (n : Int) : minInt64 ≤ saturate n ∧ saturate n ≤ maxInt64 := by
  unfold saturate minInt64 maxInt64
  omega

theorem saturate_mono {a b : Int} (h : a ≤ b) : saturate a ≤ saturate b := by
  unfold saturate
  omega

end Broadphase.Binary64
