/-! # The shortest decimal of a binary64 number

Every finite binary64 number is `m * 2 ^ e`.  The reals that round to it form an interval whose
ends are halfway to its neighbours; the ends belong to it when `m` is even.  `shortest` looks for
the coarsest decimal grid that has a point in this interval and takes the grid point nearest to
the number; a `Tie` says which one to take when two are equally near.  So the digits read back to the
same number, and no shorter ones do.

Everything is decided by integer arithmetic: on the grid of step `10 ^ k` the number is the
quotient of two naturals, and so are the ends of its interval. -/

namespace Broadphase

/-- A decimal `significand * 10 ^ exponent`. -/
structure Decimal where
  significand : Nat
  exponent : Int
deriving DecidableEq, Repr

/-- The text of a number before any layout is chosen: its sign and its decimal. -/
inductive Numeral where
  | notANumber
  | infinite (negative : Bool)
  | finite (negative : Bool) (value : Decimal)
deriving DecidableEq, Repr

/-- Which of two equally near decimals is taken. -/
inductive Tie where
  /-- The greater one. -/
  | up
  /-- The one with an even last digit. -/
  | even
deriving DecidableEq, Repr

namespace Decimal

/-- The number `units / step`, and the interval of reals that round to it from `low / step` to
`high / step`, all measured on one decimal grid. -/
structure OnGrid where
  units : Nat
  low : Nat
  high : Nat
  step : Nat
  /-- Whether the ends of the interval round to the number too. -/
  closed : Bool

/-- Measures `m * 2 ^ e` on the grid of step `10 ^ k`.  The gap below a power of two is half the
gap above it, except at the smallest exponent. -/
def onGrid (m : Nat) (e : Int) (k : Int) : OnGrid :=
  let up := Nat.pow 2 (e - 2).toNat * Nat.pow 10 (-k).toNat
  let step := Nat.pow 2 (2 - e).toNat * Nat.pow 10 k.toNat
  let below := if m = Nat.pow 2 52 ∧ e ≠ -1074 then 1 else 2
  { units := 4 * m * up, low := (4 * m - below) * up, high := (4 * m + 2) * up, step
    closed := m % 2 = 0 }

/-- The grid point `c` rounds to the number. -/
def OnGrid.holds (g : OnGrid) (c : Nat) : Bool :=
  let p := c * g.step
  if g.closed then g.low ≤ p && p ≤ g.high else g.low < p && p < g.high

/-- The grid point `c` is taken rather than the next one, when both round to the number. -/
def OnGrid.prefersLower (g : OnGrid) (tie : Tie) (c : Nat) : Bool :=
  let below := g.units - c * g.step
  let above := (c + 1) * g.step - g.units
  below < above || (below = above && tie = .even && c % 2 = 0)

/-- The grid point nearest to the number among its two neighbours that round to it. -/
def OnGrid.nearest? (g : OnGrid) (tie : Tie) : Option Nat :=
  let c := g.units / g.step
  match g.holds c, g.holds (c + 1) with
  | true, true => some (if g.prefersLower tie c then c else c + 1)
  | true, false => some c
  | false, true => some (c + 1)
  | false, false => none

/-- Tries `tries` grids, each ten times as fine as the one before. -/
def searchGrids (tie : Tie) (m : Nat) (e : Int) : Nat → Int → Decimal
  | 0, k => { significand := (onGrid m e k).units / (onGrid m e k).step, exponent := k }
  | tries + 1, k =>
    match (onGrid m e k).nearest? tie with
    | some c => { significand := c, exponent := k }
    | none => searchGrids tie m e tries (k - 1)

/-- A decimal exponent at or above that of `m * 2 ^ e`. -/
def leadingExponent (m : Nat) (e : Int) : Int :=
  ((m.log2 + e) * 30103).fdiv 100000 + 1

/-- The shortest decimal that rounds to `m * 2 ^ e`.  Seventeen digits always suffice, and the
search starts at most two grids too coarse. -/
def shortest (tie : Tie) (m : Nat) (e : Int) : Decimal :=
  searchGrids tie m e 20 (leadingExponent m e)

/-- The decimal digits of the significand, most significant first. -/
def digits (d : Decimal) : List Char := Nat.toDigits 10 d.significand

/-- The position of the decimal point: the value is `0.ddd` times this power of ten. -/
def point (d : Decimal) : Int := d.digits.length + d.exponent

end Decimal

namespace Numeral

open Float.Model (UnpackedFloat)

/-- Whether a sign is the minus sign. -/
def isNegative : UnpackedFloat.Sign → Bool
  | .positive => false
  | .negative => true

/-- The shortest numeral that reads back as `x`. -/
def ofFloat (tie : Tie) (x : Float) : Numeral :=
  match x.toModel.unpack with
  | .notANumber => .notANumber
  | .infinity s => .infinite (isNegative s)
  | .zero s => .finite (isNegative s) { significand := 0, exponent := 0 }
  | .finite s m e _ => .finite (isNegative s) (Decimal.shortest tie m e)

end Numeral

end Broadphase
