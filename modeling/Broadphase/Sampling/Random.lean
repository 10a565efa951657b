/-! # Reproducible pseudo-random numbers

The generator keeps two 64-bit words and steps them by xors, rotations and a shift.  A 64-bit seed
is stretched to the two words by two rounds of a mixing function.  Equal seeds give equal sequences
on every machine. -/

namespace Broadphase

/-- Rotates a word to the left by `k < 64` bits. -/
def rotateLeft (x : UInt64) (k : UInt64) : UInt64 := (x <<< k) ||| (x >>> (64 - k))

/-- The state of the generator. -/
@[ext]
structure Random where
  s0 : UInt64
  s1 : UInt64
deriving DecidableEq, Repr

namespace Random

/-- The distance between the inputs of two mixing rounds. -/
def weyl : UInt64 := 0x9e3779b97f4a7c15

/-- Spreads the bits of a word. -/
def mix (z : UInt64) : UInt64 :=
  let z := (z ^^^ (z >>> 30)) * 0xbf58476d1ce4e5b9
  let z := (z ^^^ (z >>> 27)) * 0x94d049bb133111eb
  z ^^^ (z >>> 31)

/-- The first state for a seed.  The all-zero state, from which the generator would never leave, is
replaced. -/
def ofSeed (seed : UInt64) : Random :=
  let a := mix (seed + weyl)
  let b := mix (seed + weyl + weyl)
  if a = 0 ∧ b = 0 then ⟨weyl, 0⟩ else ⟨a, b⟩

/-- The next state. -/
def advance (g : Random) : Random :=
  let t := g.s1 ^^^ g.s0
  ⟨rotateLeft g.s0 55 ^^^ t ^^^ (t <<< 14), rotateLeft t 36⟩

/-- The word that a state yields. -/
def word (g : Random) : UInt64 := g.s0 + g.s1

/-- The number in `[0, 1)` that a state yields: the upper 52 bits of its word are the fraction. -/
def unit (g : Random) : Float :=
  Float.ofBits ((g.word >>> 12) ||| 0x3ff0000000000000) - 1.0

/-- The next number in `[0, 1)`. -/
def next (g : Random) : Float × Random := (g.unit, g.advance)

/-- The next number from `lo` up to `hi`; an empty range yields `lo` and draws nothing. -/
def range (lo hi : Float) (g : Random) : Float × Random :=
  if hi ≤ lo then (lo, g) else (lo + (hi - lo) * g.unit, g.advance)

end Random

end Broadphase
