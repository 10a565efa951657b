/-! # Clock readings and durations

Readings and durations are natural numbers of nanoseconds.  A clock that goes back makes a duration
of zero. -/

namespace Broadphase

/-- A clock reading in nanoseconds. -/
abbrev Instant := Nat

/-- The clock readings of a tick: when it began and when its work was done. -/
structure WorkTime where
  began : Instant := 0
  ended : Instant := 0
deriving DecidableEq, Repr

namespace Clock

/-- The milliseconds of a duration in nanoseconds. -/
def milliseconds (nanoseconds : Nat) : Float :=
  (Float.ofNat (nanoseconds / 1000000000) + Float.ofNat (nanoseconds % 1000000000) / 1e9) * 1000

/-- The milliseconds from one clock reading to a later one. -/
def elapsedMs (since now : Instant) : Float := milliseconds (now - since)

end Clock

end Broadphase
