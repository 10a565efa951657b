/-! # Frame rate

Ticks are counted until they add up to a window of reference frames.  The counter then reports how
many ticks a second that was and starts a new window. -/

namespace Broadphase

/-- The ticks of the open window and their total length. -/
structure FrameRate where
  ticks : Nat := 0
  accumulated : Float := 0
deriving DecidableEq, Repr

namespace FrameRate

/-- The length of a window in reference frames. -/
def window : Float := 60

/-- Counts one tick of length `dt`.  The tick that fills the window closes it with a report. -/
def record (r : FrameRate) (dt : Float) : Option Float × FrameRate :=
  let ticks := r.ticks + 1
  let accumulated := r.accumulated + dt
  if accumulated < window then (none, { ticks, accumulated })
  else (some (Float.ofNat ticks * window / accumulated), {})

/-- Drops the open window. -/
def reset (_ : FrameRate) : FrameRate := {}

end FrameRate

end Broadphase
