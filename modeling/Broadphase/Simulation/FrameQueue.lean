/-! # The queue of requested frames

A frame is requested, and either delivered when it is due or cancelled before.  Handles are given
out in increasing order and never twice. -/

namespace Broadphase

/-- The name of a requested frame. -/
abbrev FrameHandle := Nat

/-- The frames that are requested and not yet delivered, in the order of the requests. -/
structure FrameQueue where
  /-- The last handle given out. -/
  last : FrameHandle := 0
  pending : List FrameHandle := []
deriving DecidableEq, Repr

namespace FrameQueue

/-- Requests a frame. -/
def request (q : FrameQueue) : FrameHandle × FrameQueue :=
  (q.last + 1, { last := q.last + 1, pending := q.pending ++ [q.last + 1] })

/-- Cancels a frame; nothing happens if it is not pending. -/
def cancel (q : FrameQueue) (h : FrameHandle) : FrameQueue :=
  { q with pending := q.pending.filter (· ≠ h) }

/-- Delivers all pending frames. -/
def takeDue (q : FrameQueue) : List FrameHandle × FrameQueue := (q.pending, { q with pending := [] })

end FrameQueue

end Broadphase
