import Broadphase.Simulation.Loop

/-! # Sessions: a loop with its frame queue

A session is a loop together with the queue from which its frames come.  The host of the loop may
use the queue as well.  `Session.perform` does one operation on either of them and returns its
outcome; `Session.run` does a list of them.  An operation that may run a tick brings the clock
readings of its work. -/

namespace Broadphase

/-- A loop and its frame queue. -/
structure Session where
  loop : Loop
  queue : FrameQueue := {}

/-- What a host can do with a session. -/
inductive SessionOp where
  | start (now : Instant)
  | stop
  | frame (handle : FrameHandle) (now : Instant) (time : WorkTime := {})
  | step (dt : Float) (time : WorkTime := {})
  | enqueue (e : Edit)
  | observe (o : Observer)
  /-- The host requests a frame of its own. -/
  | request
  | cancel (handle : FrameHandle)
  | takeDue

/-- What comes of an operation. -/
inductive SessionOutcome where
  | done
  /-- A tick was completed. -/
  | ticked (t : Tick)
  /-- The frame was ignored. -/
  | ignored
  | failed (e : SimulationError)
  | requested (handle : FrameHandle)
  | due (handles : List FrameHandle)

/-- What comes of a tick. -/
def SessionOutcome.ofTick : Except SimulationError Tick → SessionOutcome
  | .ok t => .ticked t
  | .error e => .failed e

namespace Session

/-- Ends a frame whose work is done. -/
def endFrame (s : Session) (loop : Loop) (result : Except SimulationError Draft) (time : WorkTime) :
    Session × SessionOutcome :=
  let ((loop, queue), result) := loop.endFrame result time s.queue
  ({ loop, queue }, .ofTick result)

/-- Hands a frame to the loop, which ignores it unless it waits for it. -/
def frame (s : Session) (handle : FrameHandle) (now : Instant) (time : WorkTime) :
    Allocated (Session × SessionOutcome) :=
  if s.loop.awaits handle then do
    let (loop, result) ← s.loop.beginFrame now
    return s.endFrame loop result time
  else .ok (s, .ignored)

/-- Does one operation. -/
def perform (s : Session) : SessionOp → Allocated (Session × SessionOutcome)
  | .start now =>
    let (loop, queue) := s.loop.start now s.queue
    .ok ({ loop, queue }, .done)
  | .stop =>
    let (loop, queue) := s.loop.stop s.queue
    .ok ({ loop, queue }, .done)
  | .frame handle now time => s.frame handle now time
  | .step dt time => do
    let (loop, result) ← s.loop.step dt time
    return ({ s with loop }, .ofTick result)
  | .enqueue e => .ok ({ s with loop := s.loop.enqueue e }, .done)
  | .observe o => .ok ({ s with loop := s.loop.observe o }, .done)
  | .request =>
    let (handle, queue) := s.queue.request
    .ok ({ s with queue }, .requested handle)
  | .cancel handle => .ok ({ s with queue := s.queue.cancel handle }, .done)
  | .takeDue =>
    let (handles, queue) := s.queue.takeDue
    .ok ({ s with queue }, .due handles)

/-- Does operations in order. -/
def run (s : Session) : List SessionOp → Allocated (Session × List SessionOutcome)
  | [] => .ok (s, [])
  | op :: ops => do
    let (s, o) ← s.perform op
    let (s, os) ← s.run ops
    return (s, o :: os)

end Session

end Broadphase
