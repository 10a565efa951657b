import Broadphase.Simulation.Session

/-! # A host that paces a loop

A host runs a loop for a number of ticks, one frame at a time.  It waits for the time of the next
frame, hands all frames that are due to the loop, and stops the loop at the end.  Waiting and the
clock are actions of the caller's monad. -/

namespace Broadphase

/-- A host: the time between frames in nanoseconds, and the queue of its frames. -/
structure Host where
  interval : Nat
  queue : FrameQueue := {}

/-- How a host waits and reads the clock. -/
structure Pacer (m : Type → Type) where
  now : m Instant
  /-- Waits for the next frame, given the time between frames, and reads the clock. -/
  nextFrame : Nat → m Instant

namespace Host

/-- The shortest time between frames. -/
def minInterval : Nat := 1000000

/-- A host with a frame in every interval of nanoseconds. -/
def every (nanoseconds : Nat) : Host := { interval := max nanoseconds minInterval }

/-- A host with so many frames a second. -/
def withFps (fps : UInt32) : Host := every (1000000000 / max fps.toNat 1)

/-- The error of a failed outcome. -/
def failure? : SessionOutcome → Option SimulationError
  | .failed e => some e
  | _ => none

variable {m : Type → Type} [Monad m]

/-- There are frames to run: the loop is running and has not reached the target. -/
def isActive (target : Nat) (s : Session) : Bool := s.loop.isRunning && s.loop.ticks < target

/-- Hands a frame to the loop.  The clock is read before and after the work of its tick. -/
def handOver (pacer : Pacer m) (now : Instant) (s : Session) (handle : FrameHandle) :
    ExceptT BucketOverflow m (Session × SessionOutcome) :=
  if s.loop.awaits handle then do
    let began ← ExceptT.lift pacer.now
    let (loop, result) ← ExceptT.mk (pure (s.loop.beginFrame now))
    let ended ← ExceptT.lift pacer.now
    return s.endFrame loop result { began, ended }
  else return (s, .ignored)

/-- Hands frames to the loop, one after the other. -/
def handOverAll (pacer : Pacer m) (now : Instant) : List FrameHandle → Session →
    ExceptT BucketOverflow m (Session × List SessionOutcome)
  | [], s => return (s, [])
  | h :: hs, s => do
    let (s, o) ← handOver pacer now s h
    let (s, os) ← handOverAll pacer now hs s
    return (s, o :: os)

/-- Takes all frames that are due from the queue and hands them to the loop. -/
def deliver (pacer : Pacer m) (now : Instant) (s : Session) :
    ExceptT BucketOverflow m (Session × List SessionOutcome) :=
  let (handles, queue) := s.queue.takeDue
  handOverAll pacer now handles { s with queue }

/-- Waits for one frame and hands all frames that are due to the loop. -/
def frame (pacer : Pacer m) (interval : Nat) (s : Session) :
    ExceptT BucketOverflow m (Session × List SessionOutcome) := do
  let now ← ExceptT.lift (pacer.nextFrame interval)
  deliver pacer now s

/-- Runs frames for as long as there are any to run, at most `n` of them.  Ends at the first tick that
fails. -/
def runFrames (pacer : Pacer m) (interval target : Nat) : Nat → Session →
    ExceptT BucketOverflow m (Session × Option SimulationError)
  | 0, s => return (s, none)
  | n + 1, s =>
    if isActive target s then do
      let (s, outcomes) ← frame pacer interval s
      match outcomes.findSome? failure? with
      | some e => return (s, some e)
      | none => runFrames pacer interval target n s
    else return (s, none)

/-- Starts the loop, runs `maxTicks` ticks and stops it.  Returns the counters of the last tick.
Every frame of a loop that the host itself has started runs one tick, so `maxTicks` frames are
enough. -/
def run (h : Host) (pacer : Pacer m) (l : Loop) (maxTicks : Nat) :
    ExceptT BucketOverflow m ((Host × Loop) × Except SimulationError Stats) := do
  let now ← ExceptT.lift pacer.now
  let (loop, queue) := l.start now h.queue
  let (s, error?) ← runFrames pacer h.interval (l.ticks + maxTicks) maxTicks { loop, queue }
  match error? with
  | some e => return (({ h with queue := s.queue }, s.loop), .error e)
  | none =>
    let (loop, queue) := s.loop.stop s.queue
    return (({ h with queue }, loop), .ok loop.stats)

end Host

end Broadphase
