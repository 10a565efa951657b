import Broadphase.Grid.Basic
import Broadphase.Simulation.Clock
import Broadphase.Simulation.Config
import Broadphase.Simulation.Contacts
import Broadphase.Simulation.Edit
import Broadphase.Simulation.Energy
import Broadphase.Simulation.FrameQueue
import Broadphase.Simulation.FrameRate

/-! # The simulation loop

A loop owns the bodies and runs ticks.  `Loop.step` runs one tick of a given length at any time.
While the loop is running it waits for one frame, which it requested itself; `Loop.beginFrame` runs the
work of a tick when that frame comes, and `Loop.endFrame` completes the tick and requests the next
frame.  Any other frame is ignored, so no frame runs a tick after the loop was stopped.

How long the work of a tick took is among its counters.  So a tick has two parts: `Loop.work`, and
`Loop.complete` for when the clock has been read again. -/

namespace Broadphase

/-- The counters of the last tick. -/
structure Stats where
  /-- Pairs that were tested. -/
  checks : Nat := 0
  /-- Pairs that overlapped. -/
  collisions : Nat := 0
  /-- The report of the last closed frame rate window. -/
  fps : Float := 0
  /-- How long the host took for the last tick, in milliseconds. -/
  lastFrameMs : Float := 0
  energy : Float := 0
deriving DecidableEq, Repr

/-- Someone who is told about every completed tick. -/
structure Observer where
  name : Option String := none
deriving DecidableEq, Repr

/-- What an observer is told: the number of the tick, counted from the first one of the loop, and
the bodies, pairs and counters after it. -/
structure Report where
  observer : Observer
  tick : Nat
  bodies : List Body
  pairs : List IndexPair
  stats : Stats

/-- A completed tick: its counters, and the report if there is an observer. -/
structure Tick where
  stats : Stats
  report? : Option Report

/-- What the work of a tick has come to, before it is counted and told. -/
structure Draft where
  /-- The length of the tick. -/
  dt : Float
  grid : Grid
  bodies : List Body
  found : Detection
  energy : Float

/-- Whether a loop runs. -/
inductive LoopState where
  | stopped
  | running
deriving DecidableEq, Repr

/-- The state of a simulation. -/
structure Loop where
  config : SimConfig
  bodies : List Body
  grid : Grid
  state : LoopState := .stopped
  /-- The frame that the loop waits for. -/
  awaited? : Option FrameHandle := none
  /-- The reading of the clock at the last frame, or at the start if there was none yet. -/
  since? : Option Instant := none
  /-- The overlapping pairs of the last tick, as positions among the dynamic bodies. -/
  pairs : List IndexPair := []
  /-- Edits for the next tick, the oldest first. -/
  edits : EditBuffer := []
  rate : FrameRate := {}
  stats : Stats := {}
  ticks : Nat := 0
  observer? : Option Observer := none

namespace Loop

/-- A stopped loop over the given bodies. -/
def make (config : SimConfig) (bodies : List Body) : Except SimulationError Loop := do
  config.validate
  let grid ← SimConfig.liftGeometry (Grid.make config.grid)
  return { config, bodies, grid }

/-- A stopped loop over the bodies that its settings ask for. -/
def spawn (config : SimConfig) : Except SimulationError Loop := do
  let bodies ← config.spawn
  make config bodies

/-- Whether the loop runs. -/
def isRunning (l : Loop) : Bool := l.state = .running

/-- Whether the loop lets a frame run a tick: it runs, and it waits for this frame. -/
def awaits (l : Loop) (handle : FrameHandle) : Bool := l.isRunning && l.awaited? = some handle

/-- A short description of the loop for whoever debugs it. -/
def describe (l : Loop) : String :=
  let state := if l.isRunning then "Running" else "Stopped"
  let pending := match l.awaited? with
    | some h => s!"Some(FrameHandle({h}))"
    | none => "None"
  "LoopDriver \x7b state: " ++ state ++
    s!", objects: {l.bodies.length}, ticks: {l.ticks}, pending: {pending}, .. \x7d"

/-- Keeps an edit for the next tick. -/
def enqueue (l : Loop) (e : Edit) : Loop := { l with edits := l.edits.push e }

/-- Names the one who is told about ticks from now on. -/
def observe (l : Loop) (o : Observer) : Loop := { l with observer? := some o }

/-- Starts the loop: the clock counts from now, the frame rate window is dropped, and the first
frame is requested.  A running loop is left alone. -/
def start (l : Loop) (now : Instant) (q : FrameQueue) : Loop × FrameQueue :=
  if l.isRunning then (l, q)
  else
    let (h, q) := q.request
    ({ l with since? := some now, rate := l.rate.reset, awaited? := some h, state := .running }, q)

/-- Stops the loop and cancels the frame that it waits for. -/
def stop (l : Loop) (q : FrameQueue) : Loop × FrameQueue :=
  let q := match l.awaited? with
    | some h => q.cancel h
    | none => q
  ({ l with awaited? := none, state := .stopped, since? := none }, q)

/-- Finds the overlapping pairs of dynamic bodies, with the grid or without it. -/
def detect (l : Loop) (bodies : List Body) : Allocated (Grid × Detection) :=
  let rects := Contacts.dynamicRects bodies
  if l.config.grid.enabled then l.grid.detect rects else .ok (l.grid, .exhaustive rects)

/-- The loop with the kept edits applied. -/
def applyEdits (l : Loop) : Loop :=
  let ((bodies, _), edits) := l.edits.apply l.config.bounds l.bodies
  { l with bodies, edits }

/-- Detection, flags and energy after the bodies have moved. -/
def draft (l : Loop) (dt : Float) (moved : List Body) : Allocated Draft := do
  let (grid, found) ← l.detect moved
  let bodies := (Contacts.reconcile moved found.pairs).1
  let energy := Energy.total l.config.motion.gravity l.config.referenceHeight bodies
  return { dt, grid, bodies, found, energy }

/-- The work of a tick of length `dt`: applies the edits, moves the bodies and detects collisions.  If
the bodies cannot be moved, only the edits have been applied. -/
def work (l : Loop) (dt : Float) : Allocated (Loop × Except SimulationError Draft) :=
  let l := l.applyEdits
  match Motion.integrate dt l.config.bounds l.config.motion l.bodies with
  | .error e => .ok (l, .error e)
  | .ok moved => do return (l, .ok (← l.draft dt moved))

/-- Counts a tick, tells the observer and records the tick for the frame rate. -/
def complete (l : Loop) (d : Draft) (time : WorkTime) : Loop × Tick :=
  let ticks := l.ticks + 1
  let stats :=
    { l.stats with
      checks := d.found.checks
      collisions := d.found.pairs.length
      energy := d.energy
      lastFrameMs := Clock.elapsedMs time.began time.ended }
  let report? := l.observer?.map fun observer =>
    { observer, tick := ticks, bodies := d.bodies, pairs := d.found.pairs, stats }
  let (fps?, rate) := l.rate.record d.dt
  let stats := { stats with fps := fps?.getD stats.fps }
  ({ l with grid := d.grid, bodies := d.bodies, pairs := d.found.pairs, ticks, stats, rate },
    { stats, report? })

/-- Runs one tick of length `dt`. -/
def step (l : Loop) (dt : Float) (time : WorkTime) :
    Allocated (Loop × Except SimulationError Tick) := do
  let (l, result) ← l.work dt
  match result with
  | .ok d =>
    let (l, tick) := l.complete d time
    return (l, .ok tick)
  | .error e => return (l, .error e)

/-- The length of the tick that a frame asks for: the time since the frame before. -/
def frameLength (l : Loop) (now : Instant) : Float :=
  let elapsed := match l.since? with
    | some since => Clock.elapsedMs since now
    | none => 0
  deltaTimeUnits elapsed

/-- Lets in the awaited frame and does the work of its tick. -/
def beginFrame (l : Loop) (now : Instant) : Allocated (Loop × Except SimulationError Draft) :=
  { l with awaited? := none, since? := some now }.work (l.frameLength now)

/-- Completes the tick of a frame and requests the next frame.  A failed tick stops the loop. -/
def endFrame (l : Loop) (result : Except SimulationError Draft) (time : WorkTime) (q : FrameQueue) :
    (Loop × FrameQueue) × Except SimulationError Tick :=
  match result with
  | .ok d =>
    let (l, tick) := l.complete d time
    let (h, q) := q.request
    (({ l with awaited? := some h }, q), .ok tick)
  | .error e => (l.stop q, .error e)

end Loop

end Broadphase
