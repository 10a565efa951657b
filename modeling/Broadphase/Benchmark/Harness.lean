import Broadphase.Detection.Detector
import Broadphase.Sampling.Shapes
import Broadphase.Simulation.Loop

/-! # Comparing two detectors

A harness runs a baseline detector and an accelerated one on the same generated rectangles, measures
the time that each takes, and insists that both find the same number of pairs.  A sweep does this for
several sizes; a size that fails does not disturb the others.

Time is read from a clock that the caller provides in a monad of its choice. -/

namespace Broadphase

/-- The causes for which a benchmark fails. -/
inductive BenchmarkError where
  | geometry (cause : GeometryError)
  | noIterations
  | countMismatch (objectCount : UInt64) (baseline accelerated : Nat)
deriving DecidableEq, Repr

/-- The wording of a failed benchmark.  A geometric cause speaks for itself. -/
def BenchmarkError.message : BenchmarkError → String
  | geometry cause => cause.message
  | noIterations => "iterations must be at least 1"
  | countMismatch n b a =>
    s!"collision count mismatch for {n} objects: {b} (baseline) vs {a} (accelerated)"

/-- A successful comparison. -/
structure BenchmarkResult where
  objectCount : UInt64
  naiveTimeMs : Float
  spatialTimeMs : Float
  speedup : Float
  collisionCount : UInt64
deriving DecidableEq, Repr

/-- What a sweep reports for one size. -/
inductive SweepEntry where
  | measured (result : BenchmarkResult)
  | failed (objectCount : UInt64) (reason : String)
deriving DecidableEq, Repr

namespace SweepEntry

/-- The size that was compared. -/
def objectCount : SweepEntry → UInt64
  | measured r => r.objectCount
  | failed n _ => n

/-- The result, if the comparison succeeded. -/
def result? : SweepEntry → Option BenchmarkResult
  | measured r => some r
  | failed .. => none

end SweepEntry

/-- Settings of a harness. -/
structure HarnessConfig where
  /-- How often each detector is run for one measurement. -/
  iterations : UInt32 := 3
  seed : UInt64 := 0xbe4c0001
  shape : ShapeRanges := {}
  grid : GridConfig := { cellSize := 32 }
deriving DecidableEq, Repr

/-- Two detectors to be compared. -/
structure Harness where
  config : HarnessConfig
  baseline : Detector
  accelerated : Detector

namespace Harness

/-- Compares two given detectors. -/
def withDetectors (config : HarnessConfig) (baseline accelerated : Detector) :
    Except BenchmarkError Harness :=
  if config.iterations = 0 then .error .noIterations
  else
    match config.shape.validate with
    | .ok () => .ok { config, baseline, accelerated }
    | .error e => .error (.geometry e)

/-- Compares testing every pair with the grid. -/
def make (config : HarnessConfig) : Except BenchmarkError Harness :=
  match Detector.hashed config.grid with
  | .ok accelerated => withDetectors config .exhaustive accelerated
  | .error e => .error (.geometry e)

/-- The rectangles on which detectors are compared; each size has a seed of its own. -/
def rects (h : Harness) (objectCount : UInt64) : Except GeometryError (Array Rect) :=
  h.config.shape.rects objectCount.toNat (h.config.seed ^^^ objectCount)

section

variable {m : Type → Type} [Monad m]

/-- A comparison in progress: it may fail, and it may need a bucket that is too large. -/
abbrev Run (m : Type → Type) (α : Type) := ExceptT BenchmarkError (ExceptT BucketOverflow m) α

/-- Lifts an action of the caller. -/
def act {α : Type} (a : m α) : Run m α := ExceptT.lift (ExceptT.lift a)

/-- Goes on with the value unless there is a geometric cause against it. -/
def require {α : Type} : Except GeometryError α → Run m α
  | .ok a => pure a
  | .error e => throw (.geometry e)

/-- Runs a detector once and counts its pairs. -/
def countPairs (d : Detector) (rects : Array Rect) : Run m Nat :=
  match d.detect rects with
  | .error overflow => ExceptT.lift (throw overflow)
  | .ok found => do return (← require found).pairs.length

/-- Runs a detector several times and returns the last count. -/
def repeatCount (d : Detector) (rects : Array Rect) : Nat → Nat → Run m Nat
  | 0, count => pure count
  | n + 1, _ => do
    let count ← countPairs d rects
    repeatCount d rects n count

/-- The shortest time that is told apart from none, in milliseconds. -/
def minMeasuredMs : Float := 1e-6

/-- The mean time of a run in milliseconds, and the number of pairs found. -/
def measure (h : Harness) (now : m Instant) (d : Detector) (rects : Array Rect) :
    Run m (Float × Nat) := do
  let started ← act now
  let count ← repeatCount d rects h.config.iterations.toNat 0
  let ended ← act now
  let mean := Clock.elapsedMs started ended / Float.ofNat h.config.iterations.toNat
  return (Binary64.larger mean minMeasuredMs, count)

/-- Compares the detectors on one size.  Each runs once before it is measured. -/
def runBenchmark (h : Harness) (now : m Instant) (objectCount : UInt64) : Run m BenchmarkResult := do
  let rects ← require (h.rects objectCount)
  let _ ← countPairs h.baseline rects
  let _ ← countPairs h.accelerated rects
  let (naiveTimeMs, baseline) ← h.measure now h.baseline rects
  let (spatialTimeMs, accelerated) ← h.measure now h.accelerated rects
  if baseline ≠ accelerated then throw (.countMismatch objectCount baseline accelerated)
  return {
    objectCount, naiveTimeMs, spatialTimeMs
    speedup := naiveTimeMs / spatialTimeMs
    collisionCount := baseline.toUInt64 }

/-- Compares the detectors on every size in order and tells about each entry at once. -/
def runSweep (h : Harness) (now : m Instant) (progress : SweepEntry → m Unit) :
    List UInt64 → ExceptT BucketOverflow m (List SweepEntry)
  | [] => return []
  | n :: ns => do
    let entry := match ← (h.runBenchmark now n).run with
      | .ok result => SweepEntry.measured result
      | .error e => SweepEntry.failed n e.message
    ExceptT.lift (progress entry)
    let entries ← h.runSweep now progress ns
    return entry :: entries

end

end Harness

end Broadphase
