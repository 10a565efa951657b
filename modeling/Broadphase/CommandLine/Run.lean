import Broadphase.Benchmark.Harness
import Broadphase.CommandLine.Command
import Broadphase.CommandLine.Table
import Broadphase.Decimal.Layout
import Broadphase.Simulation.Host
import Broadphase.Storage.Service

/-! # Running commands

Commands act on a platform of the caller's choice, which has a clock, files and a place for notes to the
user.  A command ends with an exit code and something to print. -/

namespace Broadphase.CommandLine

/-- What commands need from their surroundings. -/
structure Platform (m : Type → Type) where
  pacer : Pacer m
  files : FileSystem m
  /-- Shows a note apart from the output. -/
  tell : String → m Unit

/-- What a command prints. -/
inductive Output where
  | nothing
  | text (s : String)
  | document (j : Json)
  | table (t : Table)

/-- The lines that are printed. -/
def Output.render : Output → String
  | nothing => ""
  | text s => s
  | document j => j.pretty
  | table t => t.render

/-- How the program ends. -/
structure Outcome where
  code : UInt32 := 0
  output : Output := .nothing

/-- Why a command failed: what it was about to do, and the causes below that. -/
structure Failure where
  summary : String
  causes : List String := []
deriving DecidableEq, Repr

namespace Failure

/-- The causes, which have numbers if there are several. -/
def causeLines : List String → List String
  | [] => []
  | [cause] => ["", "Caused by:", "    " ++ cause]
  | causes => ["", "Caused by:"] ++ causes.mapIdx fun i cause => s!"    {i}: {cause}"

/-- The report on a failure. -/
def report (f : Failure) : String :=
  "\n".intercalate (("Error: " ++ f.summary) :: causeLines f.causes)

/-- A failed load or store below a summary. -/
def ofStorage (summary : String) (e : StorageError) : Failure :=
  { summary, causes := e.message :: e.cause?.toList }

end Failure

variable {m : Type → Type} [Monad m]

/-- A command in progress: it may fail, and it may need a bucket that is too large. -/
abbrev Action (m : Type → Type) (α : Type) := ExceptT Failure (ExceptT BucketOverflow m) α

/-- Goes on with the value unless there is an error, which is then put into words. -/
def orFail {ε α : Type} (describe : ε → Failure) : Except ε α → Action m α
  | .ok a => pure a
  | .error e => throw (describe e)

/-- Lifts an action of the platform. -/
def perform {α : Type} (a : m α) : Action m α := ExceptT.lift (ExceptT.lift a)

/-- Lifts an action of the platform that may need a bucket that is too large. -/
def performAllocating {α : Type} (a : ExceptT BucketOverflow m α) : Action m α := ExceptT.lift a

/-- A geometric error speaks for itself. -/
def ofGeometry (e : GeometryError) : Failure := { summary := e.message }

/-! ### Sweeps -/

/-- The row of one size. -/
def sweepRow : SweepEntry → List String
  | .measured r => [toString r.objectCount, Decimal.fixed 3 r.naiveTimeMs,
      Decimal.fixed 3 r.spatialTimeMs, Decimal.fixed 2 r.speedup ++ "x", toString r.collisionCount]
  | .failed n reason => [toString n, "-", "-", "failed", reason]

/-- The result of a sweep. -/
def sweepOutput (json : Bool) (entries : List SweepEntry) : Output :=
  if json then .document (.arr (entries.map SweepEntry.toJson))
  else .table {
    header := ["objects", "naive (ms)", "spatial (ms)", "speedup", "collisions"]
    rows := entries.map sweepRow }

/-- Compares the detectors on every size. -/
def sweep (p : Platform m) (s : SweepSettings) : Action m Output := do
  let standard : HarnessConfig := {}
  let grid ← orFail ofGeometry (GridConfig.withCellSize s.cellSize)
  let config := { standard with
    iterations := s.iterations, seed := s.seed?.getD standard.seed, grid }
  let harness ← orFail
    (fun e : BenchmarkError => { summary := "invalid sweep configuration", causes := [e.message] })
    (Harness.make config)
  let progress (e : SweepEntry) : m Unit :=
    if s.json then pure () else p.tell s!"finished {e.objectCount} objects"
  let entries ← performAllocating (harness.runSweep p.pacer.now progress s.sizesOrStandard)
  return sweepOutput s.json entries

/-! ### Simulations -/

/-- The result of a simulation. -/
structure SimulationSummary where
  ticks : Nat
  objects : Nat
  wallTimeMs : Float
  stats : Stats

namespace SimulationSummary

/-- The result as a document. -/
def toJson (s : SimulationSummary) : Json :=
  .obj [("ticks", .nat s.ticks), ("objects", .nat s.objects), ("wall_time_ms", .real s.wallTimeMs),
    ("stats", s.stats.toJson)]

/-- The result as a table. -/
def toTable (s : SimulationSummary) : Table where
  header := ["metric", "value"]
  rows := [
    ["ticks", toString s.ticks],
    ["objects", toString s.objects],
    ["wall time (ms)", Decimal.fixed 1 s.wallTimeMs],
    ["fps", Decimal.fixed 1 s.stats.fps],
    ["collisions", toString s.stats.collisions],
    ["checks", toString s.stats.checks],
    ["last frame (ms)", Decimal.fixed 3 s.stats.lastFrameMs],
    ["total energy", Decimal.fixed 3 s.stats.energy]]

end SimulationSummary

/-- Opens the store of settings, if there is one. -/
def openStore (p : Platform m) : Option String → Action m (Option (Store m))
  | none => return none
  | some dir => do
    let opened ← perform (Store.openDirectory p.files dir)
    return some (← orFail (.ofStorage ("opening config dir " ++ dir)) opened)

/-- The settings of the simulation: those in the store or the standard ones. -/
def startConfig : Option (Store m) → Action m SimConfig
  | none => return {}
  | some store => do
    orFail (.ofStorage "loading simulation config") (← perform (Service.loadSim store))

/-- Saves the settings of the simulation if there is a store. -/
def saveConfig (config : SimConfig) : Option (Store m) → Action m Unit
  | none => return ()
  | some store => do
    let saved ← perform (Service.save store Service.simKey (SimConfig.schema.write config))
    orFail (.ofStorage "saving simulation config") saved

/-- A simulation error below a summary. -/
def ofSimulation (summary : String) (e : SimulationError) : Failure :=
  { summary, causes := [e.message] }

/-- Runs a simulation. -/
def simulate (p : Platform m) (s : SimulateSettings) : Action m Output := do
  let store? ← openStore p s.config?
  let config ← startConfig store?
  let config := { config with objectCount := s.objects?.getD config.objectCount }
  if s.saveConfig then saveConfig config store?
  let loop ← orFail (ofSimulation "building simulation") (Loop.spawn config)
  let started ← perform p.pacer.now
  let ((_, loop), result) ← performAllocating
    ((Host.withFps s.fps).run p.pacer loop s.frames.toNat)
  let stats ← orFail (ofSimulation "simulation tick failed") result
  let ended ← perform p.pacer.now
  let summary : SimulationSummary := {
    ticks := loop.ticks, objects := loop.bodies.length
    wallTimeMs := Clock.elapsedMs started ended, stats }
  return if s.json then .document summary.toJson else .table summary.toTable

/-! ### Detections -/

/-- The result of a detection. -/
structure DetectionSummary where
  detector : String
  objects : UInt64
  collisions : Nat
  checks : Nat
  elapsedMs : Float

namespace DetectionSummary

/-- The result as a document. -/
def toJson (s : DetectionSummary) : Json :=
  .obj [("detector", .str s.detector), ("objects", .nat s.objects.toNat),
    ("collisions", .nat s.collisions), ("checks", .nat s.checks), ("elapsed_ms", .real s.elapsedMs)]

/-- The result as a table. -/
def toTable (s : DetectionSummary) : Table where
  header := ["detector", "objects", "collisions", "checks", "elapsed (ms)"]
  rows := [[s.detector, toString s.objects, toString s.collisions, toString s.checks,
    Decimal.fixed 3 s.elapsedMs]]

end DetectionSummary

/-- The detector that the settings ask for. -/
def chooseDetector (s : DetectSettings) : Except GeometryError Detector := do
  if s.naive then return .exhaustive
  else Detector.hashed (← GridConfig.withCellSize s.cellSize)

/-- Detects the collisions of a generated set. -/
def detect (p : Platform m) (s : DetectSettings) : Action m Output := do
  let standard : HarnessConfig := {}
  let rects ← orFail ofGeometry (standard.shape.rects s.objects.toNat s.seed)
  let detector ← orFail ofGeometry (chooseDetector s)
  let started ← perform p.pacer.now
  let found ← performAllocating (ExceptT.mk (pure (detector.detect rects)))
  let found ← orFail ofGeometry found
  let ended ← perform p.pacer.now
  let summary : DetectionSummary := {
    detector := detector.name, objects := s.objects, collisions := found.pairs.length
    checks := found.checks, elapsedMs := Clock.elapsedMs started ended }
  return if s.json then .document summary.toJson else .table summary.toTable

/-! ### The program -/

/-- Runs a command. -/
def runCommand (p : Platform m) : Command → Action m Output
  | .sweep s => sweep p s
  | .simulate s => simulate p s
  | .detect s => detect p s

/-- The name and version of the program. -/
def versionText : String := "gridphase-cli 0.1.0"

/-- What is told about a refused command line. -/
def usageText : UsageError → String
  | .noCommand => Topic.program.page
  | cause => s!"error: {cause.message}\n\nFor more information, try '--help'."

/-- Does what the command line asks for. -/
def run (p : Platform m) (arguments : List String) : ExceptT BucketOverflow m Outcome := do
  match Request.parse arguments with
  | .error cause =>
    ExceptT.lift (p.tell (usageText cause))
    return { code := 2 }
  | .ok .version => return { output := .text versionText }
  | .ok (.help topic) => return { output := .text topic.page }
  | .ok (.run command) =>
    match ← (runCommand p command).run with
    | .ok output => return { output }
    | .error failure =>
      ExceptT.lift (p.tell failure.report)
      return { code := 1 }

end Broadphase.CommandLine
