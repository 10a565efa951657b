import Broadphase.Benchmark.Harness
import Broadphase.Grid.Basic
import Broadphase.Json.Schema
import Broadphase.Simulation.Loop

/-! # JSON forms of all values

Settings and results are written and read by their schemas.  Values that are only shown have a
`toJson` and no reader. -/

namespace Broadphase

/-! ### Settings -/

/-- The JSON form of the walls; both sides must be given. -/
def Bounds.schema : Schema Bounds where
  name := "Bounds"
  blank := {}
  complete := true
  fields := [
    .float "width" (·.width) fun b x => { b with width := x },
    .float "height" (·.height) fun b x => { b with height := x }]

/-- The JSON form of the motion parameters. -/
def MotionParams.schema : Schema MotionParams where
  name := "IntegratorParams"
  blank := {}
  complete := false
  fields := [
    .float "gravity" (·.gravity) fun p x => { p with gravity := x },
    .float "damping" (·.damping) fun p x => { p with damping := x }]

/-- The JSON form of the grid settings. -/
def GridConfig.schema : Schema GridConfig where
  name := "SpatialHashConfig"
  blank := {}
  complete := false
  fields := [
    .flag "enabled" (·.enabled) fun c b => { c with enabled := b },
    .float "cell_size" (·.cellSize) fun c x => { c with cellSize := x },
    .word64 "max_objects_per_cell" "usize" (·.maxObjectsPerCell)
      fun c n => { c with maxObjectsPerCell := n }]

/-- The JSON form of the shape ranges. -/
def ShapeRanges.schema : Schema ShapeRanges where
  name := "ShapeDistribution"
  blank := {}
  complete := false
  fields := [
    .float "arena_width" (·.arenaWidth) fun d x => { d with arenaWidth := x },
    .float "arena_height" (·.arenaHeight) fun d x => { d with arenaHeight := x },
    .float "min_size" (·.minSize) fun d x => { d with minSize := x },
    .float "max_size" (·.maxSize) fun d x => { d with maxSize := x },
    .float "max_speed" (·.maxSpeed) fun d x => { d with maxSpeed := x },
    .float "min_mass" (·.minMass) fun d x => { d with minMass := x },
    .float "max_mass" (·.maxMass) fun d x => { d with maxMass := x }]

/-- The JSON form of the settings of a simulation. -/
def SimConfig.schema : Schema SimConfig where
  name := "SimConfig"
  blank := {}
  complete := false
  fields := [
    .word64 "object_count" "usize" (·.objectCount) fun c n => { c with objectCount := n },
    .word64 "seed" "u64" (·.seed) fun c n => { c with seed := n },
    Bounds.schema.asField "bounds" (·.bounds) fun c b => { c with bounds := b },
    MotionParams.schema.asField "integrator" (·.motion) fun c p => { c with motion := p },
    .optionalFloat "reference_height" (·.referenceHeight?) fun c x => { c with referenceHeight? := x },
    GridConfig.schema.asField "spatial_hash" (·.grid) fun c g => { c with grid := g },
    ShapeRanges.schema.asField "shape" (·.shape) fun c d => { c with shape := d }]

/-- The JSON form of the settings of a harness. -/
def HarnessConfig.schema : Schema HarnessConfig where
  name := "HarnessConfig"
  blank := {}
  complete := false
  fields := [
    .word32 "iterations" "u32" (·.iterations) fun c n => { c with iterations := n },
    .word64 "seed" "u64" (·.seed) fun c n => { c with seed := n },
    ShapeRanges.schema.asField "shape" (·.shape) fun c d => { c with shape := d },
    GridConfig.schema.asField "spatial_hash" (·.grid) fun c g => { c with grid := g }]

/-! ### Results -/

/-- The JSON form of a comparison of detectors. -/
def BenchmarkResult.schema : Schema BenchmarkResult where
  name := "BenchmarkResult"
  blank := { objectCount := 0, naiveTimeMs := 0, spatialTimeMs := 0, speedup := 0, collisionCount := 0 }
  complete := true
  fields := [
    .word64 "object_count" "usize" (·.objectCount) fun r n => { r with objectCount := n },
    .float "naive_time_ms" (·.naiveTimeMs) fun r x => { r with naiveTimeMs := x },
    .float "spatial_time_ms" (·.spatialTimeMs) fun r x => { r with spatialTimeMs := x },
    .float "speedup" (·.speedup) fun r x => { r with speedup := x },
    .word64 "collision_count" "usize" (·.collisionCount) fun r n => { r with collisionCount := n }]

/-- The JSON form of an entry of a sweep: its status comes first. -/
def SweepEntry.toJson : SweepEntry → Json
  | .measured r =>
    .obj (("status", .str "measured") ::
      BenchmarkResult.schema.fields.map fun f => (f.name, f.write r))
  | .failed n reason =>
    .obj [("status", .str "failed"), ("object_count", .nat n.toNat), ("reason", .str reason)]

/-- The JSON form of the counters of a tick. -/
def Stats.toJson (s : Stats) : Json := .obj [
  ("collision_checks_attempted", .nat s.checks), ("actual_collisions", .nat s.collisions),
  ("fps", .real s.fps), ("last_frame_time_ms", .real s.lastFrameMs),
  ("total_energy", .real s.energy)]

/-! ### Geometry -/

/-- The four numbers of a rectangle before they are checked. -/
structure RectDraft where
  x : Float := 0
  y : Float := 0
  width : Float := 0
  height : Float := 0

/-- The JSON form of the numbers of a rectangle; all of them must be given. -/
def RectDraft.schema : Schema RectDraft where
  name := "AabbRepr"
  blank := {}
  complete := true
  fields := [
    .float "x" (·.x) fun r x => { r with x := x },
    .float "y" (·.y) fun r x => { r with y := x },
    .float "width" (·.width) fun r x => { r with width := x },
    .float "height" (·.height) fun r x => { r with height := x }]

/-- The JSON form of a rectangle. -/
def Rect.toJson (r : Rect) : Json :=
  RectDraft.schema.write { x := r.x, y := r.y, width := r.width, height := r.height }

/-- Reads a rectangle and checks it. -/
def Rect.read : Reader Rect := fun input => do
  let (r, rest) ← RectDraft.schema.read input
  match Rect.make r.x r.y r.width r.height with
  | .ok r => return (r, rest)
  | .error e => throw (.refused e)

/-- The JSON form of a body. -/
def Body.toJson (b : Body) : Json := .obj [
  ("id", .nat b.id.toNat), ("aabb", b.rect.toJson), ("vx", .real b.vx), ("vy", .real b.vy),
  ("mass", .real b.mass), ("colliding", .bool b.colliding), ("is_static", .bool b.isStatic)]

/-- The JSON form of a pair of indices. -/
def IndexPair.toJson (p : IndexPair) : Json :=
  .obj [("index1", .nat p.first), ("index2", .nat p.second)]

/-- The JSON form of a detection. -/
def Detection.toJson (d : Detection) : Json :=
  .obj [("pairs", .arr (d.pairs.map IndexPair.toJson)), ("checks", .nat d.checks)]

/-- The JSON form of the occupancy of a grid. -/
def GridStats.toJson (s : GridStats) : Json := .obj [
  ("occupied_cells", .nat s.occupiedCells), ("max_bucket_len", .nat s.maxBucketLen),
  ("total_entries", .nat s.totalEntries), ("oversized", .nat s.oversized)]

end Broadphase
