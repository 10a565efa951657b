import Broadphase.Detection.Basic
import Broadphase.Grid.Config
import Broadphase.Grid.Span
import Std.Data.HashMap

/-! # The reusable uniform grid

A grid holds a bucket of rectangle indices for every cell that a rectangle touches.  It is filled
by `rebuild` and asked by `query`; `detect` does both.  Only rectangles that share a cell, or one
of which is oversized, are tested against each other.

A rectangle whose span has more cells than there are rectangles (and more than
`oversizedFloor`) is not put into buckets, so a huge rectangle costs no more than testing it
against all others.

A rebuild keeps the buckets that were in use and drops those that stayed empty since the build
before.  So a bucket lives on for one build after its last use, and a grid over moving
rectangles does not grow for ever.

Two rectangles may share several cells.  A mark on the second one tells that it was tested against
the first one already. -/

namespace Broadphase

/-- The buckets of the grid: the indices of the rectangles that touch a cell. -/
abbrev Buckets := Std.HashMap Cell (Array Nat)

/-- A uniform grid over the rectangles of its last build. -/
structure Grid where
  config : GridConfig
  buckets : Buckets := ∅
  /-- The span of each rectangle; an oversized one has none. -/
  spans : Array (Option Span) := #[]
  /-- The indices of the oversized rectangles. -/
  oversized : Array Nat := #[]
  /-- The marks of the last collection: that of `j` is `i + 1` if `j` was last found in a cell of `i`
  and tested against it. -/
  seen : Array Nat := #[]

/-- Occupancy of a grid. -/
structure GridStats where
  /-- Cells that hold at least one index. -/
  occupiedCells : Nat := 0
  /-- The size of the largest bucket. -/
  maxBucketLen : Nat := 0
  /-- The sum of the sizes of all buckets. -/
  totalEntries : Nat := 0
  /-- Rectangles that are not in buckets. -/
  oversized : Nat := 0
deriving DecidableEq, Repr

namespace Buckets

/-- Drops the empty buckets and empties the others. -/
def recycle (b : Buckets) : Buckets :=
  b.filterMap fun _ bucket => if bucket.isEmpty then none else some #[]

/-- Puts an index into the bucket of a cell.  A new bucket needs the room that the settings
ask for. -/
def add (config : GridConfig) (i : Nat) (b : Buckets) (c : Cell) : Allocated Buckets :=
  if c ∈ b then .ok (b.modify c (·.push i))
  else if config.allocatable then .ok (b.insert c #[i])
  else .error ⟨config.maxObjectsPerCell⟩

/-- The sizes of the buckets in use. -/
def sizes (b : Buckets) : List Nat := (b.values.map Array.size).filter (0 < ·)

end Buckets

/-- A collection on its way: the marks, and what was found so far. -/
structure Search where
  seen : Array Nat
  found : Detection := {}

/-- Tests `j` against `i`, unless it comes before or bears the mark of `i` from another cell. -/
def Search.visit (rects : Array Rect) (i : Nat) (s : Search) (j : Nat) : Search :=
  if j ≤ i ∨ s.seen[j]? = some (i + 1) then s
  else { seen := s.seen.setIfInBounds j (i + 1), found := s.found.test rects i j }

namespace Grid

/-- Up to this many cells no rectangle is oversized. -/
def oversizedFloor : Nat := 64

/-- An empty grid. -/
def make (config : GridConfig) : Except GeometryError Grid := do
  config.validate
  return { config }

/-- The span of a rectangle among `count` of them, unless it is oversized. -/
def spanOf? (config : GridConfig) (count : Nat) (r : Rect) : Option Span :=
  let s := Span.ofRect config.cellSize r
  if max count oversizedFloor < s.cellCount then none else some s

/-- Drops what was built; buckets that were in use stay, but empty. -/
def clear (g : Grid) : Grid := { g with buckets := g.buckets.recycle, spans := #[], oversized := #[] }

/-- Enters the next one of `count` rectangles: an oversized one is listed apart, any other one goes into
the buckets of all cells of its span. -/
def enter (count : Nat) (g : Grid) (r : Rect) : Allocated Grid :=
  match spanOf? g.config count r with
  | none => .ok { g with spans := g.spans.push none, oversized := g.oversized.push g.spans.size }
  | some s => do
    let buckets ← s.cells.foldlM (Buckets.add g.config g.spans.size) g.buckets
    return { g with buckets, spans := g.spans.push (some s) }

/-- Replaces the contents of the grid by the given rectangles. -/
def rebuild (g : Grid) (rects : Array Rect) : Allocated Grid :=
  rects.toList.foldlM (enter rects.size) g.clear

/-- Tests `i` against the later indices: those that share a cell with it and the oversized ones; all
of them if `i` is oversized itself. -/
def scan (g : Grid) (rects : Array Rect) (s : Search) : Option Span × Nat → Search
  | (none, i) =>
    { s with found := (Detection.indicesAfter i rects.size).foldl (Detection.test rects i) s.found }
  | (some span, i) =>
    let s := span.cells.foldl (fun s c => (g.buckets.getD c #[]).foldl (Search.visit rects i) s) s
    { s with found := (g.oversized.filter (i < ·)).foldl (Detection.test rects i) s.found }

/-- Tests what the last build asks for on the given rectangles.  All marks are wiped before. -/
def collect (g : Grid) (rects : Array Rect) : Grid × Detection :=
  let s := g.spans.toList.zipIdx.foldl (g.scan rects) { seen := Array.replicate rects.size 0 }
  ({ g with seen := s.seen }, { s.found with pairs := IndexPair.sort s.found.pairs })

/-- Tests what the last build asks for on the given rectangles, which must be as many. -/
def query (g : Grid) (rects : Array Rect) : Grid × Except GeometryError Detection :=
  if rects.size = g.spans.size then
    let (g, d) := g.collect rects
    (g, .ok d)
  else (g, .error (.staleGrid g.spans.size rects.size))

/-- Rebuilds the grid from the given rectangles and queries it with them. -/
def detect (g : Grid) (rects : Array Rect) : Allocated (Grid × Detection) := do
  let g ← g.rebuild rects
  return g.collect rects

/-- Occupancy of the last build. -/
def stats (g : Grid) : GridStats where
  occupiedCells := g.buckets.sizes.length
  maxBucketLen := g.buckets.sizes.foldl max 0
  totalEntries := g.buckets.sizes.foldl (· + ·) 0
  oversized := g.oversized.size

end Grid

/-- Finds the overlapping pairs with a fresh grid. -/
def Detection.hashed (config : GridConfig) (rects : Array Rect) :
    Allocated (Except GeometryError Detection) :=
  match Grid.make config with
  | .error e => .ok (.error e)
  | .ok g => (g.detect rects).map fun (_, d) => .ok d

end Broadphase
