import Broadphase.Binary64
import Broadphase.Geometry.Rect

/-! # Grid cells and the spans that rectangles cover

The plane is cut into square cells, named by a column and a row in the signed 64-bit range; the
outermost cells take everything beyond.  A rectangle covers the span of cells from the one with
its corner to the one with its opposite corner.

`Span.cellCount` counts the cells of a span without listing them. -/

namespace Broadphase

/-- A cell of the grid. -/
structure Cell where
  column : Int
  row : Int
deriving DecidableEq, Hashable, Repr

/-- The cells between two corner cells, both included. -/
structure Span where
  low : Cell
  high : Cell
deriving DecidableEq, Repr

namespace Span

/-- The column or row of a coordinate. -/
def index (cellSize v : Float) : Int := Binary64.floorInt64 (v / cellSize)

/-- The span of cells that a rectangle covers. -/
def ofRect (cellSize : Float) (r : Rect) : Span where
  low := ⟨index cellSize r.x, index cellSize r.y⟩
  high := ⟨index cellSize r.right, index cellSize r.bottom⟩

/-- The number of integers from `lo` to `hi`. -/
def side (lo hi : Int) : Nat := (hi - lo + 1).toNat

/-- The integers from `lo` to `hi` in increasing order. -/
def between (lo hi : Int) : List Int := (List.range (side lo hi)).map fun (k : Nat) => lo + k

/-- The cells of a span, column by column. -/
def cells (s : Span) : List Cell :=
  (between s.low.column s.high.column).flatMap fun column =>
    (between s.low.row s.high.row).map fun row => ⟨column, row⟩

/-- The largest count that is told apart. -/
def countLimit : Nat := Nat.pow 2 128 - 1

/-- The number of cells of a span, up to `countLimit`. -/
def cellCount (s : Span) : Nat :=
  min countLimit (side s.low.column s.high.column * side s.low.row s.high.row)

end Span

end Broadphase
