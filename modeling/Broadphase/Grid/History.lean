import Broadphase.Grid.Basic

/-! # Histories of a grid

A grid is used through a handful of operations.  `Grid.step` performs one and returns the grid
afterwards with its answer; `Grid.run` performs a list of them. -/

namespace Broadphase

/-- What can be done with a grid. -/
inductive GridOp where
  | rebuild (rects : Array Rect)
  | query (rects : Array Rect)
  | detect (rects : Array Rect)
  /-- Goes on with a copy. -/
  | copy
  /-- Asks for the settings. -/
  | config

/-- The answer of a grid to one operation. -/
inductive GridAnswer where
  | done
  | found (d : Detection)
  | refused (e : GeometryError)
  | settings (c : GridConfig)
deriving DecidableEq

namespace Grid

/-- Performs one operation. -/
def step (g : Grid) : GridOp → Allocated (Grid × GridAnswer)
  | .rebuild rects => do return (← g.rebuild rects, .done)
  | .query rects =>
    match g.query rects with
    | (g, .ok d) => .ok (g, .found d)
    | (g, .error e) => .ok (g, .refused e)
  | .detect rects => do
    let (g, d) ← g.detect rects
    return (g, .found d)
  | .copy => .ok (g, .done)
  | .config => .ok (g, .settings g.config)

/-- Performs the operations in order and returns each answer with the occupancy after it. -/
def run (g : Grid) : List GridOp → Allocated (Grid × List (GridAnswer × GridStats))
  | [] => .ok (g, [])
  | op :: ops => do
    let (g, a) ← g.step op
    let (last, rest) ← g.run ops
    return (last, (a, g.stats) :: rest)

end Grid

end Broadphase
