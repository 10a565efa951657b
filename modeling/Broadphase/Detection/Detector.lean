import Broadphase.Grid.Basic

/-! # Detectors

A detector finds the overlapping pairs of any array of rectangles.  It may refuse an array, and it
may need a bucket that is too large. -/

namespace Broadphase

/-- A named method to find overlapping pairs. -/
structure Detector where
  name : String
  detect : Array Rect → Allocated (Except GeometryError Detection)

namespace Detector

/-- Tests every pair. -/
def exhaustive : Detector where
  name := "naive"
  detect := fun rects => .ok (.ok (.exhaustive rects))

/-- Uses a fresh grid for every array. -/
def hashed (config : GridConfig) : Except GeometryError Detector := do
  config.validate
  return { name := "spatial-hash", detect := Detection.hashed config }

/-- A detector that never needs a bucket. -/
def ofFunction (name : String) (detect : Array Rect → Except GeometryError Detection) : Detector where
  name
  detect := fun rects => .ok (detect rects)

end Detector

end Broadphase
