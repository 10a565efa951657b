import Broadphase.Geometry.Error

/-! # Settings of the uniform grid -/

namespace Broadphase

/-- How a uniform grid is laid out. -/
structure GridConfig where
  /-- Whether a simulation uses the grid at all. -/
  enabled : Bool := true
  /-- The side of a cell. -/
  cellSize : Float := 50
  /-- How many objects are expected in a cell: the room set aside for a new bucket. -/
  maxObjectsPerCell : UInt64 := 8
deriving DecidableEq, Repr

namespace GridConfig

/-- The cell side must be positive and finite, and a cell must expect at least one object. -/
def validate (c : GridConfig) : Except GeometryError Unit :=
  if ¬ (c.cellSize.isFinite ∧ c.cellSize > 0) then .error (.cellSize c.cellSize)
  else if c.maxObjectsPerCell = 0 then .error .cellCapacity
  else .ok ()

/-- The standard settings with another cell side. -/
def withCellSize (cellSize : Float) : Except GeometryError GridConfig := do
  let c : GridConfig := { cellSize }
  c.validate
  return c

/-- The bytes that a bucket entry takes. -/
def entryBytes : Nat := 8

/-- A new bucket with the expected room fits into an address space of signed 64-bit size. -/
def allocatable (c : GridConfig) : Bool := c.maxObjectsPerCell.toNat * entryBytes ≤ Nat.pow 2 63 - 1

end GridConfig

/-- A bucket of this many entries cannot be set aside.  It ends the whole computation: no
caller can go on without the bucket. -/
structure BucketOverflow where
  entries : UInt64
deriving DecidableEq, Repr

/-- A computation that may need a bucket that is too large to set aside. -/
abbrev Allocated (α : Type) := Except BucketOverflow α

end Broadphase
