import Broadphase.Geometry.Body
import Broadphase.Sampling.Random

/-! # Random rectangles and bodies

`ShapeRanges` gives the ranges from which sizes, positions, speeds and masses are drawn.  Sets of
different size drawn from one seed agree as far as the smaller one goes. -/

namespace Broadphase

/-- The ranges from which shapes are drawn. -/
structure ShapeRanges where
  arenaWidth : Float := 2000
  arenaHeight : Float := 2000
  minSize : Float := 4
  maxSize : Float := 20
  maxSpeed : Float := 2
  minMass : Float := 1
  maxMass : Float := 5
deriving DecidableEq, Repr

namespace ShapeRanges

/-- The first fault of the ranges, if they have one. -/
def fault? (d : ShapeRanges) : Option ShapeFault :=
  if ¬ (d.arenaWidth.isFinite ∧ d.arenaHeight.isFinite ∧ d.minSize.isFinite ∧ d.maxSize.isFinite ∧
      d.maxSpeed.isFinite ∧ d.minMass.isFinite ∧ d.maxMass.isFinite) then some .notFinite
  else if d.minSize < 0 ∨ d.maxSize < d.minSize then some .sizeRange
  else if d.maxSize > d.arenaWidth ∨ d.maxSize > d.arenaHeight then some .arenaTooSmall
  else if d.maxSpeed < 0 then some .negativeSpeed
  else if d.minMass ≤ 0 ∨ d.maxMass < d.minMass then some .massRange
  else none

/-- The ranges must be finite, ordered and fit into the arena. -/
def validate (d : ShapeRanges) : Except GeometryError Unit :=
  match d.fault? with
  | some f => .error (.distribution f)
  | none => .ok ()

/-- Draws an extent and then a corner that keeps the rectangle in the arena. -/
def drawRect (d : ShapeRanges) (g : Random) : Except GeometryError (Rect × Random) := do
  let (w, g) := g.range d.minSize d.maxSize
  let (h, g) := g.range d.minSize d.maxSize
  let (x, g) := g.range 0 (d.arenaWidth - w)
  let (y, g) := g.range 0 (d.arenaHeight - h)
  let r ← Rect.make x y w h
  return (r, g)

/-- Draws a rectangle, a velocity and a mass. -/
def drawBody (d : ShapeRanges) (id : UInt64) (g : Random) :
    Except GeometryError (Body × Random) := do
  let (r, g) ← d.drawRect g
  let (vx, g) := g.range (-d.maxSpeed) d.maxSpeed
  let (vy, g) := g.range (-d.maxSpeed) d.maxSpeed
  let (mass, g) := g.range d.minMass d.maxMass
  let b ← Body.make id r mass
  let b ← b.withVelocity vx vy
  return (b, g)

/-- Draws `n` more values after those drawn already; each draw is told how many came before it.
The first failure ends the drawing. -/
def drawMany {α : Type} (draw : Nat → Random → Except GeometryError (α × Random)) :
    Nat → Random → Array α → Except GeometryError (Array α)
  | 0, _, drawn => .ok drawn
  | n + 1, g, drawn =>
    match draw drawn.size g with
    | .error e => .error e
    | .ok (a, g) => drawMany draw n g (drawn.push a)

/-- The first `count` rectangles of a seed. -/
def rects (d : ShapeRanges) (count : Nat) (seed : UInt64) : Except GeometryError (Array Rect) := do
  d.validate
  drawMany (fun _ => d.drawRect) count (.ofSeed seed) #[]

/-- The first `count` bodies of a seed, with consecutive identifiers from `firstId`. -/
def bodies (d : ShapeRanges) (count : Nat) (firstId seed : UInt64) :
    Except GeometryError (List Body) := do
  d.validate
  let drawn ← drawMany (fun k => d.drawBody (firstId + k.toUInt64)) count (.ofSeed seed) #[]
  return drawn.toList

end ShapeRanges

end Broadphase
