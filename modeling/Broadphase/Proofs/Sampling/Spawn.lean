import Broadphase.Proofs.Sampling.Draws
import Broadphase.Proofs.Simulation.ValidSettings

/-! # The bodies of a simulation

With valid settings every draw of an extent, a corner and a mass passes the checks of rectangles and
bodies.  Velocities are drawn from `-maxSpeed` up to `maxSpeed`, and the check of the settings does not
look at the width of this range.  If it is finite, a simulation starts with as many bodies as its
settings ask for; if it overflows, not even one body can be drawn (`SimConfig.spawn_valid`). -/

namespace Broadphase

/-! ### Ranges of finite numbers -/

namespace Binary64

/-- The width of a range of numbers that are not negative is finite. -/
theorem isFinite_width {lo hi : Float} (hlo : lo.isFinite) (hhi : hi.isFinite) (h0 : 0 ≤ lo)
    (hle : lo ≤ hi) : (hi - lo).isFinite ∧ 0 ≤ hi - lo := by
  obtain ⟨a, ha⟩ := exists_hasValue_of_isFinite hlo
  obtain ⟨b, hb⟩ := exists_hasValue_of_isFinite hhi
  have ha0 : 0 ≤ a := EReal.coe_le_coe_iff.mp ((hasValue_zero.le_iff ha).mp h0)
  have hab : a ≤ b := EReal.coe_le_coe_iff.mp ((ha.le_iff hb).mp hle)
  have hwidth := hb.sub ha
  have hlower : ((0 : ℝ) : EReal) ≤ nearest (b - a) := by
    rw [← nearest_of_hasValue hasValue_zero]
    exact nearest_mono (sub_nonneg.mpr hab)
  have hupper : nearest (b - a) ≤ b := by
    rw [← nearest_of_hasValue hb]
    exact nearest_mono (sub_le_self b ha0)
  exact ⟨hwidth.isFinite_of_mem hlower hupper, (hasValue_zero.le_iff hwidth).mpr hlower⟩

theorem neg_le_self_of_nonneg {x : Float} (hx : x.isFinite) (h0 : 0 ≤ x) : (-x).isFinite ∧ -x ≤ x := by
  obtain ⟨a, ha⟩ := exists_hasValue_of_isFinite hx
  have ha0 : 0 ≤ a := EReal.coe_le_coe_iff.mp ((hasValue_zero.le_iff ha).mp h0)
  have hneg : HasValue (-x) ((-a : ℝ) : EReal) := by
    rw [EReal.coe_neg]
    exact ha.neg
  exact ⟨hneg.isFinite.1, (hneg.le_iff ha).mpr (EReal.coe_le_coe_iff.mpr (by linarith))⟩

end Binary64

open Binary64

namespace ShapeRanges

variable {d : ShapeRanges}

/-! ### One draw -/

theorem Valid.size_mem (hd : d.Valid) (g : Random) :
    (g.range d.minSize d.maxSize).1.isFinite ∧ d.minSize ≤ (g.range d.minSize d.maxSize).1 ∧
      (g.range d.minSize d.maxSize).1 ≤ d.maxSize :=
  Random.range_mem hd.minSize hd.maxSize hd.minSize_le
    (isFinite_width hd.minSize hd.maxSize hd.minSize_nonneg hd.minSize_le).1 g

/-- A corner that leaves room for an extent is finite. -/
theorem corner_isFinite {side extent : Float} (hside : side.isFinite) (hextent : extent.isFinite)
    (h0 : 0 ≤ extent) (hle : extent ≤ side) (g : Random) : (g.range 0 (side - extent)).1.isFinite := by
  obtain ⟨hfinite, hroom⟩ := isFinite_width hextent hside h0 hle
  have hwidth := isFinite_width rfl hfinite (by decide) hroom
  exact (Random.range_mem rfl hfinite hroom hwidth.1 g).1

theorem Valid.drawRect (hd : d.Valid) (g : Random) : ∃ r g', d.drawRect g = .ok (r, g') := by
  obtain ⟨hw, hwmin, hwmax⟩ := hd.size_mem g
  obtain ⟨hh, hhmin, hhmax⟩ := hd.size_mem (g.range d.minSize d.maxSize).2
  have hw0 := Binary64.le_trans hd.minSize_nonneg hwmin
  have hh0 := Binary64.le_trans hd.minSize_nonneg hhmin
  have hwidth := Binary64.le_trans hwmax hd.maxSize_le_width
  have hheight := Binary64.le_trans hhmax hd.maxSize_le_height
  have hx (g' : Random) := corner_isFinite hd.arenaWidth hw hw0 hwidth g'
  have hy (g' : Random) := corner_isFinite hd.arenaHeight hh hh0 hheight g'
  unfold ShapeRanges.drawRect Rect.make
  simp only [ValidExtent, ge_iff_le, hw, hh, hw0, hh0, hx, hy, and_self, dif_pos, if_pos]
  exact ⟨_, _, rfl⟩

/-- All that can go wrong with a draw is its velocity. -/
theorem Valid.drawBody_eq (hd : d.Valid) (id : UInt64) (g : Random) :
    ∃ (b : Body) (g₁ g₂ : Random), b.id = id ∧ b.isDynamic ∧ b.colliding = false ∧
      d.drawBody id g = do
        let b ← b.withVelocity (g₁.range (-d.maxSpeed) d.maxSpeed).1
          ((g₁.range (-d.maxSpeed) d.maxSpeed).2.range (-d.maxSpeed) d.maxSpeed).1
        return (b, g₂) := by
  obtain ⟨r, g₁, hrect⟩ := hd.drawRect g
  have hmin := Binary64.le_of_lt hd.minMass_pos
  have hwidth := (isFinite_width hd.minMass hd.maxMass hmin hd.minMass_le).1
  have hmass (g' : Random) : ValidMass (g'.range d.minMass d.maxMass).1 := by
    obtain ⟨hfinite, hlower, -⟩ := Random.range_mem hd.minMass hd.maxMass hd.minMass_le hwidth g'
    exact ⟨hfinite, Binary64.lt_of_lt_of_le hd.minMass_pos hlower⟩
  unfold ShapeRanges.drawBody Body.make
  simp only [hrect, hmass, dif_pos]
  exact ⟨_, g₁, _, rfl, rfl, rfl, rfl⟩

theorem Valid.drawBody_ok (hd : d.Valid) (hwidth : (d.maxSpeed - -d.maxSpeed).isFinite)
    (id : UInt64) (g : Random) :
    ∃ b g', d.drawBody id g = .ok (b, g') ∧ b.id = id ∧ b.isDynamic ∧ b.colliding = false := by
  obtain ⟨b, g₁, g₂, hid, hdynamic, hcolliding, heq⟩ := hd.drawBody_eq id g
  obtain ⟨hneg, hle⟩ := neg_le_self_of_nonneg hd.maxSpeed hd.maxSpeed_nonneg
  have hspeed (g' : Random) := (Random.range_mem hneg hd.maxSpeed hle hwidth g').1
  simp only [Body.withVelocity, hspeed, and_self, if_pos] at heq
  exact ⟨_, g₂, heq, hid, hdynamic, hcolliding⟩

theorem Valid.drawBody_error (hd : d.Valid) (hwidth : ¬ (d.maxSpeed - -d.maxSpeed).isFinite)
    (id : UInt64) (g : Random) : ∃ vx vy, d.drawBody id g = .error (.velocity vx vy) := by
  obtain ⟨b, g₁, g₂, -, -, -, heq⟩ := hd.drawBody_eq id g
  obtain ⟨hneg, hle⟩ := neg_le_self_of_nonneg hd.maxSpeed hd.maxSpeed_nonneg
  -- A range of one value is at zero, and its width is finite.
  have hlt : ¬ d.maxSpeed ≤ -d.maxSpeed := fun hge =>
    hwidth (isFinite_width hneg hd.maxSpeed (Binary64.le_trans hd.maxSpeed_nonneg hge) hle).1
  have hspeed (g' : Random) := Random.range_not_isFinite hlt hwidth g'
  simp only [Body.withVelocity, hspeed, and_self, Bool.false_eq_true, if_false] at heq
  exact ⟨_, _, heq⟩

/-! ### A run of draws -/

/-- Every drawn value fits its number. -/
def EachFits {α : Type} (Fits : Nat → α → Prop) (drawn : Array α) : Prop :=
  ∀ k (h : k < drawn.size), Fits k drawn[k]

theorem EachFits.push {α : Type} {Fits : Nat → α → Prop} {drawn : Array α} (h : EachFits Fits drawn)
    {a : α} (ha : Fits drawn.size a) : EachFits Fits (drawn.push a) := by
  intro k hk
  rw [Array.size_push] at hk
  rw [Array.getElem_push]
  split
  next hlt => exact h k hlt
  next hge =>
    obtain rfl : k = drawn.size := by omega
    exact ha

/-- If every draw succeeds with a value that fits its number, so does a run of them. -/
theorem drawMany_ok {α : Type} {draw : Nat → Random → Except GeometryError (α × Random)}
    {Fits : Nat → α → Prop} (hdraw : ∀ k g, ∃ a g', draw k g = .ok (a, g') ∧ Fits k a) (n : Nat)
    (g : Random) {drawn : Array α} (hdrawn : EachFits Fits drawn) :
    ∃ all, drawMany draw n g drawn = .ok all ∧ all.size = drawn.size + n ∧ EachFits Fits all := by
  induction n generalizing g drawn with
  | zero => exact ⟨drawn, rfl, rfl, hdrawn⟩
  | succ n ih =>
    obtain ⟨a, g', ha, hfits⟩ := hdraw drawn.size g
    obtain ⟨all, hall, hsize, heach⟩ := ih g' (hdrawn.push hfits)
    refine ⟨all, ?_, ?_, heach⟩
    · rw [drawMany, ha]
      exact hall
    · rw [hsize, Array.size_push]
      omega

end ShapeRanges

namespace SimConfig

variable {c : SimConfig}

/-! ### The start of a simulation -/

theorem spawn_eq (hvalid : c.validate = .ok ()) : c.spawn =
    liftGeometry ((ShapeRanges.drawMany (fun k => c.spawnShape.drawBody (0 + k.toUInt64))
      c.objectCount.toNat (.ofSeed c.seed) #[]).map Array.toList) := by
  have hshape := (spawnShape_of_validate hvalid).1
  unfold SimConfig.spawn ShapeRanges.bodies
  rw [hvalid, hshape]
  rfl

/-- Valid settings start a simulation with whatever bodies are drawn. -/
theorem loop_spawn_eq (hvalid : c.validate = .ok ()) :
    Loop.spawn c = c.spawn.map fun bodies => { config := c, bodies, grid := { config := c.grid } } := by
  have hgrid := Grid.exists_make (valid_of_validate hvalid).grid
  unfold Loop.spawn Loop.make
  simp only [hvalid, hgrid]
  cases c.spawn <;> rfl

/-- The bodies that settings ask for: all move, none collides, and they are numbered from zero. -/
structure StartsWith (c : SimConfig) (bodies : List Body) : Prop where
  ids : bodies.map (·.id.toNat) = List.range c.objectCount.toNat
  dynamic : ∀ b ∈ bodies, b.isDynamic
  quiet : ∀ b ∈ bodies, b.colliding = false

/-- A body as it is drawn after `k` others. -/
def Fresh (k : Nat) (b : Body) : Prop := b.id = 0 + k.toUInt64 ∧ b.isDynamic ∧ b.colliding = false

theorem startsWith_of_fresh {all : Array Body} (hsize : all.size = c.objectCount.toNat)
    (h : ShapeRanges.EachFits Fresh all) : c.StartsWith all.toList := by
  have hmem {b : Body} (hb : b ∈ all.toList) : b.isDynamic ∧ b.colliding = false := by
    obtain ⟨k, hk, rfl⟩ := Array.mem_iff_getElem.mp (Array.mem_def.mpr hb)
    exact (h k hk).2
  refine ⟨?_, fun b hb => (hmem hb).1, fun b hb => (hmem hb).2⟩
  apply List.ext_getElem
  · simpa using hsize
  · intro k hk _
    have hk : k < all.size := by simpa using hk
    have hlt : k < 2 ^ 64 := by
      have hcount := c.objectCount.toNat_lt
      omega
    simpa [(h k hk).1] using hlt

theorem spawn_ok (hvalid : c.validate = .ok ())
    (hdraws : c.objectCount = 0 ∨ (c.shape.maxSpeed - -c.shape.maxSpeed).isFinite) :
    ∃ bodies, c.spawn = .ok bodies ∧ c.StartsWith bodies := by
  have hd := ShapeRanges.valid_of_validate (spawnShape_of_validate hvalid).1
  have hnone : ShapeRanges.EachFits Fresh #[] := fun k hk => absurd hk (Nat.not_lt_zero k)
  rw [spawn_eq hvalid]
  rcases hdraws with hcount | hwidth
  · refine ⟨[], by rw [hcount]; rfl, startsWith_of_fresh ?_ hnone⟩
    rw [hcount]
    rfl
  · obtain ⟨all, hall, hsize, hfresh⟩ := ShapeRanges.drawMany_ok
      (fun k g => hd.drawBody_ok hwidth (0 + k.toUInt64) g) c.objectCount.toNat (.ofSeed c.seed) hnone
    rw [Array.size_empty, Nat.zero_add] at hsize
    exact ⟨all.toList, by rw [hall]; rfl, startsWith_of_fresh hsize hfresh⟩

theorem spawn_error (hvalid : c.validate = .ok ()) (hcount : c.objectCount ≠ 0)
    (hwidth : ¬ (c.shape.maxSpeed - -c.shape.maxSpeed).isFinite) :
    ∃ vx vy, c.spawn = .error (.geometry (.velocity vx vy)) := by
  have hd := ShapeRanges.valid_of_validate (spawnShape_of_validate hvalid).1
  obtain ⟨n, hn⟩ : ∃ n, c.objectCount.toNat = n + 1 :=
    Nat.exists_eq_succ_of_ne_zero (by simpa [← UInt64.toNat_inj] using hcount)
  obtain ⟨vx, vy, hfirst⟩ :=
    hd.drawBody_error hwidth (0 + (#[] : Array Body).size.toUInt64) (.ofSeed c.seed)
  refine ⟨vx, vy, ?_⟩
  rw [spawn_eq hvalid, hn, ShapeRanges.drawMany, hfirst]
  rfl

/-- Valid settings start a simulation with the bodies that they ask for, unless they ask for bodies
from a range of speeds whose width overflows. -/
theorem spawn_valid (hvalid : c.validate = .ok ()) :
    (c.objectCount = 0 ∨ (c.shape.maxSpeed - -c.shape.maxSpeed).isFinite →
      ∃ bodies l, c.spawn = .ok bodies ∧ Loop.spawn c = .ok l ∧ l.bodies = bodies ∧
        c.StartsWith bodies) ∧
    (c.objectCount ≠ 0 → ¬ (c.shape.maxSpeed - -c.shape.maxSpeed).isFinite →
      ∃ vx vy, c.spawn = .error (.geometry (.velocity vx vy)) ∧
        Loop.spawn c = .error (.geometry (.velocity vx vy))) := by
  rw [loop_spawn_eq hvalid]
  constructor
  · intro hdraws
    obtain ⟨bodies, hspawn, hstarts⟩ := spawn_ok hvalid hdraws
    rw [hspawn]
    exact ⟨bodies, _, rfl, rfl, rfl, hstarts⟩
  · intro hcount hwidth
    obtain ⟨vx, vy, hspawn⟩ := spawn_error hvalid hcount hwidth
    rw [hspawn]
    exact ⟨vx, vy, rfl, rfl⟩

/-- One body whose speed comes from a range that is wider than any number. -/
def overflowing : SimConfig := { objectCount := 1, shape := { maxSpeed := 1e308 } }

theorem spawn_valid_extremes :
    (∃ bodies l, SimConfig.spawn {} = .ok bodies ∧ Loop.spawn {} = .ok l ∧ l.bodies = bodies ∧
      StartsWith {} bodies) ∧
    ∃ vx vy, overflowing.spawn = .error (.geometry (.velocity vx vy)) ∧
      Loop.spawn overflowing = .error (.geometry (.velocity vx vy)) :=
  ⟨(spawn_valid (by decide +kernel)).1 (by decide +kernel),
    (spawn_valid (by decide +kernel)).2 (by decide +kernel) (by decide +kernel)⟩

/-- Settings that pass their check and ask for a body that cannot be drawn. -/
theorem spawn_overflowing : overflowing.validate = .ok () ∧
    overflowing.spawn = .error (.geometry (.velocity (1 / 0) (1 / 0))) := by
  constructor <;> decide +kernel

end SimConfig

end Broadphase
