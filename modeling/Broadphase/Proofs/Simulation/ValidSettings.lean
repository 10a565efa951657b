import Broadphase.Proofs.Binary64.Signs
import Broadphase.Proofs.Simulation.Tick

/-! # What the check of the settings ensures

Settings that pass their check hold finite numbers in the right order.  The arena of the shape ranges
is the exception: the check looks at the ranges with the walls as their arena
(`SimConfig.spawnShape`), so the arena that they hold themselves is not looked at. -/

namespace Broadphase

/-! ### Finite numbers -/

namespace Binary64

theorem isNaN_of_isFinite {x : Float} (h : x.isFinite) : x.isNaN = false :=
  (exists_hasValue_of_isFinite h).choose_spec.number

/-- A number between zero and one is finite. -/
theorem isFinite_of_pos_of_le_one {x : Float} (h0 : 0 < x) (h1 : x ≤ 1) : x.isFinite := by
  obtain ⟨a, b, ha, hb, hab⟩ := exists_hasValue_of_lt h0
  have hle := (hb.le_iff hasValue_one).mp h1
  rcases hb.unpack_cases with ⟨rfl, -⟩ | ⟨rfl, -⟩ | ⟨-, hfin⟩
  · exact absurd hle (not_le.mpr (EReal.coe_lt_top 1))
  · exact absurd hab not_lt_bot
  · exact hfin

end Binary64

open Binary64 (isNaN_of_isFinite le_of_not_lt lt_of_not_le)

/-! ### Walls and motion -/

theorem Bounds.isFinite_of_validate {b : Bounds} (h : b.validate = .ok ()) :
    b.width.isFinite ∧ b.height.isFinite := by
  unfold Bounds.validate at h
  split_ifs at h with hb
  exact ⟨hb.1.1, hb.2.1⟩

theorem MotionParams.isFinite_of_validate {p : MotionParams} (h : p.validate = .ok ()) :
    p.gravity.isFinite ∧ p.damping.isFinite := by
  unfold MotionParams.validate at h
  split_ifs at h with hgravity hdamping
  exact ⟨hgravity, Binary64.isFinite_of_pos_of_le_one hdamping.1 hdamping.2⟩

/-! ### Shape ranges -/

/-- Ranges that are finite, ordered and fit into their arena. -/
structure ShapeRanges.Valid (d : ShapeRanges) : Prop where
  arenaWidth : d.arenaWidth.isFinite
  arenaHeight : d.arenaHeight.isFinite
  minSize : d.minSize.isFinite
  maxSize : d.maxSize.isFinite
  maxSpeed : d.maxSpeed.isFinite
  minMass : d.minMass.isFinite
  maxMass : d.maxMass.isFinite
  minSize_nonneg : 0 ≤ d.minSize
  minSize_le : d.minSize ≤ d.maxSize
  maxSize_le_width : d.maxSize ≤ d.arenaWidth
  maxSize_le_height : d.maxSize ≤ d.arenaHeight
  maxSpeed_nonneg : 0 ≤ d.maxSpeed
  minMass_pos : 0 < d.minMass
  minMass_le : d.minMass ≤ d.maxMass

theorem ShapeRanges.valid_of_validate {d : ShapeRanges} (h : d.validate = .ok ()) : d.Valid := by
  have hfault : d.fault? = none := by
    unfold ShapeRanges.validate at h
    split at h
    · cases h
    · assumption
  unfold ShapeRanges.fault? at hfault
  split_ifs at hfault with hfinite hsize harena hspeed hmass
  obtain ⟨hwidth, hheight, hmin, hmax, hfast, hlight, hheavy⟩ := hfinite
  rw [not_or] at hsize harena hmass
  have hsmall := isNaN_of_isFinite hmin
  have hlarge := isNaN_of_isFinite hmax
  have hmass0 := isNaN_of_isFinite hlight
  exact {
    arenaWidth := hwidth
    arenaHeight := hheight
    minSize := hmin
    maxSize := hmax
    maxSpeed := hfast
    minMass := hlight
    maxMass := hheavy
    minSize_nonneg := le_of_not_lt hsmall rfl hsize.1
    minSize_le := le_of_not_lt hlarge hsmall hsize.2
    maxSize_le_width := le_of_not_lt (isNaN_of_isFinite hwidth) hlarge harena.1
    maxSize_le_height := le_of_not_lt (isNaN_of_isFinite hheight) hlarge harena.2
    maxSpeed_nonneg := le_of_not_lt (isNaN_of_isFinite hfast) rfl hspeed
    minMass_pos := lt_of_not_le hmass0 rfl hmass.1
    minMass_le := le_of_not_lt (isNaN_of_isFinite hheavy) hmass0 hmass.2 }

/-! ### Settings of a simulation -/

theorem SimConfig.spawnShape_of_validate {c : SimConfig} (h : c.validate = .ok ()) :
    c.spawnShape.validate = .ok () ∧ ∀ x ∈ c.referenceHeight?, x.isFinite := by
  unfold SimConfig.validate at h
  obtain ⟨⟨⟩, -, h⟩ := bind_eq_ok_iff.mp h
  obtain ⟨⟨⟩, -, h⟩ := bind_eq_ok_iff.mp h
  obtain ⟨⟨⟩, -, h⟩ := bind_eq_ok_iff.mp h
  obtain ⟨⟨⟩, hshape, h⟩ := bind_eq_ok_iff.mp h
  refine ⟨liftGeometry_eq_ok hshape, ?_⟩
  intro x hx
  rw [Option.mem_def] at hx
  rw [hx] at h
  by_contra hfinite
  simp only [hfinite] at h
  cases h

end Broadphase
