import Broadphase.Proofs.Binary64.Signs
import Broadphase.Proofs.Simulation.Contacts
import Broadphase.Proofs.Simulation.Reachable

/-! # The walls contain every moving body

A step of motion first moves a body as if there were no walls (`drift`) and then puts it between
them (`confine`).  `AxisContained` says what the walls do along one axis, and `Contained` what they do to
a body; both hold wherever the body comes from, a corner or a velocity that is no number included.  A
tick contains every body of the session (`walls_contain`). -/

namespace Broadphase

open Binary64

namespace Motion

/-! ### One axis -/

theorem farLimit_eq (extent bound : Float) :
    farLimit extent bound = if 0 < bound - extent then bound - extent else 0 :=
  larger_zero _

theorem exists_hasValue_farLimit (extent bound : Float) :
    ∃ v, HasValue (farLimit extent bound) v ∧ 0 ≤ v := by
  rw [farLimit_eq]
  split_ifs with h
  · obtain ⟨a, v, ha, hv, hlt⟩ := exists_hasValue_of_lt h
    exact ⟨v, hv, (hasValue_zero.le_iff hv).mp (le_of_lt h)⟩
  · exact ⟨0, hasValue_zero, le_rfl⟩

theorem farLimit_nonneg (extent bound : Float) : 0 ≤ farLimit extent bound := by
  obtain ⟨v, hv, h0⟩ := exists_hasValue_farLimit extent bound
  exact (hasValue_zero.le_iff hv).mpr h0

theorem not_neg_of_farLimit_lt {pos extent bound : Float} (h : farLimit extent bound < pos) :
    ¬ pos < 0 := by
  obtain ⟨v, hv, h0⟩ := exists_hasValue_farLimit extent bound
  obtain ⟨-, p, -, hp, -⟩ := exists_hasValue_of_lt h
  rw [hp.lt_iff hasValue_zero]
  exact (h0.trans_lt ((hv.lt_iff hp).mp h)).not_gt

theorem contain_of_neg {pos : Float} (h : pos < 0) (vel extent bound : Float) :
    contain pos vel extent bound = (0, vel.abs) := by
  simp only [contain, if_pos h]

theorem contain_of_farLimit_lt {pos extent bound : Float} (h : farLimit extent bound < pos)
    (vel : Float) : contain pos vel extent bound = (farLimit extent bound, -vel.abs) := by
  have hgt : pos > farLimit extent bound := h
  simp only [contain, if_neg (not_neg_of_farLimit_lt h), if_pos hgt]

theorem contain_of_between {pos extent bound : Float} (hneg : ¬ pos < 0)
    (hfar : ¬ farLimit extent bound < pos) (vel : Float) :
    contain pos vel extent bound = (pos, vel) := by
  have hgt : ¬ pos > farLimit extent bound := hfar
  simp only [contain, if_neg hneg, if_neg hgt]

/-- Along one axis, the walls turn the position `pos` and the velocity `vel` of a body into `pos'` and
`vel'`. -/
structure AxisContained (extent bound pos vel pos' vel' : Float) : Prop where
  /-- The body ends between the walls, unless its position is no number. -/
  inside : pos'.isNaN ∨ 0 ≤ pos' ∧ pos' ≤ farLimit extent bound
  /-- A wall takes no speed away. -/
  speed : vel'.abs = vel.abs
  /-- Before the near wall, a body is put at the wall and moves away from it. -/
  near : pos < 0 → pos' = 0 ∧ (vel'.isNaN ∨ 0 ≤ vel')
  /-- Beyond the far wall, a body is put at the wall and moves away from it. -/
  far : farLimit extent bound < pos → pos' = farLimit extent bound ∧ (vel'.isNaN ∨ vel' ≤ 0)
  /-- A body that is beyond no wall is left alone. -/
  between : ¬ pos < 0 → ¬ farLimit extent bound < pos → pos' = pos ∧ vel' = vel

theorem contain_axisContained (pos vel extent bound : Float) :
    AxisContained extent bound pos vel (contain pos vel extent bound).1
      (contain pos vel extent bound).2 := by
  by_cases hneg : pos < 0
  · rw [contain_of_neg hneg]
    have hzero : (0 : Float) ≤ 0 := by decide
    refine ⟨.inr ⟨hzero, farLimit_nonneg extent bound⟩, abs_abs vel,
      fun _ => ⟨rfl, isNaN_or_abs_nonneg vel⟩, ?_, fun h => absurd hneg h⟩
    intro hfar
    exact absurd hneg (not_neg_of_farLimit_lt hfar)
  by_cases hfar : farLimit extent bound < pos
  · rw [contain_of_farLimit_lt hfar]
    obtain ⟨v, hv, -⟩ := exists_hasValue_farLimit extent bound
    refine ⟨.inr ⟨farLimit_nonneg extent bound, (hv.le_iff hv).mpr le_rfl⟩, ?_, fun h => absurd h hneg,
      fun _ => ⟨rfl, isNaN_or_neg_abs_nonpos vel⟩, fun _ h => absurd hfar h⟩
    exact (Binary64.abs_neg _).trans (abs_abs vel)
  · rw [contain_of_between hneg hfar]
    refine ⟨?_, rfl, fun h => absurd h hneg, fun h => absurd h hfar, fun _ _ => ⟨rfl, rfl⟩⟩
    by_cases hnan : pos.isNaN
    · exact .inl hnan
    · have hpos : pos.isNaN = false := by simpa using hnan
      obtain ⟨v, hv, -⟩ := exists_hasValue_farLimit extent bound
      exact .inr ⟨le_of_not_lt hpos hasValue_zero.number hneg, le_of_not_lt hv.number hpos hfar⟩

/-! ### One body -/

/-- A step of motion without walls: a dynamic body is accelerated, damped and moved. -/
def drift (dt kept gravity : Float) (b : Body) : Body :=
  if b.isStatic then b
  else
    let vx := b.vx * kept
    let vy := (b.vy + gravity * dt) * kept
    { b with rect := b.rect.moveTo (b.rect.x + vx * dt) (b.rect.y + vy * dt), vx, vy }

/-- A dynamic body put between the walls. -/
def confine (bounds : Bounds) (b : Body) : Body :=
  if b.isStatic then b
  else
    let (x, vx) := contain b.rect.x b.vx b.rect.width bounds.width
    let (y, vy) := contain b.rect.y b.vy b.rect.height bounds.height
    { b with rect := b.rect.moveTo x y, vx, vy }

theorem advance_eq (dt kept gravity : Float) (bounds : Bounds) (b : Body) :
    advance dt kept gravity bounds b = confine bounds (drift dt kept gravity b) := by
  unfold advance confine drift
  by_cases hb : b.isStatic
  · simp only [if_pos hb]
  · simp only [if_neg hb]
    rfl

/-- The walls turn the body `free` into `after`, apart from its flag. -/
structure Contained (bounds : Bounds) (free after : Body) : Prop where
  /-- Walls change the corner and the velocity only. -/
  rest : after.unmarked =
    { free.unmarked with rect := free.rect.moveTo after.rect.x after.rect.y, vx := after.vx, vy := after.vy }
  horizontal : after.isDynamic → AxisContained after.rect.width bounds.width free.rect.x free.vx
    after.rect.x after.vx
  vertical : after.isDynamic → AxisContained after.rect.height bounds.height free.rect.y free.vy
    after.rect.y after.vy

theorem confine_contained (bounds : Bounds) (b : Body) : Contained bounds b (confine bounds b) := by
  unfold confine
  by_cases hb : b.isStatic
  · rw [if_pos hb]
    have hstatic : ¬ b.isDynamic := by simp [Body.isDynamic, hb]
    exact ⟨rfl, fun h => absurd h hstatic, fun h => absurd h hstatic⟩
  · rw [if_neg hb]
    exact ⟨rfl, fun _ => contain_axisContained _ _ _ _, fun _ => contain_axisContained _ _ _ _⟩

theorem Contained.congr {bounds : Bounds} {free b after : Body} (h : Contained bounds free b)
    (hb : b.unmarked = after.unmarked) : Contained bounds free after := by
  obtain ⟨id, rect, vx, vy, mass, colliding, isStatic, validMass⟩ := b
  obtain ⟨id', rect', vx', vy', mass', colliding', isStatic', validMass'⟩ := after
  simp only [Body.unmarked, Body.mk.injEq] at hb
  obtain ⟨rfl, rfl, rfl, rfl, rfl, -, rfl⟩ := hb
  exact ⟨h.rest, h.horizontal, h.vertical⟩

end Motion

/-! ### All bodies -/

namespace Session

/-- **The walls contain every moving body.**  A completed tick, in whatever state the session was before,
takes each body of the edited collection in its place through a step of motion without walls and
then contains it. -/
theorem walls_contain {config : SimConfig} {s s' : Session} {tick : Tick}
    (h : Reachable config s) (op : SessionOp) (hop : s.perform op = .ok (s', .ticked tick)) :
    ∃ dt, s.tickLength? op = some dt ∧
      List.Forall₂ (Motion.Contained config.bounds)
        (s.loop.applyEdits.bodies.map
          (Motion.drift dt (config.motion.kept dt) config.motion.gravity))
        s'.loop.bodies := by
  obtain ⟨dt, grid, found, hdt, -, hloop, -⟩ := h.ticked hop
  refine ⟨dt, hdt, ?_⟩
  have hmoved : s.loop.moved dt = (s.loop.applyEdits.bodies.map
      (Motion.drift dt (config.motion.kept dt) config.motion.gravity)).map
        (Motion.confine config.bounds) := by
    rw [List.map_map, ← h.sound.2.config_eq]
    exact List.map_congr_left fun b _ => Motion.advance_eq _ _ _ _ b
  have hunmarked : List.Forall₂ Eq ((s.loop.moved dt).map Body.unmarked)
      (s'.loop.bodies.map Body.unmarked) := by
    rw [List.forall₂_eq_eq_eq, hloop]
    exact (Contacts.map_unmarked_reconcile _ _).symm
  rw [List.forall₂_map_left_iff, List.forall₂_map_right_iff, hmoved, List.forall₂_map_left_iff]
    at hunmarked
  exact hunmarked.imp fun free after hafter => (Motion.confine_contained _ free).congr hafter

/-- A body wider than the arena, at a corner whose second coordinate is no number: it is put at the near
wall, which is the far limit of its width as well, and turns back. -/
theorem walls_contain_wide :
    ∃ s s' tick b, Reachable { grid := { enabled := false } } s ∧
      s.perform (.step 1) = .ok (s', .ticked tick) ∧ s'.loop.bodies = [b] ∧
      b.rect.x = Motion.farLimit 1000 800 ∧ b.vx.abs = 2 ∧ (b.vx.isNaN ∨ b.vx ≤ 0) ∧
      (b.rect.y.isNaN ∨ 0 ≤ b.rect.y ∧ b.rect.y ≤ Motion.farLimit 10 600) := by
  have hmake : Loop.make { grid := { enabled := false } }
      [⟨1, ⟨5, 0 / 0, 1000, 10, by decide⟩, 2, 1, 1, false, false, by decide⟩] = .ok _ := rfl
  have hs := Reachable.made {} hmake
  obtain ⟨dt, hdt, hall⟩ := walls_contain hs (.step 1) rfl
  cases hdt
  obtain ⟨hcontained, -⟩ := List.forall₂_cons.mp hall
  have hx := hcontained.horizontal rfl
  have hy := hcontained.vertical rfl
  obtain ⟨hlimit, hvx⟩ := hx.far (by decide +kernel)
  exact ⟨_, _, _, _, hs, rfl, rfl, hlimit, hx.speed.trans (by decide +kernel), hvx, hy.inside⟩

end Session

end Broadphase
