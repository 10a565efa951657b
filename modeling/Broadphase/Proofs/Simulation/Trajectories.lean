import Broadphase.Proofs.Binary64.Magnitudes
import Broadphase.Proofs.Simulation.Integration
import Broadphase.Proofs.Simulation.Walls

/-! # Runs of motion

A run takes steps of motion one after another between the same walls (`trajectory`).  How much of a
velocity damping keeps over a step is a power of the damping, and all that is used of powers is that this
one is a share, a number from zero to one.  So the power is a parameter here (`integrateBy`); the
library's own step takes that of the core library (`integrate_eq_integrateBy`).

Along one axis a body whose free position is a number ends at a finite position
(`AxisContained.isFinite_iff`), and neither damping nor a wall adds speed (`advance_vx_abs_le`,
`advance_vy_abs_le`).  What all states of a run share follows from what one step preserves
(`course_forall`), and what each state is to the next from what one step does (`course_isChain`). -/

namespace Broadphase

open Binary64

/-- The share of its velocity that a body keeps over `dt`, for a given power function. -/
def MotionParams.keptBy (power : Float → Float → Float) (p : MotionParams) (dt : Float) : Float :=
  if p.damping < 1 then power p.damping dt else 1

/-- The corner and the velocity are finite. -/
structure Body.Finite (b : Body) : Prop where
  x : b.rect.x.isFinite
  y : b.rect.y.isFinite
  vx : b.vx.isFinite
  vy : b.vy.isFinite

namespace Motion

variable {power : Float → Float → Float} {bounds : Bounds} {params : MotionParams}

/-! ### One axis -/

theorem farLimit_le {extent bound : Float} (he : extent.isFinite) (he0 : 0 ≤ extent)
    (hb : bound.isFinite) (hb0 : 0 < bound) :
    (farLimit extent bound).isFinite ∧ farLimit extent bound ≤ bound := by
  rw [farLimit_eq]
  split_ifs with h
  · obtain ⟨r, hr⟩ := exists_hasValue_of_isFinite he
    obtain ⟨t, ht⟩ := exists_hasValue_of_isFinite hb
    have hr0 : 0 ≤ r := EReal.coe_le_coe_iff.mp ((hasValue_zero.le_iff hr).mp he0)
    have hroom := ht.sub hr
    have hlower := (hasValue_zero.le_iff hroom).mp (le_of_lt h)
    have hupper : nearest (t - r) ≤ t := by
      rw [← nearest_of_hasValue ht]
      exact nearest_mono (sub_le_self t hr0)
    exact ⟨hroom.isFinite_of_mem hlower hupper, (hroom.le_iff ht).mpr hupper⟩
  · exact ⟨rfl, le_of_lt hb0⟩

section Axis

variable {extent bound pos vel pos' vel' : Float}

theorem AxisContained.isNaN_iff (h : AxisContained extent bound pos vel pos' vel') :
    pos'.isNaN ↔ pos.isNaN := by
  by_cases hneg : pos < 0
  · obtain ⟨v, -, hv, -, -⟩ := exists_hasValue_of_lt hneg
    rw [(h.near hneg).1, hasValue_zero.number, hv.number]
  by_cases hfar : farLimit extent bound < pos
  · obtain ⟨v, w, hv, hw, -⟩ := exists_hasValue_of_lt hfar
    rw [(h.far hfar).1, hv.number, hw.number]
  · rw [(h.between hneg hfar).1]

/-- Between walls a position is a finite number, or none. -/
theorem AxisContained.isNaN_or_isFinite (h : AxisContained extent bound pos vel pos' vel')
    (hlimit : (farLimit extent bound).isFinite) : pos'.isNaN ∨ pos'.isFinite :=
  h.inside.imp_right fun ⟨h0, hle⟩ => isFinite_of_nonneg_of_le h0 hle hlimit

/-- A position that is finite before a step is finite after it, unless the way is no number: then the velocity
is none, or it is infinite and lasts for no time. -/
theorem AxisContained.isFinite_iff {start dt : Float}
    (h : AxisContained extent bound (start + vel * dt) vel pos' vel')
    (hlimit : (farLimit extent bound).isFinite) (hstart : start.isFinite) (hdt : ValidStep dt) :
    pos'.isFinite ↔ ¬ (vel.isNaN ∨ vel.isInf ∧ dt ≤ 0) := by
  have hzero : HasValue dt ((0 : ℝ) : EReal) ↔ dt ≤ 0 := by
    obtain ⟨t, ht⟩ := exists_hasValue_of_isFinite hdt.1
    have ht0 := (hasValue_zero.le_iff ht).mp hdt.2
    rw [ht.le_iff hasValue_zero]
    exact ⟨fun h0 => (ht.unique h0).le, fun hle => le_antisymm hle ht0 ▸ ht⟩
  have hnumber : pos'.isFinite ↔ ¬ pos'.isNaN :=
    ⟨not_isNaN_of_isFinite, (h.isNaN_or_isFinite hlimit).resolve_left⟩
  rw [hnumber, h.isNaN_iff, isNaN_add_iff hstart, isNaN_mul_iff hdt.1, hzero]

theorem AxisContained.finite {start dt : Float}
    (h : AxisContained extent bound (start + vel * dt) vel pos' vel')
    (hlimit : (farLimit extent bound).isFinite) (hstart : start.isFinite) (hdt : ValidStep dt)
    (hvel : vel.isFinite) : pos'.isFinite ∧ vel'.isFinite := by
  obtain ⟨hnan, hinf⟩ := not_or.mp ((Binary64.isFinite_iff vel).mp hvel)
  refine ⟨(h.isFinite_iff hlimit hstart hdt).mpr ?_, isFinite_of_abs_eq h.speed hvel⟩
  exact not_or.mpr ⟨hnan, fun hrest => hinf hrest.1⟩

end Axis

/-! ### One body -/

section Body

variable {dt kept gravity : Float} {b : Body}

theorem farLimit_width_le (h : bounds.validate = .ok ()) (r : Rect) :
    (farLimit r.width bounds.width).isFinite ∧ farLimit r.width bounds.width ≤ bounds.width := by
  unfold Bounds.validate at h
  split_ifs at h with hb
  exact farLimit_le r.validExtent.1 r.validExtent.2.2.1 hb.1.1 hb.1.2

theorem farLimit_height_le (h : bounds.validate = .ok ()) (r : Rect) :
    (farLimit r.height bounds.height).isFinite ∧ farLimit r.height bounds.height ≤ bounds.height := by
  unfold Bounds.validate at h
  split_ifs at h with hb
  exact farLimit_le r.validExtent.2.1 r.validExtent.2.2.2 hb.2.1 hb.2.2

theorem advance_of_not_dynamic (h : ¬ b.isDynamic) : advance dt kept gravity bounds b = b := by
  have hstatic : b.isStatic := by simpa [Body.isDynamic] using h
  exact advance_of_static hstatic dt kept gravity bounds

theorem advance_horizontal (h : b.isDynamic) :
    AxisContained b.rect.width bounds.width (b.rect.x + b.vx * kept * dt) (b.vx * kept)
      (advance dt kept gravity bounds b).rect.x (advance dt kept gravity bounds b).vx := by
  have hstatic : ¬ b.isStatic := by simpa [Body.isDynamic] using h
  rw [advance, if_neg hstatic]
  exact contain_axisContained _ _ _ _

theorem advance_vertical (h : b.isDynamic) :
    AxisContained b.rect.height bounds.height (b.rect.y + (b.vy + gravity * dt) * kept * dt)
      ((b.vy + gravity * dt) * kept) (advance dt kept gravity bounds b).rect.y
      (advance dt kept gravity bounds b).vy := by
  have hstatic : ¬ b.isStatic := by simpa [Body.isDynamic] using h
  rw [advance, if_neg hstatic]
  exact contain_axisContained _ _ _ _

/-- Neither damping nor a wall adds speed. -/
theorem advance_vx_abs_le (hb : b.isDynamic) (hkept : 0 ≤ kept ∧ kept ≤ 1) (hvx : b.vx.isFinite) :
    (advance dt kept gravity bounds b).vx.abs ≤ b.vx.abs := by
  rw [(advance_horizontal hb).speed]
  exact (abs_mul_share_le hvx hkept.1 hkept.2).2

theorem advance_vy_abs_le (hb : b.isDynamic) (hkept : 0 ≤ kept ∧ kept ≤ 1)
    (hfall : (b.vy + gravity * dt).isFinite) :
    (advance dt kept gravity bounds b).vy.abs ≤ (b.vy + gravity * dt).abs := by
  rw [(advance_vertical hb).speed]
  exact (abs_mul_share_le hfall hkept.1 hkept.2).2

/-- Along the horizontal axis nothing accelerates a body, so it stays finite. -/
theorem advance_horizontal_finite (hwalls : bounds.validate = .ok ()) (hdt : ValidStep dt)
    (hkept : 0 ≤ kept ∧ kept ≤ 1) (hx : b.rect.x.isFinite) (hvx : b.vx.isFinite) :
    (advance dt kept gravity bounds b).rect.x.isFinite ∧
      (advance dt kept gravity bounds b).vx.isFinite := by
  by_cases hb : b.isDynamic
  · have hvel := (abs_mul_share_le hvx hkept.1 hkept.2).1
    exact (advance_horizontal hb).finite (farLimit_width_le hwalls b.rect).1 hx hdt hvel
  · rw [advance_of_not_dynamic hb]
    exact ⟨hx, hvx⟩

/-- A body stays finite in a step if its accelerated velocity is finite. -/
theorem advance_finite (hwalls : bounds.validate = .ok ()) (hdt : ValidStep dt)
    (hkept : 0 ≤ kept ∧ kept ≤ 1) (hb : b.Finite)
    (hfall : b.isDynamic → (b.vy + gravity * dt).isFinite) :
    (advance dt kept gravity bounds b).Finite := by
  obtain ⟨hx, hvx⟩ := advance_horizontal_finite hwalls hdt hkept hb.x hb.vx
  by_cases hdynamic : b.isDynamic
  · have hvel := (abs_mul_share_le (hfall hdynamic) hkept.1 hkept.2).1
    obtain ⟨hy, hvy⟩ :=
      (advance_vertical hdynamic).finite (farLimit_height_le hwalls b.rect).1 hb.y hdt hvel
    exact ⟨hx, hy, hvx, hvy⟩
  · rw [advance_of_not_dynamic hdynamic]
    exact hb

end Body

/-! ### Runs -/

instance (dt : Float) : Decidable (ValidStep dt) := inferInstanceAs (Decidable (_ ∧ _))

/-- Moves one body by one step, for a given power function. -/
abbrev advanceBy (power : Float → Float → Float) (dt : Float) (bounds : Bounds) (params : MotionParams) :
    Body → Body :=
  advance dt (params.keptBy power dt) params.gravity bounds

/-- Moves all bodies by one step, for a given power function. -/
def integrateBy (power : Float → Float → Float) (dt : Float) (bounds : Bounds) (params : MotionParams)
    (bodies : List Body) : Except SimulationError (List Body) := do
  check dt bounds params
  return bodies.map (advanceBy power dt bounds params)

theorem integrate_eq_integrateBy (dt : Float) (bounds : Bounds) (params : MotionParams)
    (bodies : List Body) :
    integrate dt bounds params bodies = integrateBy Float.pow dt bounds params bodies := rfl

/-- The states that the bodies go through, the first one included, when the steps are taken one after
another.  A step that is refused ends the run. -/
def trajectory (power : Float → Float → Float) (bounds : Bounds) (params : MotionParams) :
    List Float → List Body → Except SimulationError (List (List Body))
  | [], bodies => .ok [bodies]
  | dt :: dts, bodies => do
    let moved ← integrateBy power dt bounds params bodies
    let later ← trajectory power bounds params dts moved
    return bodies :: later

/-- The walls, the parameters and the steps `dts` pass their checks, and of a velocity every step keeps a
share. -/
structure Admissible (power : Float → Float → Float) (bounds : Bounds) (params : MotionParams)
    (dts : List Float) : Prop where
  walls : bounds.validate = .ok ()
  motion : params.validate = .ok ()
  steps : ∀ dt ∈ dts, ValidStep dt
  share : ∀ dt ∈ dts, params.damping < 1 →
    0 ≤ power params.damping dt ∧ power params.damping dt ≤ 1

/-- The states of a run in which no step is refused. -/
def course (power : Float → Float → Float) (bounds : Bounds) (params : MotionParams) :
    List Float → List Body → List (List Body)
  | [], bodies => [bodies]
  | dt :: dts, bodies =>
    bodies :: course power bounds params dts (bodies.map (advanceBy power dt bounds params))

theorem Admissible.tail {dt : Float} {dts : List Float}
    (h : Admissible power bounds params (dt :: dts)) : Admissible power bounds params dts where
  walls := h.walls
  motion := h.motion
  steps := fun t ht => h.steps t (List.mem_cons_of_mem dt ht)
  share := fun t ht => h.share t (List.mem_cons_of_mem dt ht)

theorem Admissible.kept {dts : List Float} (h : Admissible power bounds params dts) {dt : Float}
    (hdt : dt ∈ dts) : 0 ≤ params.keptBy power dt ∧ params.keptBy power dt ≤ 1 := by
  unfold MotionParams.keptBy
  split_ifs with hlt
  · exact h.share dt hdt hlt
  · decide

theorem Admissible.integrateBy_eq {dts : List Float} (h : Admissible power bounds params dts)
    {dt : Float} (hdt : dt ∈ dts) (bodies : List Body) : integrateBy power dt bounds params bodies =
      .ok (bodies.map (advanceBy power dt bounds params)) := by
  have hstep : dt.isFinite ∧ dt ≥ 0 := h.steps dt hdt
  simp only [integrateBy, check, if_pos hstep, h.walls, h.motion]
  rfl

/-- An admissible run is never refused. -/
theorem Admissible.trajectory_eq {dts : List Float} (h : Admissible power bounds params dts)
    (bodies : List Body) :
    trajectory power bounds params dts bodies = .ok (course power bounds params dts bodies) := by
  induction dts generalizing bodies with
  | nil => rfl
  | cons dt dts ih =>
    rw [trajectory, h.integrateBy_eq List.mem_cons_self]
    show (trajectory power bounds params dts _ >>= fun later => pure (bodies :: later)) = _
    rw [ih h.tail]
    rfl

theorem mem_course_self (dts : List Float) (bodies : List Body) :
    bodies ∈ course power bounds params dts bodies := by
  cases dts <;> exact List.mem_cons_self

/-- What every step preserves holds in all states of a run. -/
theorem course_forall {P : List Body → Prop} {dts : List Float} {bodies : List Body} (h : P bodies)
    (hstep : ∀ dt ∈ dts, ∀ s, P s → P (s.map (advanceBy power dt bounds params))) :
    ∀ s ∈ course power bounds params dts bodies, P s := by
  induction dts generalizing bodies with
  | nil => simpa [course] using h
  | cons dt dts ih =>
    have hnext := hstep dt List.mem_cons_self bodies h
    exact List.forall_mem_cons.mpr ⟨h, ih hnext fun t ht => hstep t (List.mem_cons_of_mem dt ht)⟩

/-- What every step does to a state is done from each state of a run to the next. -/
theorem course_isChain {P : List Body → Prop} {R : List Body → List Body → Prop} {dts : List Float}
    {bodies : List Body} (h : P bodies)
    (hstep : ∀ dt ∈ dts, ∀ s, P s → P (s.map (advanceBy power dt bounds params)))
    (hrel : ∀ dt ∈ dts, ∀ s, P s → R s (s.map (advanceBy power dt bounds params))) :
    (course power bounds params dts bodies).IsChain R := by
  induction dts generalizing bodies with
  | nil => exact .singleton _
  | cons dt dts ih =>
    have hnext := hstep dt List.mem_cons_self bodies h
    have hfirst := hrel dt List.mem_cons_self bodies h
    have hchain := ih hnext (fun t ht => hstep t (List.mem_cons_of_mem dt ht))
      fun t ht => hrel t (List.mem_cons_of_mem dt ht)
    cases dts <;> exact .cons_cons hfirst hchain

theorem Admissible.hasValue_pull {dts : List Float} (h : Admissible power bounds params dts)
    (hgravity : params.gravity == 0) {dt : Float} (hdt : dt ∈ dts) :
    HasValue (params.gravity * dt) ((0 : ℝ) : EReal) :=
  (hasValue_of_beq_zero hgravity).zero_mul (h.steps dt hdt).1

/-- Without gravity, a finite body stays finite. -/
theorem Admissible.finite_of_weightless {dts : List Float} (h : Admissible power bounds params dts)
    (hgravity : params.gravity == 0) {dt : Float} (hdt : dt ∈ dts) {b : Body} (hb : b.Finite) :
    (advanceBy power dt bounds params b).Finite := by
  have hpull := h.hasValue_pull hgravity hdt
  exact advance_finite h.walls (h.steps dt hdt) (h.kept hdt) hb fun _ => (abs_add_zero hb.vy hpull).1

theorem Admissible.map_finite {dts : List Float} (h : Admissible power bounds params dts)
    (hgravity : params.gravity == 0) {dt : Float} (hdt : dt ∈ dts) {s : List Body}
    (hs : ∀ b ∈ s, b.Finite) : ∀ b ∈ s.map (advanceBy power dt bounds params), b.Finite :=
  List.forall_mem_map.mpr fun b hb => h.finite_of_weightless hgravity hdt (hs b hb)

end Motion

end Broadphase
