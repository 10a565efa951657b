import Broadphase.Proofs.Simulation.Trajectories

/-! # Where positions stay finite

Bodies that start finite stay finite along the horizontal axis, and no position ever becomes infinite.
Gravity has no limit but that it is finite, so a vertical velocity may overflow.  The walls still hold a
body of infinite velocity, but once that velocity meets an infinite acceleration of the other sign, or is
multiplied by zero, it is no number, and neither is the position from then on.  `Derails` names the steps in
which this happens; without such a step all positions stay finite, and with one they do not
(`positions_finite_iff`).  Two steps of a strong gravity suffice (`fall_derails`), whereas moderate speeds
and no gravity at all are harmless. -/

namespace Broadphase

open Binary64

namespace Binary64

/-! ### Moderate numbers -/

theorem nearest_multiple {n : ℕ} {e : ℤ} (hn : n < 2 ^ 53) (he : -1074 ≤ e) (hmax : e ≤ 971) :
    nearest (n * 2 ^ e) = ((n * 2 ^ e : ℝ) : EReal) := by
  have hround : rounded (n * 2 ^ e) = n * 2 ^ e := by
    exact_mod_cast rounded_dyadic (z := n) (by simpa using hn) he
  have hlt : (n * 2 ^ e : ℝ) < overflow :=
    calc (n * 2 ^ e : ℝ) < 2 ^ (53 : ℤ) * 2 ^ e :=
          mul_lt_mul_of_pos_right (by exact_mod_cast hn) (two_zpow_pos e)
      _ = 2 ^ (53 + e) := (zpow_add₀ two_ne_zero 53 e).symm
      _ ≤ overflow := two_zpow_le (by omega)
  rw [nearest_of_abs_lt, hround]
  rwa [hround, abs_of_nonneg (mul_nonneg n.cast_nonneg (two_zpow_pos e).le)]

/-- The magnitude that one acceleration may add. -/
noncomputable def moderate : ℝ := (2 ^ 964 : ℕ)

theorem moderate_eq : moderate = 2 ^ (964 : ℤ) := by
  rw [moderate, Nat.cast_pow, Nat.cast_ofNat]
  exact (zpow_natCast 2 964).symm

theorem AtMost.of_abs_le {x y : Float} {r : ℝ} (hy : AtMost r y) (hx : x.isFinite)
    (h : x.abs ≤ y.abs) : AtMost r x := by
  obtain ⟨t, ht, htr⟩ := hy
  obtain ⟨q, hq⟩ := exists_hasValue_of_isFinite hx
  have hqt := EReal.coe_le_coe_iff.mp ((hq.abs.le_iff ht.abs).mp h)
  exact ⟨q, hq, hqt.trans htr⟩

theorem AtMost.mono {x : Float} {r r' : ℝ} (h : AtMost r x) (hr : r ≤ r') : AtMost r' x := by
  obtain ⟨t, ht, htr⟩ := h
  exact ⟨t, ht, htr.trans hr⟩

/-- Sums of moderate numbers are not rounded beyond the next multiple of the bound. -/
theorem AtMost.add_moderate {x w : Float} {n : ℕ} (hn : n + 1 < 2 ^ 53) (hx : AtMost (n * moderate) x)
    (hw : AtMost moderate w) : AtMost ((n + 1 : ℕ) * moderate) (x + w) := by
  obtain ⟨r, hr, hrn⟩ := hx
  obtain ⟨t, ht, ht1⟩ := hw
  -- the next multiple is a number of the format, so rounding does not get past it
  have hexact : nearest ((n + 1 : ℕ) * moderate) = ((n + 1 : ℕ) * moderate : ℝ) := by
    rw [moderate_eq]
    exact nearest_multiple hn (by omega) (by omega)
  refine (hr.add ht).atMost hexact ?_
  calc |r + t| ≤ |r| + |t| := abs_add_le r t
    _ ≤ n * moderate + moderate := add_le_add hrn ht1
    _ = (n + 1 : ℕ) * moderate := by push_cast; ring

theorem atMost_ofNat {k : ℕ} (hk : k ≤ 971) : AtMost (2 ^ k : ℕ) (Float.ofNat (2 ^ k)) := by
  have hexact := nearest_multiple (n := 1) (e := k) (by omega) (by omega) (by omega)
  rw [Nat.cast_one, one_mul, zpow_natCast, ← Nat.cast_ofNat, ← Nat.cast_pow] at hexact
  exact (hasValue_ofNat (2 ^ k)).atMost hexact (abs_of_nonneg (Nat.cast_nonneg _)).le

theorem atMost_moderate {x : Float} (h : x.abs ≤ 1e290) : AtMost moderate x := by
  obtain ⟨v, -, hv, -, -⟩ := exists_hasValue_of_le h
  have h0 : 0 ≤ x.abs := (isNaN_or_abs_nonneg x).resolve_left hv.not_isNaN
  have hfin := isFinite_of_nonneg_of_le h0 h (by decide +kernel)
  have hle : x.abs ≤ (Float.ofNat (2 ^ 964)).abs := Binary64.le_trans h (by decide +kernel)
  have hbound : AtMost moderate (Float.ofNat (2 ^ 964)) := atMost_ofNat (by omega)
  exact hbound.of_abs_le (isFinite_of_abs_eq (abs_abs x).symm hfin) hle

end Binary64

namespace Motion

variable {power : Float → Float → Float} {bounds : Bounds} {params : MotionParams}

/-! ### One step -/

/-- In this step the vertical position of a body is lost: its velocity is no number, or it is infinite and
lasts for no time. -/
def Derails (dt kept gravity : Float) (b : Body) : Prop :=
  let vy := (b.vy + gravity * dt) * kept
  b.isDynamic ∧ (vy.isNaN ∨ vy.isInf ∧ dt ≤ 0)

section Step

variable {dt kept gravity : Float} {b : Body}

theorem advance_y_isFinite_iff (hwalls : bounds.validate = .ok ()) (hdt : ValidStep dt)
    (hy : b.rect.y.isFinite) :
    (advance dt kept gravity bounds b).rect.y.isFinite ↔ ¬ Derails dt kept gravity b := by
  unfold Derails
  by_cases hb : b.isDynamic
  · rw [(advance_vertical hb).isFinite_iff (farLimit_height_le hwalls b.rect).1 hy hdt,
      and_iff_right hb]
  · rw [advance_of_not_dynamic hb]
    exact iff_of_true hy fun h => hb h.1

/-- The walls let no body get to infinity. -/
theorem advance_y_isNaN_or_isFinite (hwalls : bounds.validate = .ok ())
    (hy : b.rect.y.isNaN ∨ b.rect.y.isFinite) :
    (advance dt kept gravity bounds b).rect.y.isNaN ∨
      (advance dt kept gravity bounds b).rect.y.isFinite := by
  by_cases hb : b.isDynamic
  · exact (advance_vertical hb).isNaN_or_isFinite (farLimit_height_le hwalls b.rect).1
  · rwa [advance_of_not_dynamic hb]

/-- Neither a moderate pull nor the walls make a body that moves at a moderate speed infinitely fast. -/
theorem advance_moderate {n : ℕ} (hn : n + 1 < 2 ^ 53) (hwalls : bounds.validate = .ok ())
    (hdt : ValidStep dt) (hkept : 0 ≤ kept ∧ kept ≤ 1) (hpull : AtMost moderate (gravity * dt))
    (hb : b.Finite) (hspeed : AtMost (n * moderate) b.vy) :
    (advance dt kept gravity bounds b).Finite ∧
      AtMost ((n + 1 : ℕ) * moderate) (advance dt kept gravity bounds b).vy := by
  have hsum := hspeed.add_moderate hn hpull
  have hnext := advance_finite hwalls hdt hkept hb fun _ => hsum.isFinite
  refine ⟨hnext, ?_⟩
  by_cases hdynamic : b.isDynamic
  · exact hsum.of_abs_le hnext.vy (advance_vy_abs_le hdynamic hkept hsum.isFinite)
  · rw [advance_of_not_dynamic hdynamic]
    refine hspeed.mono (mul_le_mul_of_nonneg_right ?_ (Nat.cast_nonneg _))
    exact_mod_cast n.le_succ

end Step

/-! ### Runs -/

theorem course_y_isFinite_iff {dts : List Float} {bodies : List Body}
    (h : Admissible power bounds params dts) (hy : ∀ b ∈ bodies, b.rect.y.isFinite) :
    (∀ s ∈ course power bounds params dts bodies, ∀ b ∈ s, b.rect.y.isFinite) ↔
      ∀ step ∈ dts.zip (course power bounds params dts bodies), ∀ b ∈ step.2,
        ¬ Derails step.1 (params.keptBy power step.1) params.gravity b := by
  induction dts generalizing bodies with
  | nil => simpa [course] using hy
  | cons dt dts ih =>
    have hstep : (∀ b ∈ bodies.map (advanceBy power dt bounds params), b.rect.y.isFinite) ↔
        ∀ b ∈ bodies, ¬ Derails dt (params.keptBy power dt) params.gravity b := by
      rw [List.forall_mem_map]
      exact forall₂_congr fun b hb =>
        advance_y_isFinite_iff h.walls (h.steps dt List.mem_cons_self) (hy b hb)
    rw [course, List.zip_cons_cons, List.forall_mem_cons, List.forall_mem_cons, and_iff_right hy,
      ← hstep]
    -- the second state is finite on either side, which is what the induction hypothesis asks for
    constructor
    · intro hall
      have hnext := hall _ (mem_course_self dts _)
      exact ⟨hnext, (ih h.tail hnext).mp hall⟩
    · rintro ⟨hnext, hrest⟩
      exact (ih h.tail hnext).mpr hrest

/-- Along the horizontal axis all is finite, and a vertical position is at least not infinite. -/
theorem course_isNaN_or_isFinite {dts : List Float} {bodies : List Body}
    (h : Admissible power bounds params dts) (hfin : ∀ b ∈ bodies, b.Finite) :
    ∀ s ∈ course power bounds params dts bodies, ∀ b ∈ s,
      (b.rect.x.isFinite ∧ b.vx.isFinite) ∧ (b.rect.y.isNaN ∨ b.rect.y.isFinite) := by
  refine course_forall (fun b hb => ⟨⟨(hfin b hb).x, (hfin b hb).vx⟩, .inr (hfin b hb).y⟩) ?_
  intro dt hdt s hs
  refine List.forall_mem_map.mpr fun b hb => ?_
  obtain ⟨⟨hx, hvx⟩, hy⟩ := hs b hb
  exact ⟨advance_horizontal_finite h.walls (h.steps dt hdt) (h.kept hdt) hx hvx,
    advance_y_isNaN_or_isFinite h.walls hy⟩

theorem course_finite_of_weightless {dts : List Float} {bodies : List Body}
    (h : Admissible power bounds params dts) (hgravity : params.gravity == 0)
    (hfin : ∀ b ∈ bodies, b.Finite) :
    ∀ s ∈ course power bounds params dts bodies, ∀ b ∈ s, b.Finite :=
  course_forall hfin fun _ hdt _ hs => h.map_finite hgravity hdt hs

/-- Moderate speeds that grow by a moderate amount in each step do not overflow before step `2 ^ 53`. -/
theorem course_finite_of_moderate {dts : List Float} {bodies : List Body} {n : ℕ}
    (h : Admissible power bounds params dts) (hn : n + dts.length < 2 ^ 53)
    (hpull : ∀ dt ∈ dts, AtMost moderate (params.gravity * dt))
    (hb : ∀ b ∈ bodies, b.Finite ∧ AtMost (n * moderate) b.vy) :
    ∀ s ∈ course power bounds params dts bodies, ∀ b ∈ s, b.Finite := by
  induction dts generalizing bodies n with
  | nil => simpa [course] using fun b hmem => (hb b hmem).1
  | cons dt dts ih =>
    have hmem : dt ∈ dt :: dts := List.mem_cons_self
    rw [List.length_cons] at hn
    refine List.forall_mem_cons.mpr ⟨fun b hb' => (hb b hb').1, ?_⟩
    refine ih (n := n + 1) h.tail (by omega) (fun t ht => hpull t (List.mem_cons_of_mem dt ht)) ?_
    refine List.forall_mem_map.mpr fun b hb' => ?_
    exact advance_moderate (by omega) h.walls (h.steps dt hmem) (h.kept hmem) (hpull dt hmem)
      (hb b hb').1 (hb b hb').2

/-- **Positions stay finite exactly as long as no body derails.**  An admissible run from finite bodies is
never refused.  It keeps all horizontal positions and velocities finite, and a vertical position is
finite or no number.  All vertical positions stay finite if and only if no step of the run derails a
body.  Everything stays finite without gravity, and in runs of fewer than `2 ^ 53 - 1` steps from moderate
speeds under a moderate pull. -/
theorem positions_finite_iff {dts : List Float} {bodies : List Body}
    (h : Admissible power bounds params dts) (hfin : ∀ b ∈ bodies, b.Finite) :
    (∀ dt s, integrate dt bounds params s = integrateBy Float.pow dt bounds params s) ∧
    ∃ states, trajectory power bounds params dts bodies = .ok states ∧
      (∀ s ∈ states, ∀ b ∈ s,
        (b.rect.x.isFinite ∧ b.vx.isFinite) ∧ (b.rect.y.isNaN ∨ b.rect.y.isFinite)) ∧
      ((∀ s ∈ states, ∀ b ∈ s, b.rect.y.isFinite) ↔
        ∀ step ∈ dts.zip states, ∀ b ∈ step.2,
          ¬ Derails step.1 (params.keptBy power step.1) params.gravity b) ∧
      (params.gravity == 0 → ∀ s ∈ states, ∀ b ∈ s, b.Finite) ∧
      (dts.length + 1 < 2 ^ 53 → (∀ b ∈ bodies, b.vy.abs ≤ 1e290) →
        (∀ dt ∈ dts, (params.gravity * dt).abs ≤ 1e290) → ∀ s ∈ states, ∀ b ∈ s, b.Finite) := by
  refine ⟨fun dt s => integrate_eq_integrateBy dt bounds params s, _, h.trajectory_eq bodies,
    course_isNaN_or_isFinite h hfin, course_y_isFinite_iff h fun b hb => (hfin b hb).y,
    fun hgravity => course_finite_of_weightless h hgravity hfin, ?_⟩
  intro hlength hspeed hpull
  refine course_finite_of_moderate (n := 1) h (by omega) (fun dt hdt => atMost_moderate (hpull dt hdt))
    fun b hb => ⟨hfin b hb, ?_⟩
  rw [Nat.cast_one, one_mul]
  exact atMost_moderate (hspeed b hb)

/-- A very fast body in a corner, under gravity and damping. -/
theorem positions_finite_iff_damped :
    ∃ b states, b.vy = 1e290 ∧
      trajectory (fun d t => if t ≤ 1 then d else d * d) {} { gravity := 9, damping := 0.5 } [1, 2, 1] [b] =
        .ok states ∧
      ∀ s ∈ states, ∀ b ∈ s, b.Finite := by
  have hrun : Admissible (fun d t => if t ≤ 1 then d else d * d) {} { gravity := 9, damping := 0.5 }
      [1, 2, 1] := ⟨rfl, rfl, by decide +kernel, by decide +kernel⟩
  obtain ⟨b, hb, hvy⟩ : ∃ b : Body, b.Finite ∧ b.vy = 1e290 :=
    ⟨⟨0, ⟨790, 590, 10, 10, by decide⟩, 3, 1e290, 1, false, false, by decide⟩,
      ⟨rfl, rfl, rfl, by decide +kernel⟩, rfl⟩
  have hspeed : b.vy.abs ≤ 1e290 := by
    rw [hvy]
    decide +kernel
  obtain ⟨-, states, htrajectory, -, -, -, hmoderate⟩ :=
    positions_finite_iff hrun (List.forall_mem_singleton.mpr hb)
  exact ⟨b, states, hvy, htrajectory,
    hmoderate (by decide) (List.forall_mem_singleton.mpr hspeed) (by decide +kernel)⟩

/-- A body at rest falls for two steps.  Its velocity overflows in the first one, at the end of which the
wall turns it around; in the second one gravity pulls the other way, and the position is no number. -/
theorem fall_derails :
    ∃ b once twice : Body, b.Finite ∧
      integrate 10 {} { gravity := 1e308 } [b] = .ok [once] ∧
      integrate 10 {} { gravity := 1e308 } [once] = .ok [twice] ∧ twice.rect.y.isNaN := by
  have hmotion : MotionParams.validate { gravity := 1e308 } = .ok () := by decide +kernel
  have hrun : Admissible Float.pow {} { gravity := 1e308 } [10] :=
    ⟨rfl, hmotion, by decide, fun _ _ h => absurd h (by decide)⟩
  exact ⟨⟨0, ⟨10, 10, 10, 10, by decide⟩, 0, 0, 1, false, false, by decide⟩, _, _,
    ⟨rfl, rfl, rfl, rfl⟩, hrun.integrateBy_eq List.mem_cons_self _,
    hrun.integrateBy_eq List.mem_cons_self _, by decide +kernel⟩

end Motion

end Broadphase
