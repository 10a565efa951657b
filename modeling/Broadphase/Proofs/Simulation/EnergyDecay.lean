import Broadphase.Proofs.Simulation.Trajectories
import Broadphase.Simulation.Energy

/-! # Energy without gravity

Without gravity the energy of a body is its kinetic energy, as long as nothing overflows
(`ofBody_eq_kinetic`).  Damping and walls take speed away or turn it around, so no body gains kinetic
energy in a step (`kinetic_le`), and sums keep the order of their terms (`foldl_add_le`).  Hence the total
energy never rises along a run, and it stays the same to the last bit if there is no damping
(`energy_never_rises`). -/

namespace Broadphase

open Binary64

namespace Energy

/-! ### Kinetic energy -/

/-- The energy of motion of a body. -/
def kinetic (b : Body) : Float := 0.5 * b.mass * (b.vx * b.vx + b.vy * b.vy)

theorem half_mass (b : Body) :
    Unsigned (0.5 * b.mass) ∧ (0.5 * b.mass).isFinite ∧ 0 ≤ 0.5 * b.mass := by
  have hunsigned : Unsigned (0.5 * b.mass) :=
    (unsigned_of_pos (by decide)).mul (unsigned_of_pos b.validMass.2)
  have hfin : (0.5 * b.mass).isFinite := by
    rw [times_comm]
    exact (abs_mul_share_le b.validMass.1 (by decide) (by decide)).1
  exact ⟨hunsigned, hfin, hunsigned.nonneg (not_isNaN_of_isFinite hfin)⟩

theorem unsigned_kinetic (b : Body) : Unsigned (kinetic b) :=
  (half_mass b).1.mul ((unsigned_mul_self b.vx).add (unsigned_mul_self b.vy))

/-- A body of the same mass that is no faster has no more kinetic energy. -/
theorem kinetic_le {b b' : Body} (hmass : b'.mass = b.mass) (hb : b.Finite) (hb' : b'.Finite)
    (hvx : b'.vx.abs ≤ b.vx.abs) (hvy : b'.vy.abs ≤ b.vy.abs) (h : ¬ (kinetic b).isNaN) :
    0 ≤ kinetic b' ∧ kinetic b' ≤ kinetic b := by
  obtain ⟨-, hfin, h0⟩ := half_mass b
  obtain ⟨hx0, hx⟩ := mul_self_le hb'.vx hb.vx hvx
  obtain ⟨hy0, hy⟩ := mul_self_le hb'.vy hb.vy hvy
  obtain ⟨hsum0, hsum⟩ := add_le_add_of_nonneg hx0 hx hy0 hy
  unfold kinetic at h ⊢
  rw [hmass]
  exact mul_le_mul_of_nonneg hfin h0 hsum0 hsum h

theorem kinetic_congr {b b' : Body} (hmass : b'.mass = b.mass) (hvx : b'.vx.abs = b.vx.abs)
    (hvy : b'.vy.abs = b.vy.abs) : kinetic b' = kinetic b := by
  unfold kinetic
  rw [mul_self_eq b'.vx, mul_self_eq b'.vy, hmass, hvx, hvy, ← mul_self_eq, ← mul_self_eq]

/-! ### Without gravity -/

section Weightless

variable {gravity height : Float} {b : Body}

theorem hasValue_weight (hgravity : gravity == 0) (b : Body) :
    HasValue (b.mass * gravity) ((0 : ℝ) : EReal) := by
  rw [times_comm]
  exact (hasValue_of_beq_zero hgravity).zero_mul b.validMass.1

theorem ofBody_eq_kinetic (hgravity : gravity == 0) (h : (height - b.rect.y).isFinite) :
    ofBody gravity height b = kinetic b :=
  (unsigned_kinetic b).add_zero ((hasValue_weight hgravity b).zero_mul h)

/-- If the way to the reference height overflows, the energy is no number. -/
theorem isFinite_of_ofBody (hgravity : gravity == 0) (hheight : height.isFinite) (hb : b.Finite)
    (h : ¬ (ofBody gravity height b).isNaN) : (height - b.rect.y).isFinite := by
  obtain ⟨r, hr⟩ := exists_hasValue_of_isFinite hheight
  obtain ⟨t, ht⟩ := exists_hasValue_of_isFinite hb.y
  have hweight := hasValue_weight hgravity b
  by_contra hroom
  have hinf : (height - b.rect.y).isInf := by
    by_contra hinf
    exact hroom ((isFinite_iff _).mpr (not_or.mpr ⟨(hr.sub ht).not_isNaN, hinf⟩))
  have hpotential : (b.mass * gravity * (height - b.rect.y)).isNaN := by
    rw [times_comm]
    exact (isNaN_mul_iff hweight.isFinite.1).mpr (.inr ⟨hinf, hweight⟩)
  rw [ofBody, plus_comm] at h
  exact h (isNaN_add _ hpotential)

end Weightless

/-! ### Sums -/

theorem foldl_add_le {α : Type} {f f' : α → Float} {l : List α} {z z' : Float} (h0 : 0 ≤ z')
    (hz : z' ≤ z) (h : ∀ a ∈ l, 0 ≤ f' a ∧ f' a ≤ f a) :
    (l.map f').foldl (· + ·) z' ≤ (l.map f).foldl (· + ·) z := by
  induction l generalizing z z' with
  | nil => exact hz
  | cons a l ih =>
    obtain ⟨ha0, ha⟩ := h a List.mem_cons_self
    obtain ⟨hsum0, hsum⟩ := add_le_add_of_nonneg h0 hz ha0 ha
    exact ih hsum0 hsum fun c hc => h c (List.mem_cons_of_mem a hc)

theorem isNaN_foldl_add {xs : List Float} {z : Float} (h : z.isNaN) :
    (xs.foldl (· + ·) z).isNaN := by
  induction xs generalizing z with
  | nil => exact h
  | cons x xs ih => exact ih (isNaN_add x h)

/-- A term that is no number makes the sum none. -/
theorem isNaN_foldl_add_of_mem {xs : List Float} {z x : Float} (hx : x ∈ xs) (h : x.isNaN) :
    (xs.foldl (· + ·) z).isNaN := by
  induction xs generalizing z with
  | nil => cases hx
  | cons y xs ih =>
    rcases List.mem_cons.mp hx with rfl | hx
    · have hsum : (z + x).isNaN := by
        rw [plus_comm]
        exact isNaN_add z h
      show (xs.foldl (· + ·) (z + x)).isNaN
      exact isNaN_foldl_add hsum
    · exact ih hx

/-- If nothing overflows, the total energy is a number. -/
theorem not_isNaN_total {gravity height : Float} (hgravity : gravity == 0) {s : List Body}
    (h : ∀ b ∈ s, b.isDynamic →
      (height - b.rect.y).isFinite ∧ (b.vx * b.vx + b.vy * b.vy).isFinite) :
    ¬ (total gravity height s).isNaN := by
  have hterm : ∀ b ∈ s.filter Body.isDynamic,
      0 ≤ ofBody gravity height b ∧ ofBody gravity height b ≤ ofBody gravity height b := by
    intro b hb
    obtain ⟨hroom, hsquare⟩ := h b (List.mem_of_mem_filter hb) (List.of_mem_filter hb)
    obtain ⟨r, hr⟩ := exists_hasValue_of_isFinite (half_mass b).2.1
    obtain ⟨t, ht⟩ := exists_hasValue_of_isFinite hsquare
    have hvalue : HasValue (kinetic b) (nearest (r * t)) := hr.mul ht
    rw [ofBody_eq_kinetic hgravity hroom]
    exact ⟨(unsigned_kinetic b).nonneg hvalue.not_isNaN, (hvalue.le_iff hvalue).mpr le_rfl⟩
  have hsum : total gravity height s ≤ total gravity height s :=
    foldl_add_le (by decide) (by decide) hterm
  obtain ⟨v, -, hv, -, -⟩ := exists_hasValue_of_le hsum
  exact hv.not_isNaN

/-! ### One step -/

section Step

variable {power : Float → Float → Float} {bounds : Bounds} {params : MotionParams} {dts : List Float}
  {dt height : Float} {b : Body}

open Motion

theorem advance_mass (dt kept gravity : Float) (bounds : Bounds) (b : Body) :
    (advance dt kept gravity bounds b).mass = b.mass := by
  rw [advance_rest]
  rfl

theorem advance_isDynamic (dt kept gravity : Float) (bounds : Bounds) (b : Body) :
    (advance dt kept gravity bounds b).isDynamic = b.isDynamic := by
  rw [advance_rest]
  rfl

/-- Without gravity no body gets faster. -/
theorem speed_le (h : Admissible power bounds params dts) (hgravity : params.gravity == 0)
    (hdt : dt ∈ dts) (hb : b.Finite) (hdynamic : b.isDynamic) :
    (advanceBy power dt bounds params b).vx.abs ≤ b.vx.abs ∧
      (advanceBy power dt bounds params b).vy.abs ≤ b.vy.abs := by
  obtain ⟨hfall, habs⟩ := abs_add_zero hb.vy (h.hasValue_pull hgravity hdt)
  refine ⟨advance_vx_abs_le hdynamic (h.kept hdt) hb.vx, ?_⟩
  rw [← habs]
  exact advance_vy_abs_le hdynamic (h.kept hdt) hfall

/-- Without gravity and damping every body keeps its speed. -/
theorem speed_eq (h : Admissible power bounds params dts) (hgravity : params.gravity == 0)
    (hdamping : params.damping = 1) (hdt : dt ∈ dts) (hb : b.Finite) (hdynamic : b.isDynamic) :
    (advanceBy power dt bounds params b).vx.abs = b.vx.abs ∧
      (advanceBy power dt bounds params b).vy.abs = b.vy.abs := by
  obtain ⟨hfall, habs⟩ := abs_add_zero hb.vy (h.hasValue_pull hgravity hdt)
  have hkept : params.keptBy power dt = 1 := by
    rw [MotionParams.keptBy, hdamping, if_neg (by decide)]
  rw [(advance_horizontal hdynamic).speed, (advance_vertical hdynamic).speed, hkept,
    abs_mul_one hb.vx, abs_mul_one hfall, habs]
  exact ⟨rfl, rfl⟩

theorem ofBody_step (h : Admissible power bounds params dts) (hgravity : params.gravity == 0)
    (hheight : height.isFinite) (hdt : dt ∈ dts) (hb : b.Finite) (hdynamic : b.isDynamic)
    (hbefore : ¬ (ofBody params.gravity height b).isNaN)
    (hroom : (height - (advanceBy power dt bounds params b).rect.y).isFinite) :
    (0 ≤ ofBody params.gravity height (advanceBy power dt bounds params b) ∧
      ofBody params.gravity height (advanceBy power dt bounds params b) ≤
        ofBody params.gravity height b) ∧
      (params.damping = 1 →
        ofBody params.gravity height (advanceBy power dt bounds params b) =
          ofBody params.gravity height b) := by
  have hmass := advance_mass dt (params.keptBy power dt) params.gravity bounds b
  have heq := ofBody_eq_kinetic hgravity (isFinite_of_ofBody hgravity hheight hb hbefore)
  rw [ofBody_eq_kinetic hgravity hroom]
  rw [heq] at hbefore ⊢
  constructor
  · obtain ⟨hvx, hvy⟩ := speed_le h hgravity hdt hb hdynamic
    exact kinetic_le hmass hb (h.finite_of_weightless hgravity hdt hb) hvx hvy hbefore
  · intro hdamping
    obtain ⟨hvx, hvy⟩ := speed_eq h hgravity hdamping hdt hb hdynamic
    exact kinetic_congr hmass hvx hvy

theorem total_map_advance (dt kept gravity height : Float) (bounds : Bounds) (s : List Body) :
    total gravity height (s.map (advance dt kept gravity bounds)) =
      ((s.filter Body.isDynamic).map fun b =>
        ofBody gravity height (advance dt kept gravity bounds b)).foldl (· + ·) (-0.0) := by
  have hdynamic : Body.isDynamic ∘ advance dt kept gravity bounds = Body.isDynamic :=
    funext (advance_isDynamic dt kept gravity bounds)
  rw [total, List.filter_map, hdynamic, List.map_map]
  rfl

theorem not_isNaN_of_total {gravity : Float} {s : List Body}
    (h : ¬ (total gravity height s).isNaN) (hb : b ∈ s.filter Body.isDynamic) :
    ¬ (ofBody gravity height b).isNaN :=
  fun hnan => h (isNaN_foldl_add_of_mem (List.mem_map_of_mem hb) hnan)

/-- A step without gravity does not raise the total energy, and without damping it keeps it. -/
theorem total_step {s : List Body} (h : Admissible power bounds params dts)
    (hgravity : params.gravity == 0) (hheight : height.isFinite) (hdt : dt ∈ dts)
    (hs : ∀ b ∈ s, b.Finite) (hbefore : ¬ (total params.gravity height s).isNaN)
    (hroom : ∀ b ∈ s.filter Body.isDynamic,
      (height - (advanceBy power dt bounds params b).rect.y).isFinite) :
    total params.gravity height (s.map (advanceBy power dt bounds params)) ≤
        total params.gravity height s ∧
      (params.damping = 1 → total params.gravity height (s.map (advanceBy power dt bounds params)) =
        total params.gravity height s) := by
  have hstep : ∀ b ∈ s.filter Body.isDynamic, _ := fun b hb =>
    ofBody_step h hgravity hheight hdt (hs b (List.mem_of_mem_filter hb)) (List.of_mem_filter hb)
      (not_isNaN_of_total hbefore hb) (hroom b hb)
  rw [total_map_advance]
  constructor
  · exact foldl_add_le (by decide) (by decide) fun b hb => (hstep b hb).1
  · intro hdamping
    exact congrArg (List.foldl (· + ·) (-0.0))
      (List.map_congr_left fun b hb => (hstep b hb).2 hdamping)

/-- The walls keep a body at a finite distance from the reference height. -/
theorem isFinite_room (h : Admissible power bounds params dts) (hgravity : params.gravity == 0)
    (hheight : height.isFinite) (hfar : (height - bounds.height).isFinite) (hdt : dt ∈ dts)
    (hb : b.Finite) (hdynamic : b.isDynamic) :
    (height - (advanceBy power dt bounds params b).rect.y).isFinite := by
  have hy := (h.finite_of_weightless hgravity hdt hb).y
  obtain ⟨h0, hle⟩ := (advance_vertical hdynamic).inside.resolve_left (not_isNaN_of_isFinite hy)
  have hlimit := (farLimit_height_le h.walls b.rect).2
  exact isFinite_sub_of_mem hheight (Bounds.isFinite_of_validate h.walls).2 h0
    (Binary64.le_trans hle hlimit) hfar

/-! ### Runs -/

/-- Between two states whose energies are numbers, the energy does not rise. -/
theorem isChain_total {bodies : List Body} (h : Admissible power bounds params dts)
    (hgravity : params.gravity == 0) (hheight : height.isFinite) (hfin : ∀ b ∈ bodies, b.Finite) :
    (course power bounds params dts bodies).IsChain fun s s' =>
      ¬ (total params.gravity height s).isNaN → ¬ (total params.gravity height s').isNaN →
        total params.gravity height s' ≤ total params.gravity height s ∧
          (params.damping = 1 → total params.gravity height s' = total params.gravity height s) := by
  refine course_isChain (P := fun s => ∀ b ∈ s, b.Finite) hfin
    (fun dt hdt s hs => h.map_finite hgravity hdt hs) ?_
  intro dt hdt s hs hbefore hafter
  refine total_step h hgravity hheight hdt hs hbefore fun b hb => ?_
  have hb' := h.finite_of_weightless hgravity hdt (hs b (List.mem_of_mem_filter hb))
  rw [total_map_advance] at hafter
  refine isFinite_of_ofBody hgravity hheight hb' fun hnan => hafter ?_
  exact isNaN_foldl_add_of_mem (List.mem_map.mpr ⟨b, hb, rfl⟩) hnan

/-- If the arena is at a finite distance from the reference height, an energy that is a number stays
one. -/
theorem isChain_total_of_isFinite {bodies : List Body} (h : Admissible power bounds params dts)
    (hgravity : params.gravity == 0) (hheight : height.isFinite) (hfin : ∀ b ∈ bodies, b.Finite)
    (hfar : (height - bounds.height).isFinite)
    (hstart : ¬ (total params.gravity height bodies).isNaN) :
    (course power bounds params dts bodies).IsChain fun s s' =>
      total params.gravity height s' ≤ total params.gravity height s ∧
        (params.damping = 1 → total params.gravity height s' = total params.gravity height s) := by
  have hstep (dt : Float) (hdt : dt ∈ dts) (s : List Body)
      (hs : (∀ b ∈ s, b.Finite) ∧ ¬ (total params.gravity height s).isNaN) :=
    total_step h hgravity hheight hdt hs.1 hs.2 fun b hb => isFinite_room h hgravity hheight hfar hdt
      (hs.1 b (List.mem_of_mem_filter hb)) (List.of_mem_filter hb)
  refine course_isChain ⟨hfin, hstart⟩ (fun dt hdt s hs => ⟨h.map_finite hgravity hdt hs.1, ?_⟩) hstep
  -- what can be compared is a number
  obtain ⟨v, -, hv, -, -⟩ := exists_hasValue_of_le (hstep dt hdt s hs).1
  exact hv.not_isNaN

end Step

end Energy

namespace Motion

open Energy

variable {power : Float → Float → Float} {bounds : Bounds} {params : MotionParams}

/-- **Without gravity, energy never rises.**  An admissible run from finite bodies is never refused, and from
each state to the next the total energy does not rise; without damping it does not change at all.  This is
said of energies that are numbers.  The energy is a number at the start if neither a square of a speed nor
a distance from the reference height overflows, and it is one all along if the arena, too, is at a finite
distance from that height. -/
theorem energy_never_rises {dts : List Float} {bodies : List Body} {height : Float}
    (h : Admissible power bounds params dts) (hgravity : params.gravity == 0)
    (hheight : height.isFinite) (hfin : ∀ b ∈ bodies, b.Finite) :
    (∀ dt s, integrate dt bounds params s = integrateBy Float.pow dt bounds params s) ∧
    ∃ states, trajectory power bounds params dts bodies = .ok states ∧
      (states.map (total params.gravity height)).IsChain (fun before after =>
        ¬ before.isNaN → ¬ after.isNaN →
          after ≤ before ∧ (params.damping = 1 → after = before)) ∧
      ((∀ b ∈ bodies, b.isDynamic →
          (height - b.rect.y).isFinite ∧ (b.vx * b.vx + b.vy * b.vy).isFinite) →
        ¬ (total params.gravity height bodies).isNaN) ∧
      ((height - bounds.height).isFinite → ¬ (total params.gravity height bodies).isNaN →
        (states.map (total params.gravity height)).IsChain fun before after =>
          after ≤ before ∧ (params.damping = 1 → after = before)) := by
  refine ⟨fun dt s => integrate_eq_integrateBy dt bounds params s, _, h.trajectory_eq bodies, ?_,
    not_isNaN_total hgravity, ?_⟩
  · rw [List.isChain_map]
    exact isChain_total h hgravity hheight hfin
  · intro hfar hstart
    rw [List.isChain_map]
    exact isChain_total_of_isFinite h hgravity hheight hfin hfar hstart

/-- Two bodies, one of which runs into the corner at the origin, with damping and without.  Without
damping the energy is the same in all four states. -/
theorem energy_never_rises_corner :
    ∃ bodies states states', bodies.length = 2 ∧
      trajectory (fun d t => if t ≤ 1 then d else d * d) {} { gravity := -0.0, damping := 0.5 } [1, 2] bodies =
        .ok states ∧
      (states.map (total (-0.0) 600)).IsChain (fun before after => after ≤ before) ∧
      trajectory Float.pow {} {} [1, 0.5, 30] bodies = .ok states' ∧
      (states'.map (total 0 600)).IsChain (fun before after => after = before) := by
  have hdamped : Admissible (fun d t => if t ≤ 1 then d else d * d) {}
      { gravity := -0.0, damping := 0.5 } [1, 2] := ⟨rfl, rfl, by decide +kernel, by decide +kernel⟩
  have hfree : Admissible Float.pow {} {} [1, 0.5, 30] :=
    ⟨rfl, rfl, by decide +kernel, fun _ _ h => absurd h (by decide)⟩
  have hfin : ∀ b ∈ [(⟨0, ⟨2, 1, 10, 10, by decide⟩, -3, -4, 2, false, false, by decide⟩ : Body),
      ⟨1, ⟨300, 200, 5, 7, by decide⟩, 0.1, 70, 0.3, false, false, by decide⟩], b.Finite := by
    refine List.forall_mem_cons.mpr ⟨⟨rfl, rfl, rfl, rfl⟩, ?_⟩
    exact List.forall_mem_singleton.mpr ⟨rfl, rfl, rfl, rfl⟩
  have hheight : (600 : Float).isFinite := rfl
  obtain ⟨-, states, hrun, -, hnumber, hchain⟩ := energy_never_rises hdamped rfl hheight hfin
  obtain ⟨-, states', hrun', -, hnumber', hchain'⟩ := energy_never_rises hfree rfl hheight hfin
  have hchain := hchain (by decide) (hnumber (by decide +kernel))
  have hchain' := hchain' (by decide) (hnumber' (by decide +kernel))
  exact ⟨_, states, states', rfl, hrun, hchain.imp fun _ _ h => h.1, hrun', hchain'.imp fun _ _ h => h.2 rfl⟩

end Motion

end Broadphase
