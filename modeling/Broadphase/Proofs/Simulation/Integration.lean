import Broadphase.Proofs.Simulation.FailedTick
import Broadphase.Proofs.Simulation.ValidSettings

/-! # A step moves every body by itself

Before a step of motion its length, the walls and the parameters are checked, and the first check that
fails is reported (`check_eq`).  A step that is not refused moves every body in its place, and how a body
moves depends on no other one (`integrate_eq`); of a dynamic body only the corner and the velocity change
(`advance_of_static`, `advance_rest`).  So bodies may be moved together or apart, in any selection and in any
order (`integrate_bodywise`). -/

namespace Broadphase

namespace Binary64

theorem not_finite_pos_iff {x : Float} : ¬ (x.isFinite ∧ x > 0) ↔ ¬ x.isFinite ∨ x ≤ 0 := by
  by_cases hfin : x.isFinite
  · obtain ⟨r, hr⟩ := exists_hasValue_of_isFinite hfin
    have hsign : ¬ x > 0 ↔ x ≤ 0 := by
      show ¬ 0 < x ↔ x ≤ 0
      rw [hasValue_zero.lt_iff hr, hr.le_iff hasValue_zero, not_lt]
    simp [hfin, hsign]
  · simp [hfin]

end Binary64

open Binary64

namespace Motion

variable {dt : Float} {bounds : Bounds} {params : MotionParams}

/-! ### The checks before a step -/

/-- The step is not finite or goes back in time. -/
def BadStep (dt : Float) : Prop := ¬ dt.isFinite ∨ dt < 0

/-- A side of the arena is not finite or not positive. -/
def BadBounds (bounds : Bounds) : Prop :=
  (¬ bounds.width.isFinite ∨ bounds.width ≤ 0) ∨ (¬ bounds.height.isFinite ∨ bounds.height ≤ 0)

/-- The damping lies outside of the interval from zero, exclusive, to one. -/
def BadDamping (damping : Float) : Prop := ¬ (0 < damping ∧ damping ≤ 1)

instance (dt : Float) : Decidable (BadStep dt) := inferInstanceAs (Decidable (_ ∨ _))

instance (bounds : Bounds) : Decidable (BadBounds bounds) := inferInstanceAs (Decidable (_ ∨ _))

instance (damping : Float) : Decidable (BadDamping damping) := inferInstanceAs (Decidable (¬ _))

/-- What is wrong with a step, in the order of the checks. -/
def faults (dt : Float) (bounds : Bounds) (params : MotionParams) : List SimulationError :=
  (if BadStep dt then [.deltaTime dt] else []) ++
  (if BadBounds bounds then [.bounds bounds.width bounds.height] else []) ++
  (if ¬ params.gravity.isFinite then [.gravity params.gravity] else []) ++
  (if BadDamping params.damping then [.damping params.damping] else [])

theorem faults_ne_nil_iff :
    faults dt bounds params ≠ [] ↔
      BadStep dt ∨ BadBounds bounds ∨ ¬ params.gravity.isFinite ∨ BadDamping params.damping := by
  simp only [faults, ne_eq, List.append_eq_nil_iff, ite_eq_right_iff, List.cons_ne_nil, imp_false]
  tauto

theorem badStep_iff : BadStep dt ↔ ¬ ValidStep dt := by
  rw [not_validStep_iff, BadStep, isFinite_iff, not_not, or_assoc]

theorem validate_of_badBounds (h : BadBounds bounds) :
    bounds.validate = .error (.bounds bounds.width bounds.height) := by
  rw [BadBounds, ← not_finite_pos_iff, ← not_finite_pos_iff, ← not_and_or] at h
  exact if_neg h

theorem validate_of_not_badBounds (h : ¬ BadBounds bounds) : bounds.validate = .ok () := by
  rw [BadBounds, ← not_finite_pos_iff, ← not_finite_pos_iff, ← not_and_or, not_not] at h
  exact if_pos h

theorem validate_params_eq (params : MotionParams) :
    params.validate =
      if ¬ params.gravity.isFinite then .error (.gravity params.gravity)
      else if BadDamping params.damping then .error (.damping params.damping)
      else .ok () := rfl

/-- The first fault is reported. -/
theorem check_eq (dt : Float) (bounds : Bounds) (params : MotionParams) :
    check dt bounds params = (faults dt bounds params).head?.elim (.ok ()) .error := by
  by_cases hdt : BadStep dt
  · have hinvalid : ¬ (dt.isFinite ∧ dt ≥ 0) := badStep_iff.mp hdt
    have hfirst : (faults dt bounds params).head? = some (.deltaTime dt) := by simp [faults, hdt]
    simp only [check, if_neg hinvalid, hfirst]
    rfl
  have hvalid : dt.isFinite ∧ dt ≥ 0 := not_not.mp (mt badStep_iff.mpr hdt)
  simp only [check, if_pos hvalid]
  by_cases hbounds : BadBounds bounds
  · have hfirst : (faults dt bounds params).head? = some (.bounds bounds.width bounds.height) := by
      simp [faults, hdt, hbounds]
    rw [validate_of_badBounds hbounds, hfirst]
    rfl
  rw [validate_of_not_badBounds hbounds, validate_params_eq]
  by_cases hgravity : ¬ params.gravity.isFinite
  · have hfirst : (faults dt bounds params).head? = some (.gravity params.gravity) := by
      simp [faults, hdt, hbounds, hgravity]
    rw [if_pos hgravity, hfirst]
    rfl
  rw [if_neg hgravity]
  by_cases hdamping : BadDamping params.damping
  · have hfirst : (faults dt bounds params).head? = some (.damping params.damping) := by
      simp [faults, hdt, hbounds, not_not.mp hgravity, hdamping]
    rw [if_pos hdamping, hfirst]
    rfl
  · have hfirst : (faults dt bounds params).head? = none := by
      simp [faults, hdt, hbounds, not_not.mp hgravity, hdamping]
    rw [if_neg hdamping, hfirst]
    rfl

theorem integrate_eq (dt : Float) (bounds : Bounds) (params : MotionParams) (bodies : List Body) :
    integrate dt bounds params bodies = (faults dt bounds params).head?.elim
      (.ok (bodies.map (advance dt (params.kept dt) params.gravity bounds))) .error := by
  unfold integrate
  rw [check_eq]
  cases (faults dt bounds params).head? with
  | none => rfl
  | some e => rfl

/-! ### One body -/

theorem advance_of_static {b : Body} (h : b.isStatic) (dt kept gravity : Float) (bounds : Bounds) :
    advance dt kept gravity bounds b = b := by
  unfold advance
  rw [if_pos h]

/-- A step changes the corner and the velocity of a body only. -/
theorem advance_rest (dt kept gravity : Float) (bounds : Bounds) (b : Body) :
    let moved := advance dt kept gravity bounds b
    moved = { b.moveTo moved.rect.x moved.rect.y with vx := moved.vx, vy := moved.vy } := by
  unfold advance
  by_cases h : b.isStatic
  · simp only [if_pos h]
    rfl
  · simp only [if_neg h]
    rfl

/-! ### All bodies -/

theorem integrate_append (dt : Float) (bounds : Bounds) (params : MotionParams) (front back : List Body) :
    integrate dt bounds params (front ++ back) = (do
      let front ← integrate dt bounds params front
      let back ← integrate dt bounds params back
      return front ++ back) := by
  simp only [integrate_eq, List.map_append]
  cases (faults dt bounds params).head? with
  | none => rfl
  | some e => rfl

/-- The bodies at the given positions, in the order in which the positions are given. -/
def select (places : List ℕ) (bodies : List Body) : List Body := places.filterMap (bodies[·]?)

theorem integrate_select (dt : Float) (bounds : Bounds) (params : MotionParams) (places : List ℕ)
    (bodies : List Body) :
    integrate dt bounds params (select places bodies) =
      (integrate dt bounds params bodies).map (select places) := by
  have hselect (f : Body → Body) : (select places bodies).map f = select places (bodies.map f) := by
    simp only [select, List.map_filterMap, List.getElem?_map]
  simp only [integrate_eq, hselect]
  cases (faults dt bounds params).head? with
  | none => rfl
  | some e => rfl

theorem select_positions (bodies : List Body) (positions : List (Fin bodies.length)) :
    select (positions.map Fin.val) bodies = positions.map fun i => bodies[i] := by
  unfold select
  rw [List.filterMap_map, ← List.filterMap_eq_map]
  exact List.filterMap_congr fun i _ => List.getElem?_eq_getElem i.isLt

/-- A part of a list has its bodies at increasing positions. -/
theorem exists_select_of_sublist {part bodies : List Body} (h : part.Sublist bodies) :
    ∃ places : List ℕ, places.Pairwise (· < ·) ∧ part = select places bodies := by
  obtain ⟨positions, rfl, hincreasing⟩ := List.sublist_eq_map_getElem h
  refine ⟨positions.map Fin.val, List.pairwise_map.mpr hincreasing, ?_⟩
  exact (select_positions bodies positions).symm

/-- A rearranged list has its bodies at the same positions in another order. -/
theorem exists_select_of_perm {other bodies : List Body} (h : other.Perm bodies) :
    ∃ places : List ℕ, places.Perm (List.range bodies.length) ∧ other = select places bodies := by
  have hcomp : Relation.Comp (fun other positions => other = positions.map fun i => bodies[i])
      List.Perm other (List.finRange bodies.length) := by
    rw [List.eq_map_comp_perm]
    exact h.trans (.of_eq (List.map_getElem_finRange bodies).symm)
  obtain ⟨positions, rfl, hperm⟩ := hcomp
  refine ⟨positions.map Fin.val, ?_, (select_positions bodies positions).symm⟩
  rw [← List.map_coe_finRange_eq_range]
  exact hperm.map _

/-- A loop whose bodies cannot be moved keeps them as they are after the edits. -/
theorem step_of_fault {l : Loop} {e : SimulationError}
    (h : (faults dt l.config.bounds l.config.motion).head? = some e) (time : WorkTime) :
    l.step dt time = .ok (l.applyEdits, .error e) := by
  have hrefused : integrate dt l.config.bounds l.config.motion l.applyEdits.bodies = .error e := by
    rw [integrate_eq, h]
    rfl
  rw [Loop.step_eq]
  unfold Loop.result
  rw [hrefused]
  rfl

/-- **A step moves every body by itself.**  A step is refused exactly if its length, the walls, the
gravity or the damping is bad; the first of these faults is reported, for whatever bodies, and a loop
keeps its bodies.  Otherwise there is one way to move a body, which leaves static ones alone and changes
nothing but corner and velocity of the others, and every list of bodies is moved by it, each body in its
place.  So lists that are put together, parts of a list and rearranged lists are moved like their bodies. -/
theorem integrate_bodywise (dt : Float) (bounds : Bounds) (params : MotionParams) :
    (∀ bodies, (∃ e, integrate dt bounds params bodies = .error e) ↔
      BadStep dt ∨ BadBounds bounds ∨ ¬ params.gravity.isFinite ∨ BadDamping params.damping) ∧
    (∀ e, (faults dt bounds params).head? = some e →
      (∀ bodies, integrate dt bounds params bodies = .error e) ∧
      ∀ l : Loop, l.config.bounds = bounds → l.config.motion = params →
        ∀ time, l.step dt time = .ok (l.applyEdits, .error e)) ∧
    (faults dt bounds params = [] → ∃ move : Body → Body,
      (∀ bodies, integrate dt bounds params bodies = .ok (bodies.map move)) ∧
      (∀ b, b.isStatic → move b = b) ∧
      ∀ b, move b = { b.moveTo (move b).rect.x (move b).rect.y with
        vx := (move b).vx, vy := (move b).vy }) ∧
    (∀ front back, integrate dt bounds params (front ++ back) = (do
      let front ← integrate dt bounds params front
      let back ← integrate dt bounds params back
      return front ++ back)) ∧
    (∀ part bodies, part.Sublist bodies → ∃ places : List ℕ, places.Pairwise (· < ·) ∧
      part = select places bodies ∧
      integrate dt bounds params part = (integrate dt bounds params bodies).map (select places)) ∧
    (∀ other bodies, other.Perm bodies → ∃ places : List ℕ, places.Perm (List.range bodies.length) ∧
      other = select places bodies ∧
      integrate dt bounds params other = (integrate dt bounds params bodies).map (select places)) := by
  refine ⟨?_, ?_, ?_, integrate_append dt bounds params, ?_, ?_⟩
  · intro bodies
    rw [← faults_ne_nil_iff, integrate_eq]
    cases faults dt bounds params with
    | nil => simp
    | cons e es => simp
  · intro e he
    refine ⟨fun bodies => ?_, ?_⟩
    · rw [integrate_eq, he]
      rfl
    · rintro l rfl rfl
      exact step_of_fault he
  · intro hnone
    refine ⟨advance dt (params.kept dt) params.gravity bounds, fun bodies => ?_,
      fun b hb => advance_of_static hb _ _ _ _, advance_rest _ _ _ _⟩
    rw [integrate_eq, hnone]
    rfl
  · intro part bodies hpart
    obtain ⟨places, hplaces, rfl⟩ := exists_select_of_sublist hpart
    exact ⟨places, hplaces, rfl, integrate_select dt bounds params places bodies⟩
  · intro other bodies hperm
    obtain ⟨places, hplaces, rfl⟩ := exists_select_of_perm hperm
    exact ⟨places, hplaces, rfl, integrate_select dt bounds params places bodies⟩

/-- A step of no number between walls without width and with too much damping is refused for its length, and
a proper step for the walls; with proper walls and damping there is a way to move every list. -/
theorem integrate_bodywise_faults :
    (∀ bodies, integrate (0 / 0) { width := 0 } { damping := 2 } bodies = .error (.deltaTime (0 / 0))) ∧
      (∀ bodies, integrate 1 { width := 0 } { damping := 2 } bodies = .error (.bounds 0 600)) ∧
      (∀ bodies, integrate 1 {} { damping := 2 } bodies = .error (.damping 2)) ∧
      ∃ move : Body → Body,
        (∀ bodies, integrate 1 {} { damping := 0.5 } bodies = .ok (bodies.map move)) ∧
        ∀ b, b.isStatic → move b = b := by
  obtain ⟨-, hlength, -⟩ := integrate_bodywise (0 / 0) { width := 0 } { damping := 2 }
  obtain ⟨-, hwalls, -⟩ := integrate_bodywise 1 { width := 0 } { damping := 2 }
  obtain ⟨-, hdamping, -⟩ := integrate_bodywise 1 {} { damping := 2 }
  obtain ⟨-, -, hmove, -⟩ := integrate_bodywise 1 {} { damping := 0.5 }
  obtain ⟨move, hbodies, hstatic, -⟩ := hmove (by decide +kernel)
  exact ⟨(hlength _ (by decide +kernel)).1, (hwalls _ (by decide +kernel)).1,
    (hdamping _ (by decide +kernel)).1, move, hbodies, hstatic⟩

end Motion

end Broadphase
