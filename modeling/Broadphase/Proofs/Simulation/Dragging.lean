import Broadphase.Proofs.Simulation.Walls
import Broadphase.Simulation.Edit

/-! # Drags end where the walls would put a body

A drag brings each coordinate of its target between the walls by `clamp`, and a step of motion does so by
`contain`.  Both limits of the clamp are numbers and in order, whatever the bound is
(`clamp?_farLimit`), so the clamp is defined; its value is the point between the limits that is nearest to
the target (`HasValue.clamp`), and `contain` ends at the same point (`contain_fst_eq`).  What stands
between the walls is left alone by them (`contain_contain`).  So a drag to a finite target always ends,
and ends where the walls would put the body (`drag_agrees_with_walls`). -/

namespace Broadphase

/-! ### Clamping -/

namespace Binary64

/-- `clamp` between limits that must be numbers in order; otherwise there is no result. -/
def clamp? (lo hi x : Float) : Option Float := if lo ≤ hi then some (clamp lo hi x) else none

theorem clamp_of_lt {lo hi x : Float} (hlt : x < lo) (hle : ¬ hi < lo) : clamp lo hi x = lo := by
  have hgt : ¬ lo > hi := hle
  simp only [clamp, if_pos hlt, if_neg hgt]

theorem clamp_of_gt {lo hi x : Float} (hlo : ¬ x < lo) (hgt : hi < x) : clamp lo hi x = hi := by
  have hgt : x > hi := hgt
  simp only [clamp, if_neg hlo, if_pos hgt]

theorem clamp_of_between {lo hi x : Float} (hlo : ¬ x < lo) (hhi : ¬ hi < x) : clamp lo hi x = x := by
  have hhi : ¬ x > hi := hhi
  simp only [clamp, if_neg hlo, if_neg hhi]

/-- Clamping takes a number to the nearest one between the limits. -/
theorem HasValue.clamp {lo hi x : Float} {a b v : EReal} (hlo : HasValue lo a) (hhi : HasValue hi b)
    (hx : HasValue x v) (hab : a ≤ b) : HasValue (clamp lo hi x) (max a (min b v)) := by
  by_cases hlt : x < lo
  · have hva : v < a := (hx.lt_iff hlo).mp hlt
    have hle : ¬ hi < lo := by
      rw [hhi.lt_iff hlo]
      exact hab.not_gt
    rw [clamp_of_lt hlt hle, max_eq_left ((min_le_right b v).trans hva.le)]
    exact hlo
  have hav : a ≤ v := by
    rw [hx.lt_iff hlo] at hlt
    exact not_lt.mp hlt
  by_cases hgt : hi < x
  · have hbv : b < v := (hhi.lt_iff hx).mp hgt
    rw [clamp_of_gt hlt hgt, min_eq_left hbv.le, max_eq_right hab]
    exact hhi
  · have hvb : v ≤ b := by
      rw [hhi.lt_iff hx] at hgt
      exact not_lt.mp hgt
    rw [clamp_of_between hlt hgt, min_eq_right hvb, max_eq_right hav]
    exact hx

end Binary64

open Binary64

/-! ### One axis -/

namespace Motion

theorem clamp?_farLimit (extent bound pos : Float) :
    clamp? 0 (farLimit extent bound) pos = some (clamp 0 (farLimit extent bound) pos) :=
  if_pos (farLimit_nonneg extent bound)

theorem not_farLimit_lt_zero (extent bound : Float) : ¬ farLimit extent bound < 0 := by
  obtain ⟨v, hv, h0⟩ := exists_hasValue_farLimit extent bound
  rw [hv.lt_iff hasValue_zero]
  exact h0.not_gt

theorem not_farLimit_lt_self (extent bound : Float) :
    ¬ farLimit extent bound < farLimit extent bound := by
  obtain ⟨v, hv, -⟩ := exists_hasValue_farLimit extent bound
  rw [hv.lt_iff hv]
  exact lt_irrefl v

/-- Walls and drags take a position to the same point. -/
theorem contain_fst_eq (pos vel extent bound : Float) :
    (contain pos vel extent bound).1 = clamp 0 (farLimit extent bound) pos := by
  by_cases hneg : pos < 0
  · rw [contain_of_neg hneg, clamp_of_lt hneg (not_farLimit_lt_zero extent bound)]
  by_cases hfar : farLimit extent bound < pos
  · rw [contain_of_farLimit_lt hfar, clamp_of_gt hneg hfar]
  · rw [contain_of_between hneg hfar, clamp_of_between hneg hfar]

/-- The walls leave alone what they have contained. -/
theorem contain_contain (pos vel extent bound : Float) :
    contain (contain pos vel extent bound).1 (contain pos vel extent bound).2 extent bound =
      contain pos vel extent bound := by
  by_cases hneg : pos < 0
  · rw [contain_of_neg hneg]
    exact contain_of_between (by decide) (not_farLimit_lt_zero extent bound) _
  by_cases hfar : farLimit extent bound < pos
  · rw [contain_of_farLimit_lt hfar]
    exact contain_of_between (not_farLimit_lt_zero extent bound) (not_farLimit_lt_self extent bound) _
  · rw [contain_of_between hneg hfar]
    exact contain_of_between hneg hfar vel

/-- A position that is a number is put between the walls. -/
theorem contain_fst_mem {pos : Float} (hpos : ¬ pos.isNaN) (vel extent bound : Float) :
    0 ≤ (contain pos vel extent bound).1 ∧
      (contain pos vel extent bound).1 ≤ farLimit extent bound := by
  have hnumber : pos.isNaN = false := by simpa using hpos
  obtain ⟨p, hp⟩ := exists_hasValue hnumber
  obtain ⟨v, hv, h0⟩ := exists_hasValue_farLimit extent bound
  have hclamp := hasValue_zero.clamp hv hp h0
  rw [contain_fst_eq, hasValue_zero.le_iff hclamp, hclamp.le_iff hv]
  exact ⟨le_max_left _ _, max_le h0 (min_le_left _ _)⟩

end Motion

/-! ### Drags -/

namespace Edit

open Motion

/-- A drag whose clamps may have no result. -/
def dragTo? (bounds : Bounds) (x y : Float) (b : Body) : Option Body :=
  if x.isFinite ∧ y.isFinite then do
    let x ← clamp? 0 (farLimit b.rect.width bounds.width) x
    let y ← clamp? 0 (farLimit b.rect.height bounds.height) y
    return { b.moveTo x y with vx := 0, vy := 0 }
  else return b

theorem dragTo?_eq (bounds : Bounds) (x y : Float) (b : Body) :
    dragTo? bounds x y b = some (dragTo bounds x y b) := by
  simp only [dragTo?, dragTo, clamp?_farLimit]
  split_ifs <;> rfl

/-- A drag of the first body with the given identifier, whose clamps may have no result. -/
def dragFirst? (bounds : Bounds) (id : UInt64) (x y : Float) : List Body → Option (List Body)
  | [] => some []
  | b :: bs =>
    if b.id = id then (dragTo? bounds x y b).map fun b' => b' :: bs
    else (dragFirst? bounds id x y bs).map fun bs' => b :: bs'

theorem dragFirst?_eq (bounds : Bounds) (id : UInt64) (x y : Float) (bodies : List Body) :
    dragFirst? bounds id x y bodies = some (modifyFirst id (dragTo bounds x y) bodies) := by
  induction bodies with
  | nil => rfl
  | cons b bs ih =>
      rw [dragFirst?, modifyFirst, dragTo?_eq, ih]
      split_ifs <;> rfl

theorem dragTo_of_isFinite {x y : Float} (hx : x.isFinite) (hy : y.isFinite) (bounds : Bounds)
    (b : Body) (vx vy : Float) : dragTo bounds x y b =
      { b.moveTo (contain x vx b.rect.width bounds.width).1
          (contain y vy b.rect.height bounds.height).1 with vx := 0, vy := 0 } := by
  rw [dragTo, if_pos ⟨hx, hy⟩, contain_fst_eq, contain_fst_eq]

/-- **A drag ends where the walls would put the body.**  Let the limit of an axis be the larger of zero and
what the extent leaves of the bound, whatever number or none the bound is.  It is a number and not
negative, so a clamp between zero and the limit has a result.  Any position that is a number is taken by
the walls to the result of the clamp, whatever the velocity is; this lies between the limits, and the walls
leave it and its velocity alone from then on.  So a drag to finite coordinates has a result on every
collection, and the body that it concerns comes to rest at the point to which the walls would take the
coordinates. -/
theorem drag_agrees_with_walls :
    (∀ extent bound, ¬ (larger (bound - extent) 0).isNaN ∧ 0 ≤ larger (bound - extent) 0) ∧
    (∀ pos vel extent bound : Float, ¬ pos.isNaN → ∃ pos' vel',
      contain pos vel extent bound = (pos', vel') ∧
      pos' = clamp 0 (larger (bound - extent) 0) pos ∧
      clamp? 0 (larger (bound - extent) 0) pos = some pos' ∧
      0 ≤ pos' ∧ pos' ≤ larger (bound - extent) 0 ∧
      contain pos' vel' extent bound = (pos', vel')) ∧
    ∀ bounds x y, x.isFinite → y.isFinite →
      (∀ id bodies, dragFirst? bounds id x y bodies = some ((drag id x y).apply bounds bodies).1) ∧
      ∀ b vx vy, dragTo bounds x y b =
        { b.moveTo (contain x vx b.rect.width bounds.width).1
            (contain y vy b.rect.height bounds.height).1 with vx := 0, vy := 0 } := by
  refine ⟨?_, ?_, ?_⟩
  · intro extent bound
    obtain ⟨v, hv, -⟩ := exists_hasValue_farLimit extent bound
    exact ⟨hv.not_isNaN, farLimit_nonneg extent bound⟩
  · intro pos vel extent bound hpos
    obtain ⟨hnear, hfar⟩ := contain_fst_mem hpos vel extent bound
    have hclamp := contain_fst_eq pos vel extent bound
    have hdefined : clamp? 0 (farLimit extent bound) pos = some (contain pos vel extent bound).1 := by
      rw [hclamp]
      exact clamp?_farLimit extent bound pos
    exact ⟨(contain pos vel extent bound).1, (contain pos vel extent bound).2, rfl, hclamp, hdefined,
      hnear, hfar, contain_contain pos vel extent bound⟩
  · intro bounds x y hx hy
    exact ⟨fun id bodies => dragFirst?_eq bounds id x y bodies, dragTo_of_isFinite hx hy bounds⟩

/-- Without a number for a bound the limit is zero: a negative zero stays as it is, and an infinite position
comes to the near wall and turns back.  A body that is wider than the arena, and whose arena has no height,
is dragged to the corner. -/
theorem drag_agrees_with_walls_unbounded :
    (∃ vel', contain (-0.0) 3 5 (0 / 0) = (-0.0, vel') ∧
      clamp? 0 (larger (0 / 0 - 5) 0) (-0.0) = some (-0.0) ∧
      contain (-0.0) vel' 5 (0 / 0) = (-0.0, vel')) ∧
    (∃ pos', contain (1 / 0) 3 5 (0 / 0) = (pos', -3) ∧ 0 ≤ pos' ∧ pos' ≤ larger (0 / 0 - 5) 0 ∧
      contain pos' (-3) 5 (0 / 0) = (pos', -3)) ∧
    dragFirst? ⟨20, 0 / 0⟩ 1 (-7) 9 [⟨1, ⟨5, 5, 30, 10, by decide⟩, 2, 1, 1, false, false, by decide⟩] =
      some [⟨1, ⟨0, 0, 30, 10, by decide⟩, 0, 0, 1, false, false, by decide⟩] := by
  obtain ⟨-, haxis, hdrag⟩ := drag_agrees_with_walls
  refine ⟨?_, ?_, ?_⟩
  · obtain ⟨pos', vel', hcontain, hpos', hclamp, -, -, hagain⟩ :=
      haxis (-0.0) 3 5 (0 / 0) (by decide +kernel)
    obtain rfl : pos' = -0.0 := hpos'.trans (by decide +kernel)
    exact ⟨vel', hcontain, hclamp, hagain⟩
  · obtain ⟨pos', vel', hcontain, -, -, hnear, hfar, hagain⟩ :=
      haxis (1 / 0) 3 5 (0 / 0) (by decide +kernel)
    obtain rfl : vel' = -3 := (congrArg Prod.snd hcontain).symm.trans (by decide +kernel)
    exact ⟨pos', hcontain, hnear, hfar, hagain⟩
  · obtain ⟨hdefined, -⟩ := hdrag ⟨20, 0 / 0⟩ (-7) 9 (by decide +kernel) (by decide +kernel)
    exact (hdefined 1 _).trans (by decide +kernel)

end Edit

end Broadphase
