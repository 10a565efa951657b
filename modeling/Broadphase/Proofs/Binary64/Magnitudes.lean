import Broadphase.Proofs.Binary64.Ranges
import Broadphase.Proofs.Binary64.Signs

/-! # Magnitudes

Sums and products, seen without their signs.  Finite numbers of the same magnitude differ in the sign at
most (`HasValue.abs_eq`), and a square does not see the sign (`mul_self_eq`).  A number without a minus
sign stays the same when a zero is added (`Unsigned.add_zero`).

A share of a finite number is no larger than the number (`abs_mul_share_le`).  Sums and products of numbers
that are not negative keep the order, infinities included (`add_le_add_of_nonneg`,
`mul_le_mul_of_nonneg`).  With a finite operand, a sum is no number only if the other operand is none, and a
product also if zero meets an infinity (`isNaN_add_iff`, `isNaN_mul_iff`). -/

namespace Broadphase.Binary64

open Float.Model (Format UnpackedFloat)
open Float.Model.UnpackedFloat

/-! ### Unpacked results -/

theorem canonical_mul {u v : UnpackedFloat} (hu : Canonical u) (hv : Canonical v) :
    Canonical (UnpackedFloat.mul Format.binary64 u v) := by
  cases u with
  | notANumber => exact trivial
  | infinity s => cases v <;> exact trivial
  | zero s => cases v <;> exact trivial
  | finite s m e hm =>
    cases v with
    | notANumber => exact trivial
    | infinity t => exact trivial
    | zero t => exact trivial
    | finite t m' e' hm' => exact (roundsTo_mul hu hv rfl rfl).canonical

theorem canonical_add {u v : UnpackedFloat} (hu : Canonical u) (hv : Canonical v) :
    Canonical (UnpackedFloat.add Format.binary64 u v) := by
  cases u with
  | notANumber => exact trivial
  | infinity s =>
    cases v with
    | infinity t =>
      simp only [UnpackedFloat.add]
      split_ifs <;> exact trivial
    | notANumber => exact trivial
    | zero t => exact trivial
    | finite t m e hm => exact trivial
  | zero s =>
    cases v with
    | notANumber => exact trivial
    | infinity t => exact trivial
    | zero t => exact (roundsTo_add hu hv rfl rfl).canonical
    | finite t m e hm => exact hv
  | finite s m e hm =>
    cases v with
    | notANumber => exact trivial
    | infinity t => exact trivial
    | zero t => exact hu
    | finite t m' e' hm' => exact (roundsTo_add hu hv rfl rfl).canonical

theorem unpack_mul (x y : Float) : (x * y).toModel.unpack =
    saturated (UnpackedFloat.mul Format.binary64 x.toModel.unpack y.toModel.unpack) :=
  unpack_pack (canonical_mul (canonical_unpack x.toModel).1 (canonical_unpack y.toModel).1)

theorem unpack_add (x y : Float) : (x + y).toModel.unpack =
    saturated (UnpackedFloat.add Format.binary64 x.toModel.unpack y.toModel.unpack) :=
  unpack_pack (canonical_add (canonical_unpack x.toModel).1 (canonical_unpack y.toModel).1)

/-- A number is determined by what it unpacks to. -/
theorem eq_of_unpack_eq {x y : Float} (h : x.toModel.unpack = y.toModel.unpack) : x = y := by
  obtain ⟨⟨⟨a⟩, ha⟩⟩ := x
  obtain ⟨⟨⟨b⟩, hb⟩⟩ := y
  obtain rfl := (unpack_inj_of_valid ha hb).mp h
  rfl

theorem plus_comm (x y : Float) : x + y = y + x := by
  apply eq_of_unpack_eq
  rw [unpack_add, unpack_add]
  congr 1
  cases x.toModel.unpack with
  | notANumber => cases y.toModel.unpack <;> rfl
  | infinity s => 
    cases y.toModel.unpack with
    | infinity t => cases s <;> cases t <;> rfl
    | notANumber => rfl
    | zero t => rfl
    | finite t m e hm => rfl
  | zero s =>
    cases y.toModel.unpack with
    | zero t => cases s <;> cases t <;> rfl
    | notANumber => rfl
    | infinity t => rfl
    | finite t m e hm => rfl
  | finite s m e hm =>
    cases y.toModel.unpack with
    | notANumber => rfl
    | infinity t => rfl
    | zero t => rfl
    | finite t m' e' hm' =>
      simp only [UnpackedFloat.add, min_comm e e']
      rw [Int.add_comm]

theorem times_comm (x y : Float) : x * y = y * x := by
  apply eq_of_unpack_eq
  rw [unpack_mul, unpack_mul]
  congr 1
  have hsign (s t : Sign) : s * t = t * s := by cases s <;> cases t <;> rfl
  cases x.toModel.unpack with
  | notANumber => cases y.toModel.unpack <;> rfl
  | infinity s => cases y.toModel.unpack <;> simp [UnpackedFloat.mul, hsign s]
  | zero s => cases y.toModel.unpack <;> simp [UnpackedFloat.mul, hsign s]
  | finite s m e hm =>
    cases y.toModel.unpack <;> simp [UnpackedFloat.mul, hsign s, Nat.mul_comm m, Int.add_comm e]

/-! ### Numbers without a sign -/

/-- A number without a minus sign, zero and infinity included. -/
def Unsigned (x : Float) : Prop := x.abs = x

theorem unsigned_iff {x : Float} : Unsigned x ↔ x.toModel.unpack.abs = x.toModel.unpack := by
  rw [← unpack_abs]
  exact ⟨fun h : x.abs = x => by rw [h], eq_of_unpack_eq⟩

theorem saturated_abs {u : UnpackedFloat} (h : u.abs = u) : (saturated u).abs = saturated u := by
  rw [← h]
  cases u with
  | notANumber => rfl
  | infinity s => rfl
  | zero s => rfl
  | finite s m e hm =>
    simp only [UnpackedFloat.abs, saturated]
    split_ifs <;> rfl

theorem abs_roundWithAccuracy (m : ℕ) (e : ℤ) (acc : Accuracy) :
    (roundWithAccuracy Format.binary64 .positive m e acc).abs =
      roundWithAccuracy Format.binary64 .positive m e acc := by
  rw [roundWithAccuracy_eq .positive rfl]
  unfold ofExact
  split_ifs <;> rfl

theorem abs_normalize {z : ℤ} (hz : 0 ≤ z) (e : ℤ) :
    (UnpackedFloat.normalize Format.binary64 z e .positive).abs =
      UnpackedFloat.normalize Format.binary64 z e .positive := by
  unfold UnpackedFloat.normalize
  cases h : compare z 0 with
  | lt => exact absurd (Int.compare_eq_lt.mp h) hz.not_gt
  | eq => rfl
  | gt => exact abs_roundWithAccuracy _ _ _

theorem Unsigned.mul {x y : Float} (hx : Unsigned x) (hy : Unsigned y) : Unsigned (x * y) := by
  rw [unsigned_iff] at hx hy ⊢
  rw [unpack_mul]
  refine saturated_abs ?_
  rw [← hx, ← hy]
  cases x.toModel.unpack with
  | notANumber => rfl
  | infinity s => cases y.toModel.unpack <;> rfl
  | zero s => cases y.toModel.unpack <;> rfl
  | finite s m e hm =>
    cases y.toModel.unpack with
    | notANumber => rfl
    | infinity t => rfl
    | zero t => rfl
    | finite t m' e' hm' => exact abs_roundWithAccuracy _ _ _

theorem Unsigned.add {x y : Float} (hx : Unsigned x) (hy : Unsigned y) : Unsigned (x + y) := by
  rw [unsigned_iff] at hx hy ⊢
  rw [unpack_add]
  refine saturated_abs ?_
  rw [← hx, ← hy]
  cases x.toModel.unpack with
  | notANumber => rfl
  | infinity s => cases y.toModel.unpack <;> rfl
  | zero s => cases y.toModel.unpack <;> rfl
  | finite s m e hm =>
    cases y.toModel.unpack with
    | notANumber => rfl
    | infinity t => rfl
    | zero t => rfl
    | finite t m' e' hm' =>
      exact abs_normalize (Int.add_nonneg (Int.natCast_nonneg _) (Int.natCast_nonneg _)) _

/-- A square does not see the sign. -/
theorem mul_self_eq (x : Float) : x * x = x.abs * x.abs := by
  apply eq_of_unpack_eq
  rw [unpack_mul, unpack_mul, unpack_abs]
  cases x.toModel.unpack with
  | notANumber => rfl
  | infinity s => cases s <;> rfl
  | zero s => cases s <;> rfl
  | finite s m e hm => cases s <;> rfl

theorem unsigned_mul_self (x : Float) : Unsigned (x * x) := by
  rw [mul_self_eq]
  exact Unsigned.mul (abs_abs x) (abs_abs x)

theorem unpack_of_hasValue_zero {x : Float} (h : HasValue x ((0 : ℝ) : EReal)) :
    ∃ s, x.toModel.unpack = .zero s := by
  obtain ⟨hfin, hval⟩ := h.isFinite
  cases hu : x.toModel.unpack with
  | notANumber => simp [hu, UnpackedFloat.isFinite] at hfin
  | infinity s => simp [hu, UnpackedFloat.isFinite] at hfin
  | zero s => exact ⟨s, rfl⟩
  | finite s m e hm =>
    have hpos : (0 : ℝ) < m * 2 ^ e := mul_pos (by exact_mod_cast hm) (two_zpow_pos e)
    rw [hu] at hval
    cases s with
    | positive => exact absurd hval hpos.ne'
    | negative => exact absurd hval (neg_ne_zero.mpr hpos.ne')

theorem hasValue_zero_iff {x : Float} :
    HasValue x ((0 : ℝ) : EReal) ↔ ∃ s, x.toModel.unpack = .zero s := by
  refine ⟨unpack_of_hasValue_zero, fun ⟨s, hs⟩ => ⟨?_, by rw [hs]; rfl⟩⟩
  show x.toModel.unpack.isNaN = false
  rw [hs]
  rfl

theorem hasValue_of_beq_zero {x : Float} (h : x == 0) : HasValue x ((0 : ℝ) : EReal) := by
  have hcompare : (x.toModel.unpack.compare (0 : Float).toModel.unpack == some .eq) = true := h
  rw [unpack_zero] at hcompare
  refine hasValue_zero_iff.mpr ?_
  cases hu : x.toModel.unpack with
  | notANumber => simp [hu, UnpackedFloat.compare] at hcompare
  | infinity s => cases s <;> simp [hu, UnpackedFloat.compare] at hcompare
  | zero s => exact ⟨s, rfl⟩
  | finite s m e hm => cases s <;> simp [hu, UnpackedFloat.compare] at hcompare

theorem unsigned_of_pos {x : Float} (h : 0 < x) : Unsigned x := by
  obtain ⟨-, v, -, hv, -⟩ := exists_hasValue_of_lt h
  have hpos := (hasValue_zero.lt_iff hv).mp h
  rw [← hv.value] at hpos
  rw [unsigned_iff]
  generalize x.toModel.unpack = u at hpos
  cases u with
  | notANumber => rfl
  | zero s => exact absurd hpos (lt_irrefl _)
  | infinity s =>
    cases s with
    | positive => rfl
    | negative => exact absurd hpos not_lt_bot
  | finite s m e hm =>
    cases s with
    | positive => rfl
    | negative =>
      have hneg : -(m * 2 ^ e : ℝ) ≤ 0 := neg_nonpos.mpr (mul_nonneg m.cast_nonneg (two_zpow_pos e).le)
      exact absurd (EReal.coe_lt_coe_iff.mp hpos) hneg.not_gt

theorem Unsigned.nonneg {x : Float} (h : Unsigned x) (hx : ¬ x.isNaN) : 0 ≤ x := by
  have habs := isNaN_or_abs_nonneg x
  rw [show x.abs = x from h] at habs
  exact habs.resolve_left hx

/-- Up to its sign, a zero is neutral for addition. -/
theorem Unsigned.add_zero {x z : Float} (hx : Unsigned x) (hz : HasValue z ((0 : ℝ) : EReal)) :
    x + z = x := by
  obtain ⟨t, ht⟩ := unpack_of_hasValue_zero hz
  apply eq_of_unpack_eq
  rw [unsigned_iff] at hx
  have hsat := (canonical_unpack x.toModel).2
  rw [unpack_add, ht, ← hx]
  rw [← hx] at hsat
  cases hu : x.toModel.unpack with
  | notANumber => rfl
  | infinity s => rfl
  | zero s => cases t <;> rfl
  | finite s m e hm => rwa [hu] at hsat

/-! ### Absolute values -/

theorem real_abs (u : UnpackedFloat) : real u.abs = |real u| := by
  cases u with
  | notANumber => exact abs_zero.symm
  | infinity s => exact abs_zero.symm
  | zero s => exact abs_zero.symm
  | finite s m e hm =>
    have hpos : (0 : ℝ) ≤ m * 2 ^ e := mul_nonneg m.cast_nonneg (two_zpow_pos e).le
    cases s with
    | positive => exact (abs_of_nonneg hpos).symm
    | negative => exact ((abs_of_nonpos (neg_nonpos.mpr hpos)).trans (neg_neg _)).symm

theorem isFinite_abs (u : UnpackedFloat) : u.abs.isFinite = u.isFinite := by
  cases u <;> rfl

theorem HasValue.abs {x : Float} {r : ℝ} (h : HasValue x r) : HasValue x.abs (|r| : ℝ) := by
  obtain ⟨hfin, rfl⟩ := h.isFinite
  have hfin' : x.abs.isFinite := by
    show x.abs.toModel.unpack.isFinite
    rw [unpack_abs, isFinite_abs]
    exact hfin
  obtain ⟨t, ht⟩ := exists_hasValue_of_isFinite hfin'
  obtain ⟨-, hval⟩ := ht.isFinite
  rw [unpack_abs, real_abs] at hval
  rwa [hval]

/-- Of each magnitude there is one finite number, up to the sign. -/
theorem unpacked_abs_eq {u v : UnpackedFloat} (hu : Canonical u) (hv : Canonical v)
    (hu' : u.isFinite) (hv' : v.isFinite) (h : real u.abs = real v.abs) : u.abs = v.abs := by
  have hpos (s : Sign) {m : ℕ} (e : ℤ) (hm : 0 < m) : 0 < real (UnpackedFloat.finite s m e hm).abs :=
    mul_pos (by exact_mod_cast hm) (two_zpow_pos e)
  cases u with
  | notANumber => simp [UnpackedFloat.isFinite] at hu'
  | infinity s => simp [UnpackedFloat.isFinite] at hu'
  | zero s =>
    cases v with
    | notANumber => simp [UnpackedFloat.isFinite] at hv'
    | infinity t => simp [UnpackedFloat.isFinite] at hv'
    | zero t => rfl
    | finite t m e hm => exact absurd h (hpos t e hm).ne
  | finite s m e hm =>
    cases v with
    | notANumber => simp [UnpackedFloat.isFinite] at hv'
    | infinity t => simp [UnpackedFloat.isFinite] at hv'
    | zero t => exact absurd h (hpos s e hm).ne'
    | finite t m' e' hm' =>
      have hcompare := (compares_magnitude hu hv).eq_eq.mpr h
      rw [Ordering.then_eq_eq, compare_eq_iff_eq, compare_eq_iff_eq] at hcompare
      obtain ⟨rfl, rfl⟩ := hcompare
      rfl

/-- Finite numbers of the same magnitude differ in their signs only. -/
theorem HasValue.abs_eq {x y : Float} {r t : ℝ} (hx : HasValue x r) (hy : HasValue y t)
    (h : |r| = |t|) : x.abs = y.abs := by
  obtain ⟨hfin, rfl⟩ := hx.isFinite
  obtain ⟨hfin', rfl⟩ := hy.isFinite
  rw [← real_abs, ← real_abs] at h
  apply eq_of_unpack_eq
  rw [unpack_abs, unpack_abs]
  exact unpacked_abs_eq (canonical_unpack x.toModel).1 (canonical_unpack y.toModel).1 hfin hfin' h

theorem nearest_neg (a : ℝ) : nearest (-a) = -nearest a := by
  rcases le_or_gt overflow (rounded a) with htop | hlt
  · rw [nearest_of_overflow htop, nearest_of_neg_overflow, EReal.neg_top]
    rw [rounded_neg]
    exact neg_le_neg htop
  rcases le_or_gt (rounded a) (-overflow) with hbot | hgt
  · rw [nearest_of_neg_overflow hbot, nearest_of_overflow, EReal.neg_bot]
    rw [rounded_neg]
    exact le_neg_of_le_neg hbot
  · have habs : |rounded a| < overflow := abs_lt.mpr ⟨hgt, hlt⟩
    rw [nearest_of_abs_lt habs, nearest_of_abs_lt, rounded_neg, EReal.coe_neg]
    rw [rounded_neg, abs_lt]
    exact ⟨neg_lt_neg hlt, neg_lt.mp hgt⟩

/-- A finite number of magnitude `r` at most. -/
def AtMost (r : ℝ) (x : Float) : Prop := ∃ t : ℝ, HasValue x t ∧ |t| ≤ r

theorem AtMost.isFinite {r : ℝ} {x : Float} (h : AtMost r x) : x.isFinite := by
  obtain ⟨t, ht, -⟩ := h
  exact ht.isFinite.1

/-- What is no larger than a number is no larger after rounding. -/
theorem HasValue.atMost {x : Float} {a r : ℝ} (hx : HasValue x (nearest a)) (hr : nearest r = r)
    (h : |a| ≤ r) : AtMost r x := by
  obtain ⟨hlo, hhi⟩ := abs_le.mp h
  have hlower : ((-r : ℝ) : EReal) ≤ nearest a := by
    rw [EReal.coe_neg, ← hr, ← nearest_neg]
    exact nearest_mono hlo
  have hupper : nearest a ≤ r := by
    rw [← hr]
    exact nearest_mono hhi
  obtain ⟨t, ht⟩ := exists_hasValue_of_isFinite (hx.isFinite_of_mem hlower hupper)
  rw [← ht.unique hx] at hlower hupper
  exact ⟨t, ht, abs_le.mpr ⟨EReal.coe_le_coe_iff.mp hlower, EReal.coe_le_coe_iff.mp hupper⟩⟩

/-- A share of a finite number is finite, and no larger in magnitude. -/
theorem abs_mul_share_le {x k : Float} (hx : x.isFinite) (h0 : 0 ≤ k) (h1 : k ≤ 1) :
    (x * k).isFinite ∧ (x * k).abs ≤ x.abs := by
  obtain ⟨r, hr⟩ := exists_hasValue_of_isFinite hx
  obtain ⟨q, hq⟩ := exists_hasValue_of_isFinite (isFinite_of_nonneg_of_le h0 h1 rfl)
  have hq0 : 0 ≤ q := EReal.coe_le_coe_iff.mp ((hasValue_zero.le_iff hq).mp h0)
  have hq1 : q ≤ 1 := EReal.coe_le_coe_iff.mp ((hq.le_iff hasValue_one).mp h1)
  have hle : |r * q| ≤ |r| := by
    rw [abs_mul, abs_of_nonneg hq0]
    exact mul_le_of_le_one_right (abs_nonneg r) hq1
  obtain ⟨t, ht, htr⟩ := (hr.mul hq).atMost (nearest_of_hasValue hr.abs) hle
  exact ⟨ht.isFinite.1, (ht.abs.le_iff hr.abs).mpr (EReal.coe_le_coe_iff.mpr htr)⟩

theorem abs_mul_one {x : Float} (hx : x.isFinite) : (x * 1).abs = x.abs := by
  obtain ⟨r, hr⟩ := exists_hasValue_of_isFinite hx
  have hone := hr.mul hasValue_one
  rw [mul_one, nearest_of_hasValue hr] at hone
  exact hone.abs_eq hr rfl

theorem HasValue.zero_mul {z y : Float} (hz : HasValue z ((0 : ℝ) : EReal)) (hy : y.isFinite) :
    HasValue (z * y) ((0 : ℝ) : EReal) := by
  obtain ⟨t, ht⟩ := exists_hasValue_of_isFinite hy
  have hprod := hz.mul ht
  rwa [MulZeroClass.zero_mul, nearest_of_hasValue hasValue_zero] at hprod

/-- A zero added to a finite number changes a sign at most. -/
theorem abs_add_zero {x z : Float} (hx : x.isFinite) (hz : HasValue z ((0 : ℝ) : EReal)) :
    (x + z).isFinite ∧ (x + z).abs = x.abs := by
  obtain ⟨r, hr⟩ := exists_hasValue_of_isFinite hx
  have hsum := hr.add hz
  rw [add_zero, nearest_of_hasValue hr] at hsum
  exact ⟨hsum.isFinite.1, hsum.abs_eq hr rfl⟩

/-- Numbers of the same magnitude are finite together. -/
theorem isFinite_of_abs_eq {x y : Float} (h : x.abs = y.abs) (hy : y.isFinite) : x.isFinite := by
  have hu : x.toModel.unpack.abs.isFinite = y.toModel.unpack.abs.isFinite := by
    rw [← unpack_abs, h, unpack_abs]
  rw [isFinite_abs, isFinite_abs] at hu
  exact hu.trans hy

/-- The square of the smaller magnitude is not larger. -/
theorem mul_self_le {x y : Float} (hx : x.isFinite) (hy : y.isFinite) (h : x.abs ≤ y.abs) :
    0 ≤ x * x ∧ x * x ≤ y * y := by
  obtain ⟨r, hr⟩ := exists_hasValue_of_isFinite hx
  obtain ⟨t, ht⟩ := exists_hasValue_of_isFinite hy
  have hle : |r| ≤ |t| := EReal.coe_le_coe_iff.mp ((hr.abs.le_iff ht.abs).mp h)
  rw [hasValue_zero.le_iff (hr.mul hr), (hr.mul hr).le_iff (ht.mul ht),
    ← nearest_of_hasValue hasValue_zero]
  exact ⟨nearest_mono (mul_self_nonneg r), nearest_mono (abs_le_iff_mul_self_le.mp hle)⟩

/-! ### What is no number -/

theorem isNaN_saturated (u : UnpackedFloat) : (saturated u).isNaN = u.isNaN := by
  cases u with
  | notANumber => rfl
  | infinity s => rfl
  | zero s => rfl
  | finite s m e hm =>
    simp only [saturated]
    split_ifs <;> rfl

/-- A product with a finite number is no number only if the other factor is none, or if an infinity is
multiplied by zero. -/
theorem isNaN_mul_iff {x y : Float} (hy : y.isFinite) :
    (x * y).isNaN ↔ x.isNaN ∨ x.isInf ∧ HasValue y ((0 : ℝ) : EReal) := by
  by_cases hx : x.isFinite
  · obtain ⟨r, hr⟩ := exists_hasValue_of_isFinite hx
    obtain ⟨t, ht⟩ := exists_hasValue_of_isFinite hy
    obtain ⟨hnan, hinf⟩ := not_or.mp ((isFinite_iff x).mp hx)
    have hprod := (hr.mul ht).not_isNaN
    tauto
  · have hx' : ¬ x.toModel.unpack.isFinite := hx
    have hy' : y.toModel.unpack.isFinite := hy
    show (x * y).toModel.unpack.isNaN ↔ x.toModel.unpack.isNaN ∨ x.toModel.unpack.isInf ∧ _
    rw [unpack_mul, isNaN_saturated, hasValue_zero_iff]
    generalize x.toModel.unpack = u at hx'
    generalize y.toModel.unpack = v at hy'
    cases u with
    | notANumber => simp [UnpackedFloat.mul, UnpackedFloat.isNaN]
    | zero s => exact absurd rfl hx'
    | finite s m e hm => exact absurd rfl hx'
    | infinity s =>
      cases v with
      | notANumber => simp [UnpackedFloat.isFinite] at hy'
      | infinity t => simp [UnpackedFloat.isFinite] at hy'
      | zero t => simp [UnpackedFloat.mul, UnpackedFloat.isNaN, UnpackedFloat.isInf]
      | finite t m e hm => simp [UnpackedFloat.mul, UnpackedFloat.isNaN]

/-- A sum with a finite number is a number if the other summand is one. -/
theorem isNaN_add_iff {x : Float} (hx : x.isFinite) (y : Float) : (x + y).isNaN ↔ y.isNaN := by
  constructor
  · intro h
    by_contra hy
    obtain ⟨r, hr⟩ := exists_hasValue_of_isFinite hx
    obtain ⟨w, hw⟩ := exists_hasValue (eq_false_of_ne_true hy)
    rw [plus_comm] at h
    rcases hw.unpack_cases with ⟨-, hu⟩ | ⟨-, hu⟩ | ⟨rfl, -⟩
    · exact (hasValue_of_unpack_infinity (unpack_infinity_add hu hx)).not_isNaN h
    · exact (hasValue_of_unpack_infinity (unpack_infinity_add hu hx)).not_isNaN h
    · exact (hw.add hr).not_isNaN h
  · intro h
    rw [plus_comm]
    exact isNaN_add x h

/-! ### Order -/

/-- The number nearest to an exact result that may be an infinity. -/
noncomputable def nearestExtended (v : EReal) : EReal :=
  if v = ⊤ then ⊤ else if v = ⊥ then ⊥ else nearest v.toReal

theorem nearestExtended_top : nearestExtended ⊤ = ⊤ := if_pos rfl

theorem nearestExtended_coe (r : ℝ) : nearestExtended r = nearest r := by
  rw [nearestExtended, if_neg (EReal.coe_ne_top r), if_neg (EReal.coe_ne_bot r), EReal.toReal_coe]

theorem nearestExtended_zero : nearestExtended 0 = 0 := by
  rw [← EReal.coe_zero, nearestExtended_coe, nearest_of_hasValue hasValue_zero]

theorem nearestExtended_mono {v w : EReal} (h : v ≤ w) : nearestExtended v ≤ nearestExtended w := by
  induction w with
  | top =>
    rw [nearestExtended_top]
    exact le_top
  | bot => rw [le_bot_iff.mp h]
  | coe t =>
    induction v with
    | top => exact absurd h (not_le.mpr (EReal.coe_lt_top t))
    | bot =>
      rw [nearestExtended, if_neg bot_ne_top, if_pos rfl]
      exact bot_le
    | coe r =>
      rw [nearestExtended_coe, nearestExtended_coe]
      exact nearest_mono (EReal.coe_le_coe_iff.mp h)

theorem HasValue.unpack_top {x : Float} (h : HasValue x ⊤) :
    x.toModel.unpack = .infinity .positive := by
  rcases h.unpack_cases with ⟨-, hu⟩ | ⟨htop, -⟩ | ⟨htop, -⟩
  · exact hu
  · exact absurd htop top_ne_bot
  · exact absurd htop (EReal.top_ne_coe _)

theorem HasValue.top_add {x y : Float} {w : EReal} (hx : HasValue x ⊤) (hy : HasValue y w)
    (hw : 0 ≤ w) : HasValue (x + y) ⊤ := by
  have hu := hx.unpack_top
  apply hasValue_of_unpack_infinity (s := .positive)
  rcases hy.unpack_cases with ⟨-, hu'⟩ | ⟨rfl, -⟩ | ⟨-, hu'⟩
  · rw [unpack_add, hu, hu']
    rfl
  · exact absurd hw (not_le.mpr EReal.bot_lt_zero)
  · exact unpack_infinity_add hu hu'

theorem HasValue.add_of_nonneg {x y : Float} {v w : EReal} (hx : HasValue x v) (hy : HasValue y w)
    (hv : 0 ≤ v) (hw : 0 ≤ w) : HasValue (x + y) (nearestExtended (v + w)) := by
  induction v with
  | bot => exact absurd hv (not_le.mpr EReal.bot_lt_zero)
  | top =>
    rw [EReal.top_add_of_ne_bot (EReal.bot_lt_zero.trans_le hw).ne', nearestExtended_top]
    exact hx.top_add hy hw
  | coe r =>
    induction w with
    | bot => exact absurd hw (not_le.mpr EReal.bot_lt_zero)
    | top =>
      rw [EReal.coe_add_top, nearestExtended_top, plus_comm]
      exact hy.top_add hx hv
    | coe t =>
      rw [← EReal.coe_add, nearestExtended_coe]
      exact hx.add hy

/-- Sums of numbers that are not negative keep the order. -/
theorem add_le_add_of_nonneg {x x' y y' : Float} (hx : 0 ≤ x') (hxx : x' ≤ x) (hy : 0 ≤ y')
    (hyy : y' ≤ y) : 0 ≤ x' + y' ∧ x' + y' ≤ x + y := by
  obtain ⟨v', v, hv', hv, hvv⟩ := exists_hasValue_of_le hxx
  obtain ⟨w', w, hw', hw, hww⟩ := exists_hasValue_of_le hyy
  have hv0 := (hasValue_zero.le_iff hv').mp hx
  have hw0 := (hasValue_zero.le_iff hw').mp hy
  have hsum' := hv'.add_of_nonneg hw' hv0 hw0
  have hsum := hv.add_of_nonneg hw (hv0.trans hvv) (hw0.trans hww)
  rw [hasValue_zero.le_iff hsum', hsum'.le_iff hsum, EReal.coe_zero, ← nearestExtended_zero]
  exact ⟨nearestExtended_mono (add_nonneg hv0 hw0), nearestExtended_mono (add_le_add hvv hww)⟩

theorem HasValue.mul_of_nonneg {x y : Float} {r : ℝ} {w : EReal} (hx : HasValue x r)
    (hy : HasValue y w) (hr : 0 ≤ r) (hw : 0 ≤ w) (h : r ≠ 0 ∨ w ≠ ⊤) :
    HasValue (x * y) (nearestExtended (r * w)) := by
  induction w with
  | bot => exact absurd hw (not_le.mpr EReal.bot_lt_zero)
  | coe t =>
    rw [← EReal.coe_mul, nearestExtended_coe]
    exact hx.mul hy
  | top =>
    have hpos : 0 < r := hr.lt_of_ne' (h.resolve_right fun h => h rfl)
    rw [EReal.coe_mul_top_of_pos hpos, nearestExtended_top]
    apply hasValue_of_unpack_infinity (s := .positive)
    obtain ⟨hfin, hval⟩ := hx.isFinite
    rw [unpack_mul, hy.unpack_top]
    cases hu : x.toModel.unpack with
    | notANumber => simp [hu, UnpackedFloat.isFinite] at hfin
    | infinity s => simp [hu, UnpackedFloat.isFinite] at hfin
    | zero s =>
      rw [hu] at hval
      exact absurd hval hpos.ne
    | finite s m e hm =>
      rw [hu] at hval
      cases s with
      | positive => rfl
      | negative =>
        have hneg : signed .negative (m * 2 ^ e) ≤ 0 :=
          neg_nonpos.mpr (mul_nonneg m.cast_nonneg (two_zpow_pos e).le)
        exact absurd (hval.symm.trans_le hneg) hpos.not_ge

/-- Products with a finite factor that is not negative keep the order. -/
theorem mul_le_mul_of_nonneg {c x x' : Float} (hc : c.isFinite) (hc0 : 0 ≤ c) (hx : 0 ≤ x')
    (hxx : x' ≤ x) (h : ¬ (c * x).isNaN) : 0 ≤ c * x' ∧ c * x' ≤ c * x := by
  obtain ⟨v', v, hv', hv, hvv⟩ := exists_hasValue_of_le hxx
  obtain ⟨r, hr⟩ := exists_hasValue_of_isFinite hc
  have hr0 : 0 ≤ r := EReal.coe_le_coe_iff.mp ((hasValue_zero.le_iff hr).mp hc0)
  have hv0 := (hasValue_zero.le_iff hv').mp hx
  -- zero times infinity is the one product that is no number
  have hne : r ≠ 0 ∨ v ≠ ⊤ := by
    by_contra hboth
    obtain ⟨rfl, rfl⟩ : r = 0 ∧ v = ⊤ := by simpa [not_or] using hboth
    rw [times_comm] at h
    have hinf : x.isInf := by
      show x.toModel.unpack.isInf
      rw [hv.unpack_top]
      rfl
    exact h ((isNaN_mul_iff hc).mpr (.inr ⟨hinf, hr⟩))
  have hne' : r ≠ 0 ∨ v' ≠ ⊤ := hne.imp_right (ne_top_of_le_ne_top · hvv)
  have hprod' := hr.mul_of_nonneg hv' hr0 hv0 hne'
  have hprod := hr.mul_of_nonneg hv hr0 (hv0.trans hvv) hne
  have hr0' : 0 ≤ (r : EReal) := EReal.coe_nonneg.mpr hr0
  rw [hasValue_zero.le_iff hprod', hprod'.le_iff hprod, EReal.coe_zero, ← nearestExtended_zero]
  exact ⟨nearestExtended_mono (mul_nonneg hr0' hv0),
    nearestExtended_mono (mul_le_mul_of_nonneg_left hvv hr0')⟩

/-- What is left of a finite number when less is taken away than a part that leaves it finite. -/
theorem isFinite_sub_of_mem {x y z : Float} (hx : x.isFinite) (hz : z.isFinite) (h0 : 0 ≤ y)
    (hyz : y ≤ z) (h : (x - z).isFinite) : (x - y).isFinite := by
  obtain ⟨a, ha⟩ := exists_hasValue_of_isFinite hx
  obtain ⟨b, hb⟩ := exists_hasValue_of_isFinite (isFinite_of_nonneg_of_le h0 hyz hz)
  obtain ⟨c, hc⟩ := exists_hasValue_of_isFinite hz
  obtain ⟨d, hd⟩ := exists_hasValue_of_isFinite h
  have hb0 : 0 ≤ b := EReal.coe_le_coe_iff.mp ((hasValue_zero.le_iff hb).mp h0)
  have hbc : b ≤ c := EReal.coe_le_coe_iff.mp ((hb.le_iff hc).mp hyz)
  refine (ha.sub hb).isFinite_of_mem (a := d) (b := a) ?_ ?_
  · rw [hd.unique (ha.sub hc)]
    exact nearest_mono (sub_le_sub_left hbc a)
  · rw [← nearest_of_hasValue ha]
    exact nearest_mono (sub_le_self a hb0)

end Broadphase.Binary64
