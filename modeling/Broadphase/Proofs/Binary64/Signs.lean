import Broadphase.Proofs.Binary64.Arithmetic

/-! # Signs and limits

Changing the sign of a number changes nothing else about it (`unpack_neg`, `unpack_abs`), so absolute
values do not see signs (`abs_abs`, `abs_neg`) and are never negative (`isNaN_or_abs_nonneg`).  Off the
NaN the order is total (`le_of_not_lt`), and the larger of a number and zero is no NaN whatever the
number is (`larger_zero`).  A difference is a sum with the sign changed (`minus_eq_add_neg`), so it has the
value nearest to the exact one (`HasValue.sub`). -/

namespace Broadphase.Binary64

open Float.Model (Format UnpackedFloat)
open Float.Model.UnpackedFloat

/-! ### Changing the sign -/

theorem unpacked_abs_neg (u : UnpackedFloat) : u.neg.abs = u.abs := by
  cases u <;> rfl

theorem unpacked_abs_abs (u : UnpackedFloat) : u.abs.abs = u.abs := by
  cases u <;> rfl

/-- A stored number can be stored with either sign. -/
theorem unpack_pack_of_abs_eq {x : Float.Model} {u : UnpackedFloat} (h : u.abs = x.unpack.abs) :
    (Float.Model.pack u).unpack = u := by
  obtain ⟨hc, hs⟩ := canonical_unpack x
  cases u with
  | finite s m e hm =>
      cases hx : x.unpack with
      | finite t m' e' hm' =>
          rw [hx] at h hc hs
          simp only [UnpackedFloat.abs, UnpackedFloat.finite.injEq, true_and] at h
          obtain ⟨rfl, rfl⟩ := h
          simp only [saturated] at hs
          split_ifs at hs with he
          rw [unpack_pack (u := .finite s m e hm) hc]
          exact if_neg he
      | infinity t => simp [hx, UnpackedFloat.abs] at h
      | notANumber => simp [hx, UnpackedFloat.abs] at h
      | zero t => simp [hx, UnpackedFloat.abs] at h
  | infinity s => exact unpack_pack trivial
  | notANumber => exact unpack_pack trivial
  | zero s => exact unpack_pack trivial

theorem unpack_neg (x : Float) : (-x).toModel.unpack = x.toModel.unpack.neg :=
  unpack_pack_of_abs_eq (unpacked_abs_neg x.toModel.unpack)

theorem unpack_abs (x : Float) : x.abs.toModel.unpack = x.toModel.unpack.abs :=
  unpack_pack_of_abs_eq (unpacked_abs_abs x.toModel.unpack)

theorem abs_abs (x : Float) : x.abs.abs = x.abs := by
  show Float.ofModel (.pack x.abs.toModel.unpack.abs) = .ofModel (.pack x.toModel.unpack.abs)
  rw [unpack_abs, unpacked_abs_abs]

theorem abs_neg (x : Float) : (-x).abs = x.abs := by
  show Float.ofModel (.pack (-x).toModel.unpack.abs) = .ofModel (.pack x.toModel.unpack.abs)
  rw [unpack_neg, unpacked_abs_neg]

theorem extended_neg (u : UnpackedFloat) : extended u.neg = -extended u := by
  cases u with
  | infinity s =>
      cases s with
      | positive => exact EReal.neg_top.symm
      | negative => exact EReal.neg_bot.symm
  | notANumber => exact neg_zero.symm
  | zero s => exact neg_zero.symm
  | finite s m e hm =>
      rw [extended_of_isFinite rfl, extended_of_isFinite rfl, ← EReal.coe_neg]
      cases s with
      | positive => rfl
      | negative => exact congrArg _ (neg_neg _).symm

theorem extended_abs_nonneg (u : UnpackedFloat) : 0 ≤ extended u.abs := by
  cases u with
  | infinity s => exact le_top
  | notANumber => exact le_rfl
  | zero s => exact le_rfl
  | finite s m e hm =>
      rw [extended_of_isFinite rfl]
      exact EReal.coe_nonneg.mpr (mul_nonneg m.cast_nonneg (two_zpow_pos e).le)

theorem isNaN_neg (x : Float) : (-x).isNaN = x.isNaN := by
  show (-x).toModel.unpack.isNaN = x.toModel.unpack.isNaN
  rw [unpack_neg]
  cases x.toModel.unpack <;> rfl

theorem HasValue.neg {x : Float} {v : EReal} (h : HasValue x v) : HasValue (-x) (-v) where
  number := (isNaN_neg x).trans h.number
  value := by rw [unpack_neg, extended_neg, h.value]

/-- An absolute value is no negative number. -/
theorem isNaN_or_hasValue_abs (x : Float) : x.abs.isNaN ∨ ∃ v, HasValue x.abs v ∧ 0 ≤ v := by
  by_cases h : x.abs.isNaN
  · exact .inl h
  · refine .inr ⟨_, ⟨by simpa using h, rfl⟩, ?_⟩
    rw [unpack_abs]
    exact extended_abs_nonneg _

theorem isNaN_or_abs_nonneg (x : Float) : x.abs.isNaN ∨ 0 ≤ x.abs := by
  obtain h | ⟨v, hv, h0⟩ := isNaN_or_hasValue_abs x
  · exact .inl h
  · exact .inr ((hasValue_zero.le_iff hv).mpr h0)

theorem isNaN_or_neg_abs_nonpos (x : Float) : (-x.abs).isNaN ∨ -x.abs ≤ 0 := by
  obtain h | ⟨v, hv, h0⟩ := isNaN_or_hasValue_abs x
  · exact .inl ((isNaN_neg _).trans h)
  · refine .inr ((hv.neg.le_iff hasValue_zero).mpr ?_)
    exact EReal.neg_nonneg.mp (by rwa [neg_neg])

/-! ### Differences -/

theorem unpacked_sub_eq_add_neg (u v : UnpackedFloat) :
    UnpackedFloat.sub Format.binary64 u v = UnpackedFloat.add Format.binary64 u v.neg := by
  cases u with
  | notANumber => rfl
  | infinity s => cases v <;> rfl
  | zero s => cases v <;> rfl
  | finite s m e hm =>
    cases v with
    | notANumber => rfl
    | infinity t => rfl
    | zero t => rfl
    | finite t m' e' hm' =>
      cases t with
      | positive => rfl
      | negative =>
        simp [UnpackedFloat.sub, UnpackedFloat.add, UnpackedFloat.neg, Sign.apply]

theorem minus_eq_add_neg (x y : Float) : x - y = x + -y := by
  show Float.ofModel (.pack (UnpackedFloat.sub Format.binary64 x.toModel.unpack y.toModel.unpack)) =
    .ofModel (.pack (UnpackedFloat.add Format.binary64 x.toModel.unpack (-y).toModel.unpack))
  rw [unpack_neg, unpacked_sub_eq_add_neg]

theorem HasValue.sub {x y : Float} {a b : ℝ} (hx : HasValue x a) (hy : HasValue y b) :
    HasValue (x - y) (nearest (a - b)) := by
  have hneg : HasValue (-y) ((-b : ℝ) : EReal) := by
    rw [EReal.coe_neg]
    exact hy.neg
  rw [minus_eq_add_neg, sub_eq_add_neg]
  exact hx.add hneg

/-! ### Order -/

theorem HasValue.not_isNaN {x : Float} {v : EReal} (h : HasValue x v) : ¬ x.isNaN := by
  rw [h.number]
  exact Bool.false_ne_true

theorem HasValue.unique {x : Float} {v w : EReal} (hv : HasValue x v) (hw : HasValue x w) : v = w :=
  hv.value.symm.trans hw.value

/-- A number between two finite ones is finite. -/
theorem HasValue.isFinite_of_mem {x : Float} {v : EReal} (h : HasValue x v) {a b : ℝ} (ha : a ≤ v)
    (hb : v ≤ b) : x.isFinite := by
  rcases h.unpack_cases with ⟨rfl, -⟩ | ⟨rfl, -⟩ | ⟨-, hfin⟩
  · exact absurd hb (not_le.mpr (EReal.coe_lt_top b))
  · exact absurd ha (not_le.mpr (EReal.bot_lt_coe a))
  · exact hfin

theorem le_of_lt {x y : Float} (h : x < y) : x ≤ y := by
  obtain ⟨a, b, ha, hb, hab⟩ := exists_hasValue_of_lt h
  exact (ha.le_iff hb).mpr hab.le

theorem le_of_not_lt {x y : Float} (hx : x.isNaN = false) (hy : y.isNaN = false) (h : ¬ x < y) :
    y ≤ x := by
  obtain ⟨a, ha⟩ := exists_hasValue hx
  obtain ⟨b, hb⟩ := exists_hasValue hy
  exact (hb.le_iff ha).mpr (not_lt.mp fun hab => h ((ha.lt_iff hb).mpr hab))

theorem lt_of_not_le {x y : Float} (hx : x.isNaN = false) (hy : y.isNaN = false) (h : ¬ x ≤ y) :
    y < x := by
  obtain ⟨a, ha⟩ := exists_hasValue hx
  obtain ⟨b, hb⟩ := exists_hasValue hy
  exact (hb.lt_iff ha).mpr (not_le.mp fun hab => h ((ha.le_iff hb).mpr hab))

theorem le_trans {x y z : Float} (hxy : x ≤ y) (hyz : y ≤ z) : x ≤ z := by
  obtain ⟨a, b, ha, hb, hab⟩ := exists_hasValue_of_le hxy
  obtain ⟨-, c, -, hc, -⟩ := exists_hasValue_of_le hyz
  exact (ha.le_iff hc).mpr (hab.trans ((hb.le_iff hc).mp hyz))

theorem lt_of_lt_of_le {x y z : Float} (hxy : x < y) (hyz : y ≤ z) : x < z := by
  obtain ⟨a, b, ha, hb, hab⟩ := exists_hasValue_of_lt hxy
  obtain ⟨-, c, -, hc, -⟩ := exists_hasValue_of_le hyz
  exact (ha.lt_iff hc).mpr (hab.trans_le ((hb.le_iff hc).mp hyz))

theorem isFinite_of_nonneg_of_le {x y : Float} (h0 : 0 ≤ x) (hxy : x ≤ y) (hy : y.isFinite) :
    x.isFinite := by
  obtain ⟨r, hr⟩ := exists_hasValue_of_isFinite hy
  obtain ⟨v, -, hv, -, -⟩ := exists_hasValue_of_le hxy
  exact hv.isFinite_of_mem ((hasValue_zero.le_iff hv).mp h0) ((hv.le_iff hr).mp hxy)

/-- A NaN is not larger than zero, so it loses against zero like a negative number. -/
theorem larger_zero (x : Float) : larger x 0 = if 0 < x then x else 0 := by
  unfold larger
  by_cases hx : x.isNaN
  · have hle : ¬ 0 < x := by
      intro h
      obtain ⟨a, b, -, hb, -⟩ := exists_hasValue_of_lt h
      rw [hb.number] at hx
      cases hx
    rw [if_pos hx, if_neg hle]
  · rw [if_neg hx, if_neg (by decide)]

/-- A number is finite, or infinite, or none. -/
theorem isFinite_iff (x : Float) : x.isFinite ↔ ¬ (x.isNaN ∨ x.isInf) := by
  show x.toModel.unpack.isFinite ↔ ¬ (x.toModel.unpack.isNaN ∨ x.toModel.unpack.isInf)
  cases x.toModel.unpack <;> simp [UnpackedFloat.isFinite, UnpackedFloat.isNaN, UnpackedFloat.isInf]

theorem not_isNaN_of_isFinite {x : Float} (h : x.isFinite) : ¬ x.isNaN :=
  (not_or.mp ((isFinite_iff x).mp h)).1

end Broadphase.Binary64
