import Broadphase.Proofs.Binary64.Arithmetic

/-! # Products, and results that stay finite

A product of finite numbers has the value nearest to the exact product (`HasValue.mul`), and so has
the conversion of a natural number (`hasValue_ofNat`).  `Within b x` says that `x` is a number from
zero to `2 ^ b`; arithmetic on such numbers stays in a range of the same kind, so it neither overflows
nor turns negative. -/

namespace Broadphase.Binary64

open Float.Model (Format UnpackedFloat)
open Float.Model.UnpackedFloat

/-! ### Products -/

/-- Rounding a significand that is not lengthened before: it must be long enough already, or end
below the least last place. -/
theorem roundsTo_exact (s : Sign) {m : ℕ} {e : ℤ} (hm : 0 < m) (h : 2 ^ 52 ≤ m ∨ e ≤ -1074) :
    RoundsTo (roundWithAccuracy Format.binary64 s m e .exact) (signed s (m * 2 ^ e)) := by
  have hq : (0 : ℝ) < m * 2 ^ e := mul_pos (by exact_mod_cast hm) (two_zpow_pos e)
  have hlen : (m * 2 ^ e : ℝ) < (m + 1) * 2 ^ e :=
    mul_lt_mul_of_pos_right (lt_add_one _) (two_zpow_pos e)
  refine roundsTo_roundWithAccuracy s hq (approximates_exact m rfl) ?_
  unfold lastPlace
  rw [log_of_truncated hm le_rfl hlen]
  rcases h with hlong | hlow
  · have hlog : 52 ≤ m.log2 := (Nat.le_log2 hm.ne').mpr hlong
    omega
  · omega

theorem Normalized.mul {m₁ m₂ : ℕ} {e₁ e₂ : ℤ} (h₁ : Normalized m₁ e₁) (h₂ : Normalized m₂ e₂)
    (hm₁ : 0 < m₁) (hm₂ : 0 < m₂) : 2 ^ 52 ≤ m₁ * m₂ ∨ e₁ + e₂ ≤ -1074 := by
  rcases h₁.full with hlong | hlow
  · exact .inl (hlong.trans (Nat.le_mul_of_pos_right m₁ hm₂))
  rcases h₂.full with hlong | hlow'
  · exact .inl (hlong.trans (Nat.le_mul_of_pos_left m₂ hm₁))
  · exact .inr (by omega)

theorem roundsTo_mul {u v : UnpackedFloat} (hu : Canonical u) (hv : Canonical v) (hu' : u.isFinite)
    (hv' : v.isFinite) : RoundsTo (UnpackedFloat.mul Format.binary64 u v) (real u * real v) := by
  cases u with
  | notANumber => simp [UnpackedFloat.isFinite] at hu'
  | infinity s => simp [UnpackedFloat.isFinite] at hu'
  | zero s =>
      cases v with
      | notANumber => simp [UnpackedFloat.isFinite] at hv'
      | infinity t => simp [UnpackedFloat.isFinite] at hv'
      | zero t => exact ⟨trivial, rfl, by simp [UnpackedFloat.mul, real]⟩
      | finite t m e hm => exact ⟨trivial, rfl, by simp [UnpackedFloat.mul, real]⟩
  | finite s m e hm =>
      cases v with
      | notANumber => simp [UnpackedFloat.isFinite] at hv'
      | infinity t => simp [UnpackedFloat.isFinite] at hv'
      | zero t => exact ⟨trivial, rfl, by simp [UnpackedFloat.mul, real]⟩
      | finite t m' e' hm' =>
          have hval : (((m * m' : ℕ) : ℝ) * 2 ^ (e + e')) = m * 2 ^ e * (m' * 2 ^ e') := by
            rw [zpow_add₀ two_ne_zero]
            push_cast
            ring
          have hsign : real (.finite s m e hm) * real (.finite t m' e' hm') =
              signed (s * t) (m * 2 ^ e * (m' * 2 ^ e')) := by
            cases s <;> cases t <;> simp only [real, signed]
            · exact neg_mul_neg _ _
            · exact neg_mul _ _
            · exact mul_neg _ _
          rw [hsign, ← hval]
          exact roundsTo_exact (s * t) (Nat.mul_pos hm hm') (Normalized.mul hu hv hm hm')

theorem HasValue.mul {x y : Float} {a b : ℝ} (hx : HasValue x a) (hy : HasValue y b) :
    HasValue (x * y) (nearest (a * b)) := by
  obtain ⟨hx', rfl⟩ := hx.isFinite
  obtain ⟨hy', rfl⟩ := hy.isFinite
  exact hasValue_pack
    (roundsTo_mul (canonical_unpack x.toModel).1 (canonical_unpack y.toModel).1 hx' hy')

/-! ### Natural numbers -/

theorem hasValue_one : HasValue 1 ((1 : ℝ) : EReal) := by
  have h : (1 : Float).toModel.unpack = .finite .positive (2 ^ 52) (-52) (by decide) := by rfl
  refine ⟨by rfl, ?_⟩
  rw [h, extended_of_isFinite rfl]
  simp only [real, signed]
  norm_num

theorem hasValue_toFloat (n : UInt64) : HasValue n.toFloat (nearest n.toNat) := by
  have h := roundsTo_normalize n.toNat 0 .positive
  rw [zpow_zero, mul_one, Int.cast_natCast] at h
  exact hasValue_pack h

theorem nearest_natCast {n : ℕ} (h : n < 2 ^ 53) : nearest n = ((n : ℝ) : EReal) := by
  have hr : rounded n = n := by
    have := rounded_dyadic (z := n) (e := 0) (by simpa using h) (by omega)
    simpa using this
  have hn : (n : ℝ) < overflow := by
    have h53 : (n : ℝ) < 2 ^ (53 : ℤ) := by exact_mod_cast h
    exact h53.trans_le (two_zpow_le (by omega))
  rw [nearest_of_abs_lt, hr]
  rw [hr, abs_of_nonneg n.cast_nonneg]
  exact hn

/-- A long number is shifted left by the length of a significand and rounded. -/
theorem roundsTo_ofScientific {n : ℕ} (hn : 0 < n) :
    RoundsTo (UnpackedFloat.ofScientific Format.binary64 n 0) n := by
  have hlong : 2 ^ 53 ≤ n <<< 53 * 10 ^ 0 := by
    rw [Nat.shiftLeft_eq, pow_zero, mul_one]
    exact Nat.le_mul_of_pos_left _ hn
  have hlow : ¬ (0 : ℤ) < -(2 ^ Format.binary64.exponentBits + (n.log2 : ℤ)) := by
    have hbits : (0 : ℤ) < 2 ^ Format.binary64.exponentBits := by decide
    omega
  have hval : (n : ℝ) = signed .positive ((n <<< 53 * 10 ^ 0 : ℕ) * 2 ^ (-53 + 0 : ℤ)) := by
    rw [signed, Nat.shiftLeft_eq]
    push_cast
    norm_num
    ring
  have h := roundsTo_exact .positive (e := -53 + 0) (by omega : 0 < n <<< 53 * 10 ^ 0)
    (.inl (by omega))
  rw [← hval] at h
  unfold UnpackedFloat.ofScientific
  rw [dif_neg hn.ne', if_neg (by decide), if_neg hlow, if_pos le_rfl]
  exact h

theorem hasValue_ofNat (n : ℕ) : HasValue (Float.ofNat n) (nearest n) := by
  show HasValue (Float.ofScientific n false 0) _
  unfold Float.ofScientific
  by_cases h : n < 2 ^ 53
  · -- a short number is converted exactly and multiplied by one
    rw [dif_pos ⟨h, by omega⟩]
    have hn : (n.toUInt64).toNat = n := Nat.mod_eq_of_lt (by omega)
    have hval := hasValue_toFloat n.toUInt64
    rw [hn, nearest_natCast h] at hval
    have := hval.mul hasValue_one
    rwa [mul_one] at this
  · rw [dif_neg fun h' => h h'.1]
    exact hasValue_pack (roundsTo_ofScientific (by omega))

/-! ### Ranges -/

/-- A number from zero to `2 ^ b`. -/
def Within (b : ℕ) (x : Float) : Prop := ∃ r : ℝ, HasValue x r ∧ 0 ≤ r ∧ r ≤ (2 ^ b : ℕ)

theorem Within.isFinite {b : ℕ} {x : Float} (h : Within b x) : x.isFinite := by
  obtain ⟨r, hr, -, -⟩ := h
  exact hr.isFinite.1

theorem Within.nonneg {b : ℕ} {x : Float} (h : Within b x) : x ≥ 0 := by
  obtain ⟨r, hr, h0, -⟩ := h
  exact (hasValue_zero.le_iff hr).mpr (EReal.coe_le_coe_iff.mpr h0)

/-- A result in the range of binary64 is rounded inside its range. -/
theorem within_of_nearest {b : ℕ} {x : Float} {r : ℝ} (hx : HasValue x (nearest r)) (hb : b < 1024)
    (h0 : 0 ≤ r) (hle : r ≤ (2 ^ b : ℕ)) : Within b x := by
  have hpow : rounded ((2 ^ b : ℕ) : ℝ) = (2 ^ b : ℕ) := by
    have := rounded_dyadic (z := 1) (e := b) (by decide) (by omega)
    simpa using this
  have hlo : 0 ≤ rounded r := by simpa using rounded_mono h0
  have hhi : rounded r ≤ (2 ^ b : ℕ) := (rounded_mono hle).trans hpow.le
  have hlt : ((2 ^ b : ℕ) : ℝ) < overflow := by
    unfold overflow
    push_cast
    rw [← zpow_natCast]
    exact zpow_lt_zpow_right₀ one_lt_two (by omega)
  rw [nearest_of_abs_lt (by rw [abs_of_nonneg hlo]; exact hhi.trans_lt hlt)] at hx
  exact ⟨rounded r, hx, hlo, hhi⟩

theorem within_ofNat {b n : ℕ} (hb : b < 1024) (h : n ≤ 2 ^ b) : Within b (Float.ofNat n) :=
  within_of_nearest (hasValue_ofNat n) hb n.cast_nonneg (by exact_mod_cast h)

theorem Within.add {b : ℕ} {x y : Float} (hx : Within b x) (hy : Within b y) (hb : b + 1 < 1024) :
    Within (b + 1) (x + y) := by
  obtain ⟨r, hr, hr0, hr1⟩ := hx
  obtain ⟨t, ht, ht0, ht1⟩ := hy
  refine within_of_nearest (hr.add ht) hb (add_nonneg hr0 ht0) ?_
  rw [pow_succ, Nat.mul_two, Nat.cast_add]
  linarith

theorem Within.mul {a b : ℕ} {x y : Float} (hx : Within a x) (hy : Within b y)
    (hab : a + b < 1024) : Within (a + b) (x * y) := by
  obtain ⟨r, hr, hr0, hr1⟩ := hx
  obtain ⟨t, ht, ht0, ht1⟩ := hy
  refine within_of_nearest (hr.mul ht) hab (mul_nonneg hr0 ht0) ?_
  rw [pow_add, Nat.cast_mul]
  exact mul_le_mul hr1 ht1 ht0 (Nat.cast_nonneg _)

theorem Within.div {b : ℕ} {x c : Float} (hx : Within b x) (hb : b < 1024) (hc : c.isFinite)
    (h1 : 1 ≤ c) : Within b (x / c) := by
  obtain ⟨r, hr, hr0, hr1⟩ := hx
  obtain ⟨t, ht⟩ := exists_hasValue_of_isFinite hc
  have ht1 : 1 ≤ t := EReal.coe_le_coe_iff.mp ((hasValue_one.le_iff ht).mp h1)
  have ht0 : 0 < t := one_pos.trans_le ht1
  exact within_of_nearest (hr.div ht ht0.ne') hb (div_nonneg hr0 ht0.le)
    ((div_le_self hr0 ht1).trans hr1)

end Broadphase.Binary64
