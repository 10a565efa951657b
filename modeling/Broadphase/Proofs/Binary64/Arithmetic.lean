import Broadphase.Binary64
import Broadphase.Proofs.Binary64.Model

/-! # Arithmetic and order of binary64 numbers

`HasValue x v` says that `x` is no NaN and has the value `v`, a real number or an infinity.  Sums,
quotients and comparisons are described through it: an operation on finite numbers has the value
that is nearest to the exact result (`HasValue.add`, `HasValue.div`), and comparing numbers compares
values (`HasValue.lt_iff`, `HasValue.le_iff`).

Two facts carry the geometry: adding an extent never moves a coordinate down (`le_add_right`), and
the number of the cell that a coordinate falls into never goes down when the coordinate goes up
(`div_mono`, `floorInt64_mono`). -/

namespace Broadphase.Binary64

open Float.Model (Format UnpackedFloat totalExponent)
open Float.Model.UnpackedFloat

/-- The number `x` has the value `v`; a NaN has none. -/
structure HasValue (x : Float) (v : EReal) : Prop where
  number : x.isNaN = false
  value : extended x.toModel.unpack = v

theorem exists_hasValue {x : Float} (h : x.isNaN = false) : ∃ v, HasValue x v := ⟨_, h, rfl⟩

/-- A number is an infinity or finite. -/
theorem HasValue.unpack_cases {x : Float} {v : EReal} (h : HasValue x v) :
    v = ⊤ ∧ x.toModel.unpack = .infinity .positive ∨ v = ⊥ ∧ x.toModel.unpack = .infinity .negative ∨
      v = (real x.toModel.unpack : ℝ) ∧ x.toModel.unpack.isFinite := by
  have hv := h.value
  have hn : x.toModel.unpack.isNaN = false := h.number
  cases hx : x.toModel.unpack with
  | notANumber => simp [hx, UnpackedFloat.isNaN] at hn
  | infinity s =>
      rw [hx] at hv
      cases s with
      | positive => exact .inl ⟨hv.symm, rfl⟩
      | negative => exact .inr (.inl ⟨hv.symm, rfl⟩)
  | zero s =>
      rw [hx] at hv
      exact .inr (.inr ⟨hv.symm, rfl⟩)
  | finite s m e hm =>
      rw [hx] at hv
      exact .inr (.inr ⟨hv.symm, rfl⟩)

theorem HasValue.isFinite {x : Float} {r : ℝ} (h : HasValue x r) :
    x.toModel.unpack.isFinite ∧ real x.toModel.unpack = r := by
  rcases h.unpack_cases with ⟨hv, -⟩ | ⟨hv, -⟩ | ⟨hv, hfin⟩
  · exact absurd hv (EReal.coe_ne_top r)
  · exact absurd hv (EReal.coe_ne_bot r)
  · exact ⟨hfin, (EReal.coe_eq_coe_iff.mp hv).symm⟩

theorem exists_hasValue_of_isFinite {x : Float} (h : x.isFinite) : ∃ r : ℝ, HasValue x r := by
  have hu : x.toModel.unpack.isFinite := h
  refine ⟨_, ?_, extended_of_isFinite hu⟩
  show x.toModel.unpack.isNaN = false
  cases hx : x.toModel.unpack with
  | notANumber => simp [hx, UnpackedFloat.isFinite] at hu
  | infinity s => rfl
  | zero s => rfl
  | finite s m e hm => rfl

/-! ### Comparing -/

theorem HasValue.lt_iff {x y : Float} {a b : EReal} (hx : HasValue x a) (hy : HasValue y b) :
    x < y ↔ a < b := by
  obtain ⟨o, ho, hc⟩ := compare_compares (canonical_unpack x.toModel).1 (canonical_unpack y.toModel).1
    hx.number hy.number
  rw [hx.value, hy.value] at hc
  rw [← hc.eq_lt]
  show decide ((x.toModel.unpack.compare y.toModel.unpack == some .lt) = true) = true ↔ _
  rw [ho]
  simp

theorem HasValue.le_iff {x y : Float} {a b : EReal} (hx : HasValue x a) (hy : HasValue y b) :
    x ≤ y ↔ a ≤ b := by
  obtain ⟨o, ho, hc⟩ := compare_compares (canonical_unpack x.toModel).1 (canonical_unpack y.toModel).1
    hx.number hy.number
  rw [hx.value, hy.value] at hc
  rw [← hc.ne_gt]
  show decide ((x.toModel.unpack.compare y.toModel.unpack).any Ordering.isLE = true) = true ↔ _
  rw [ho]
  cases o <;> simp

/-- Only numbers are compared: a NaN is in no order with anything. -/
theorem exists_hasValue_of_compare {x y : Float} {o : Ordering}
    (h : x.toModel.unpack.compare y.toModel.unpack = some o) :
    ∃ a b, HasValue x a ∧ HasValue y b := by
  have hx : x.isNaN = false := by
    show x.toModel.unpack.isNaN = false
    cases hu : x.toModel.unpack with
    | notANumber => simp [hu, UnpackedFloat.compare] at h
    | infinity s => rfl
    | zero s => rfl
    | finite s m e hm => rfl
  have hy : y.isNaN = false := by
    show y.toModel.unpack.isNaN = false
    cases hv : y.toModel.unpack with
    | notANumber => cases hu : x.toModel.unpack <;> simp [hu, hv, UnpackedFloat.compare] at h
    | infinity s => rfl
    | zero s => rfl
    | finite s m e hm => rfl
  obtain ⟨a, ha⟩ := exists_hasValue hx
  obtain ⟨b, hb⟩ := exists_hasValue hy
  exact ⟨a, b, ha, hb⟩

theorem exists_hasValue_of_lt {x y : Float} (h : x < y) :
    ∃ a b, HasValue x a ∧ HasValue y b ∧ a < b := by
  have hc : x.toModel.unpack.compare y.toModel.unpack = some .lt := by
    have : decide ((x.toModel.unpack.compare y.toModel.unpack == some .lt) = true) = true := h
    simpa using this
  obtain ⟨a, b, ha, hb⟩ := exists_hasValue_of_compare hc
  exact ⟨a, b, ha, hb, (ha.lt_iff hb).mp h⟩

theorem exists_hasValue_of_le {x y : Float} (h : x ≤ y) :
    ∃ a b, HasValue x a ∧ HasValue y b ∧ a ≤ b := by
  have hany : (x.toModel.unpack.compare y.toModel.unpack).any Ordering.isLE = true :=
    of_decide_eq_true h
  obtain ⟨o, ho, -⟩ := (Option.any_eq_true _ _).mp hany
  obtain ⟨a, b, ha, hb⟩ := exists_hasValue_of_compare ho
  exact ⟨a, b, ha, hb, (ha.le_iff hb).mp h⟩

/-! ### Delivering a result -/

/-- A canonical result of rounding is delivered as the number nearest to the exact result. -/
theorem hasValue_pack {u : UnpackedFloat} {x : ℝ} (h : RoundsTo u x) :
    HasValue (.ofModel (.pack u)) (nearest x) := by
  have hu : (Float.ofModel (.pack u)).toModel.unpack = saturated u := unpack_pack h.canonical
  have hfin := h.isFinite
  constructor
  · show (Float.ofModel (.pack u)).toModel.unpack.isNaN = false
    rw [hu]
    cases u with
    | notANumber => simp [UnpackedFloat.isFinite] at hfin
    | infinity s => rfl
    | zero s => rfl
    | finite s m e hm =>
        simp only [saturated]
        split_ifs <;> rfl
  · rw [hu]
    exact extended_saturated h

theorem nearest_of_hasValue {x : Float} {r : ℝ} (h : HasValue x r) : nearest r = r := by
  obtain ⟨hfin, hr⟩ := h.isFinite
  obtain ⟨hc, hs⟩ := canonical_unpack x.toModel
  rw [← extended_saturated ⟨hc, hfin, hr.trans (hr ▸ (rounded_real hc).symm)⟩, hs]
  exact h.value

/-! ### Sums -/

theorem signed_eq_apply (s : Sign) (m : ℕ) (e : ℤ) :
    signed s (m * 2 ^ e) = (s.apply (m : ℤ) : ℤ) * 2 ^ e := by
  cases s <;> simp [signed, Sign.apply]

theorem apply_decreaseExponent (s : Sign) (m : ℕ) {e t : ℤ} (h : t ≤ e) :
    ((s.apply ((decreaseExponent m e t).1 : ℤ) : ℤ) : ℝ) * 2 ^ t = signed s (m * 2 ^ e) := by
  obtain ⟨k, rfl⟩ : ∃ k : ℕ, e = t + k := ⟨(e - t).toNat, by omega⟩
  have hk : (decreaseExponent m (t + k) t).1 = m * 2 ^ k := by
    simp [decreaseExponent, Nat.shiftLeft_eq]
  rw [← signed_eq_apply, hk, zpow_add₀ two_ne_zero, zpow_natCast]
  congr 1
  push_cast
  ring

theorem roundsTo_add {u v : UnpackedFloat} (hu : Canonical u) (hv : Canonical v) (hu' : u.isFinite)
    (hv' : v.isFinite) :
    RoundsTo (UnpackedFloat.add Format.binary64 u v) (real u + real v) := by
  cases u with
  | notANumber => simp [UnpackedFloat.isFinite] at hu'
  | infinity s => simp [UnpackedFloat.isFinite] at hu'
  | zero s =>
      cases v with
      | notANumber => simp [UnpackedFloat.isFinite] at hv'
      | infinity t => simp [UnpackedFloat.isFinite] at hv'
      | zero t =>
          have h0 : rounded (real (.zero s) + real (.zero t)) = 0 := by simp [real]
          cases s <;> cases t <;> exact ⟨trivial, rfl, h0.symm⟩
      | finite t m e hm =>
          refine ⟨hv, rfl, ?_⟩
          rw [show real (.zero s) = 0 from rfl, zero_add, rounded_real hv]
          rfl
  | finite s m e hm =>
      cases v with
      | notANumber => simp [UnpackedFloat.isFinite] at hv'
      | infinity t => simp [UnpackedFloat.isFinite] at hv'
      | zero t =>
          refine ⟨hu, rfl, ?_⟩
          rw [show real (.zero t) = 0 from rfl, add_zero, rounded_real hu]
          rfl
      | finite t m' e' hm' =>
          have h := roundsTo_normalize
            (s.apply (decreaseExponent m e (min e e')).1 + t.apply (decreaseExponent m' e' (min e e')).1)
            (min e e') .positive
          rw [Int.cast_add, add_mul, apply_decreaseExponent s m (min_le_left e e'),
            apply_decreaseExponent t m' (min_le_right e e')] at h
          exact h

theorem HasValue.add {x y : Float} {a b : ℝ} (hx : HasValue x a) (hy : HasValue y b) :
    HasValue (x + y) (nearest (a + b)) := by
  obtain ⟨hx', rfl⟩ := hx.isFinite
  obtain ⟨hy', rfl⟩ := hy.isFinite
  exact hasValue_pack
    (roundsTo_add (canonical_unpack x.toModel).1 (canonical_unpack y.toModel).1 hx' hy')

theorem unpack_zero : (0 : Float).toModel.unpack = .zero .positive := by rfl

theorem hasValue_zero : HasValue 0 ((0 : ℝ) : EReal) := by
  refine ⟨?_, ?_⟩
  · show (0 : Float).toModel.unpack.isNaN = false
    rw [unpack_zero]
    rfl
  · rw [unpack_zero]
    rfl

theorem hasValue_of_unpack_infinity {x : Float} {s : Sign} (h : x.toModel.unpack = .infinity s) :
    HasValue x (extended (.infinity s)) := by
  refine ⟨?_, by rw [h]⟩
  show x.toModel.unpack.isNaN = false
  rw [h]
  rfl

theorem unpack_infinity_add {x w : Float} {s : Sign} (hx : x.toModel.unpack = .infinity s)
    (hw : w.toModel.unpack.isFinite) : (x + w).toModel.unpack = .infinity s := by
  have hadd : UnpackedFloat.add Format.binary64 x.toModel.unpack w.toModel.unpack = .infinity s := by
    rw [hx]
    cases hu : w.toModel.unpack with
    | notANumber => simp [hu, UnpackedFloat.isFinite] at hw
    | infinity t => simp [hu, UnpackedFloat.isFinite] at hw
    | zero t => rfl
    | finite t m e hm => rfl
  show (Float.Model.pack (UnpackedFloat.add _ _ _)).unpack = _
  rw [hadd]
  exact unpack_pack trivial

/-- Adding a finite number that is not negative never moves a number down. -/
theorem le_add_right {x w : Float} {a : EReal} (hx : HasValue x a) (hw : w.isFinite) (h0 : w ≥ 0) :
    ∃ b, HasValue (x + w) b ∧ a ≤ b := by
  obtain ⟨r, hr⟩ := exists_hasValue_of_isFinite hw
  have hr0 : 0 ≤ r := EReal.coe_le_coe_iff.mp ((hasValue_zero.le_iff hr).mp h0)
  rcases hx.unpack_cases with ⟨rfl, hu⟩ | ⟨rfl, hu⟩ | ⟨rfl, hu⟩
  · exact ⟨_, hasValue_of_unpack_infinity (unpack_infinity_add hu hr.isFinite.1), le_rfl⟩
  · exact ⟨_, hasValue_of_unpack_infinity (unpack_infinity_add hu hr.isFinite.1), bot_le⟩
  · refine ⟨_, hx.add hr, ?_⟩
    rw [← nearest_of_hasValue hx]
    exact nearest_mono (le_add_of_nonneg_right hr0)

/-! ### Quotients -/

theorem approximates_quotient (n : ℕ) {d : ℕ} (hd : 0 < d) :
    Approximates (.ofMantissaAndAccuracy (n / d) (accuracyOfFraction (n % d) d)) (n / d : ℝ) := by
  have hd' : (0 : ℝ) < d := by exact_mod_cast hd
  have hmod : (n % d : ℕ) < d := Nat.mod_lt n hd
  -- the quotient exceeds the truncated one by the remainder's share of the divisor
  have hn : (n / d : ℝ) = (n / d : ℕ) + (n % d : ℕ) / d := by
    rw [div_eq_iff hd'.ne', add_mul, div_mul_cancel₀ _ hd'.ne']
    exact_mod_cast (Nat.div_add_mod' n d).symm
  rw [hn]
  generalize n % d = r at hmod
  generalize n / d = k
  have hr : (r : ℝ) < d := by exact_mod_cast hmod
  unfold accuracyOfFraction
  split_ifs with h0
  · show (k : ℝ) + r / d = k
    rw [h0, Nat.cast_zero, zero_div, add_zero]
  have hpos : (0 : ℝ) < r / d := div_pos (by exact_mod_cast Nat.pos_of_ne_zero h0) hd'
  have hlt1 : (r / d : ℝ) < 1 := (div_lt_one hd').mpr hr
  rcases lt_trichotomy (2 * r) d with h | h | h
  · have hhalf : (r / d : ℝ) < 1 / 2 := by
      rw [div_lt_div_iff₀ hd' two_pos]
      exact_mod_cast (by omega : r * 2 < 1 * d)
    rw [compare_lt_iff_lt.mpr h]
    exact ⟨by show (k : ℝ) < _; linarith, by show _ < (k : ℝ) + 1 / 2; linarith⟩
  · have hhalf : (r / d : ℝ) = 1 / 2 := by
      rw [div_eq_div_iff hd'.ne' two_ne_zero]
      exact_mod_cast (by omega : r * 2 = 1 * d)
    rw [compare_eq_iff_eq.mpr h]
    show (k : ℝ) + r / d = k + 1 / 2
    rw [hhalf]
  · have hhalf : (1 / 2 : ℝ) < r / d := by
      rw [div_lt_div_iff₀ two_pos hd']
      exact_mod_cast (by omega : 1 * d < r * 2)
    rw [compare_gt_iff_gt.mpr h]
    exact ⟨by show (k : ℝ) + 1 / 2 < _; linarith, by show _ < (k : ℝ) + 1; linarith⟩

theorem log_quotient_ge {m₁ m₂ : ℕ} (e₁ e₂ : ℤ) (h₁ : 0 < m₁) (h₂ : 0 < m₂) :
    (m₁.log2 + e₁) - (m₂.log2 + e₂) - 1 ≤ Int.log 2 (m₁ * 2 ^ e₁ / (m₂ * 2 ^ e₂) : ℝ) := by
  have hp₁ : (0 : ℝ) < m₁ * 2 ^ e₁ := mul_pos (by exact_mod_cast h₁) (two_zpow_pos e₁)
  have hp₂ : (0 : ℝ) < m₂ * 2 ^ e₂ := mul_pos (by exact_mod_cast h₂) (two_zpow_pos e₂)
  have hl₁ : (2 : ℝ) ^ (m₁.log2 + e₁) ≤ m₁ * 2 ^ e₁ := by
    rw [zpow_add₀ two_ne_zero]
    exact mul_le_mul_of_nonneg_right (by exact_mod_cast Nat.log2_self_le h₁.ne') (two_zpow_pos e₁).le
  have hl₂ : (m₂ * 2 ^ e₂ : ℝ) ≤ 2 ^ (m₂.log2 + 1 + e₂) := by
    rw [zpow_add₀ two_ne_zero]
    exact mul_le_mul_of_nonneg_right (by exact_mod_cast (Nat.lt_log2_self (n := m₂)).le)
      (two_zpow_pos e₂).le
  rw [← Int.zpow_le_iff_le_log one_lt_two (div_pos hp₁ hp₂), le_div_iff₀ hp₂]
  calc ((2 : ℕ) : ℝ) ^ ((m₁.log2 + e₁) - (m₂.log2 + e₂) - 1) * (m₂ * 2 ^ e₂)
      ≤ 2 ^ ((m₁.log2 + e₁) - (m₂.log2 + e₂) - 1) * 2 ^ (m₂.log2 + 1 + e₂) :=
        mul_le_mul_of_nonneg_left hl₂ (two_zpow_pos _).le
    _ = 2 ^ (m₁.log2 + e₁) := by
        rw [← zpow_add₀ two_ne_zero]
        congr 1
        ring
    _ ≤ m₁ * 2 ^ e₁ := hl₁

/-- The core library divides with enough places for the rounding step to see the exact quotient. -/
theorem roundsTo_divCore (s : Sign) {m₁ m₂ : ℕ} (e₁ e₂ : ℤ) (h₁ : 0 < m₁) (h₂ : 0 < m₂) :
    let (m, e, acc) := divCore Format.binary64 m₁ e₁ m₂ e₂
    RoundsTo (roundWithAccuracy Format.binary64 s m e acc)
      (signed s (m₁ * 2 ^ e₁ / (m₂ * 2 ^ e₂))) := by
  have hp₂ : (0 : ℝ) < m₂ := by exact_mod_cast h₂
  have hq : (0 : ℝ) < m₁ * 2 ^ e₁ / (m₂ * 2 ^ e₂) :=
    div_pos (mul_pos (by exact_mod_cast h₁) (two_zpow_pos e₁)) (mul_pos hp₂ (two_zpow_pos e₂))
  have htarget : Format.binary64.targetExponent (totalExponent m₁ e₁ - totalExponent m₂ e₂) =
      max ((m₁.log2 + e₁) - (m₂.log2 + e₂) - 53) (-1074) := by
    simp only [Format.targetExponent, totalExponent, Format.mantissaBits, Format.minExponent]
    norm_num
    omega
  unfold divCore
  rw [htarget]
  generalize hG : min (e₁ - e₂) (max ((m₁.log2 + e₁) - (m₂.log2 + e₂) - 53) (-1074)) = t
  obtain ⟨k, hk⟩ : ∃ k : ℕ, e₁ - e₂ = t + k := ⟨(e₁ - e₂ - t).toNat, by omega⟩
  have hshift : (e₁ - e₂ - t).toNat = k := by omega
  simp only [hshift, Nat.shiftLeft_eq]
  refine roundsTo_roundWithAccuracy s hq ?_ ?_
  · have hexact : (m₁ * 2 ^ e₁ / (m₂ * 2 ^ e₂) : ℝ) / 2 ^ t = ((m₁ * 2 ^ k : ℕ) : ℝ) / m₂ := by
      have he : e₁ = t + k + e₂ := by omega
      have h1 := (two_zpow_pos e₂).ne'
      have h2 := (two_zpow_pos t).ne'
      rw [he, zpow_add₀ two_ne_zero, zpow_add₀ two_ne_zero, zpow_natCast]
      push_cast
      field_simp
    rw [hexact]
    exact approximates_quotient _ h₂
  · have hlog := log_quotient_ge e₁ e₂ h₁ h₂
    unfold lastPlace
    omega

theorem roundsTo_div {u v : UnpackedFloat} (hu' : u.isFinite) (hv' : v.isFinite)
    (hv0 : real v ≠ 0) : RoundsTo (UnpackedFloat.div Format.binary64 u v) (real u / real v) := by
  cases v with
  | notANumber => simp [UnpackedFloat.isFinite] at hv'
  | infinity t => simp [UnpackedFloat.isFinite] at hv'
  | zero t => simp [real] at hv0
  | finite t m' e' hm' =>
      cases u with
      | notANumber => simp [UnpackedFloat.isFinite] at hu'
      | infinity s => simp [UnpackedFloat.isFinite] at hu'
      | zero s =>
          refine ⟨trivial, rfl, ?_⟩
          rw [show real (.zero s) = 0 from rfl, zero_div, rounded_zero]
          rfl
      | finite s m e hm =>
          have hsign : real (.finite s m e hm) / real (.finite t m' e' hm') =
              signed (s / t) (m * 2 ^ e / (m' * 2 ^ e')) := by
            cases s <;> cases t <;> simp only [real, signed]
            · exact neg_div_neg_eq _ _
            · exact neg_div _ _
            · exact div_neg _
            · rfl
          rw [hsign]
          exact roundsTo_divCore (s / t) e e' hm hm'

theorem HasValue.div {x y : Float} {a b : ℝ} (hx : HasValue x a) (hy : HasValue y b) (h0 : b ≠ 0) :
    HasValue (x / y) (nearest (a / b)) := by
  obtain ⟨hx', rfl⟩ := hx.isFinite
  obtain ⟨hy', rfl⟩ := hy.isFinite
  exact hasValue_pack (roundsTo_div hx' hy' h0)

theorem unpack_infinity_div {x y : Float} {s : Sign} {b : ℝ} (hx : x.toModel.unpack = .infinity s)
    (hy : HasValue y b) (h0 : 0 < b) : (x / y).toModel.unpack = .infinity s := by
  obtain ⟨hfin, hb⟩ := hy.isFinite
  have hdiv : UnpackedFloat.div Format.binary64 x.toModel.unpack y.toModel.unpack = .infinity s := by
    rw [hx]
    cases hu : y.toModel.unpack with
    | notANumber => simp [hu, UnpackedFloat.isFinite] at hfin
    | infinity t => simp [hu, UnpackedFloat.isFinite] at hfin
    | zero t =>
        rw [hu] at hb
        exact absurd hb h0.ne
    | finite t m e hm =>
        cases t with
        | positive => cases s <;> rfl
        | negative =>
            have hpos : (0 : ℝ) ≤ m * 2 ^ e := mul_nonneg m.cast_nonneg (two_zpow_pos e).le
            rw [hu] at hb
            simp only [real, signed] at hb
            linarith
  show (Float.Model.pack (UnpackedFloat.div _ _ _)).unpack = _
  rw [hdiv]
  exact unpack_pack trivial

/-- Dividing by a positive number keeps the order. -/
theorem div_mono {x y c : Float} {u v : EReal} {b : ℝ} (hx : HasValue x u) (hy : HasValue y v)
    (hc : HasValue c b) (h0 : 0 < b) (h : u ≤ v) :
    ∃ u' v', HasValue (x / c) u' ∧ HasValue (y / c) v' ∧ u' ≤ v' := by
  have htop {z : Float} (hz : z.toModel.unpack = .infinity .positive) : HasValue (z / c) ⊤ :=
    hasValue_of_unpack_infinity (unpack_infinity_div hz hc h0)
  have hbot {z : Float} (hz : z.toModel.unpack = .infinity .negative) : HasValue (z / c) ⊥ :=
    hasValue_of_unpack_infinity (unpack_infinity_div hz hc h0)
  rcases hx.unpack_cases with ⟨rfl, hx'⟩ | ⟨rfl, hx'⟩ | ⟨rfl, hx'⟩ <;>
    rcases hy.unpack_cases with ⟨rfl, hy'⟩ | ⟨rfl, hy'⟩ | ⟨rfl, hy'⟩
  · exact ⟨_, _, htop hx', htop hy', le_rfl⟩
  · exact absurd (top_le_iff.mp h) bot_ne_top
  · exact absurd (top_le_iff.mp h) (EReal.coe_ne_top _)
  · exact ⟨_, _, hbot hx', htop hy', bot_le⟩
  · exact ⟨_, _, hbot hx', hbot hy', le_rfl⟩
  · exact ⟨_, _, hbot hx', hy.div hc h0.ne', bot_le⟩
  · exact ⟨_, _, hx.div hc h0.ne', htop hy', le_top⟩
  · exact absurd (le_bot_iff.mp h) (EReal.coe_ne_bot _)
  · refine ⟨_, _, hx.div hc h0.ne', hy.div hc h0.ne', nearest_mono ?_⟩
    exact div_le_div_of_nonneg_right (EReal.coe_le_coe_iff.mp h) h0.le

/-! ### Rounding down -/

theorem floorScaled_eq (z e : ℤ) : floorScaled z e = ⌊(z * 2 ^ e : ℝ)⌋ := by
  simp only [floorScaled, Int.pow_eq]
  split_ifs with he
  · obtain ⟨k, rfl⟩ := Int.eq_ofNat_of_zero_le he
    rw [Int.toNat_natCast, zpow_natCast]
    exact_mod_cast (Int.floor_intCast (R := ℝ) (z * 2 ^ k)).symm
  · obtain ⟨k, rfl⟩ : ∃ k : ℕ, e = -k := ⟨(-e).toNat, by omega⟩
    rw [neg_neg, Int.toNat_natCast, zpow_neg, zpow_natCast, ← div_eq_mul_inv]
    have := Int.floor_div_natCast (z : ℝ) (2 ^ k)
    push_cast at this
    rw [this, Int.floor_intCast]

theorem floorInt64_of_hasValue {x : Float} {r : ℝ} (h : HasValue x r) :
    floorInt64 x = saturate ⌊r⌋ := by
  obtain ⟨hfin, rfl⟩ := h.isFinite
  unfold floorInt64
  cases hu : x.toModel.unpack with
  | notANumber => simp [hu, UnpackedFloat.isFinite] at hfin
  | infinity s => simp [hu, UnpackedFloat.isFinite] at hfin
  | zero s =>
      simp only [real, Int.floor_zero]
      decide
  | finite s m e hm =>
      simp only [real]
      rw [signed_eq_apply, floorScaled_eq]

theorem floorInt64_mem (x : Float) : minInt64 ≤ floorInt64 x ∧ floorInt64 x ≤ maxInt64 := by
  unfold floorInt64
  split
  · decide
  · decide
  · decide
  · decide
  · exact saturate_mem _

theorem floorInt64_mono {x y : Float} {u v : EReal} (hx : HasValue x u) (hy : HasValue y v) (h : u ≤ v) :
    floorInt64 x ≤ floorInt64 y := by
  rcases hx.unpack_cases with ⟨rfl, hx'⟩ | ⟨rfl, hx'⟩ | ⟨rfl, -⟩
  · obtain rfl := top_le_iff.mp h
    rcases hy.unpack_cases with ⟨-, hy'⟩ | ⟨hy', -⟩ | ⟨hy', -⟩
    · unfold floorInt64
      rw [hx', hy']
    · exact absurd hy' top_ne_bot
    · exact absurd hy'.symm (EReal.coe_ne_top _)
  · have hmin : floorInt64 x = minInt64 := by
      unfold floorInt64
      rw [hx']
    rw [hmin]
    exact (floorInt64_mem y).1
  · rcases hy.unpack_cases with ⟨rfl, hy'⟩ | ⟨rfl, -⟩ | ⟨rfl, -⟩
    · have hmax : floorInt64 y = maxInt64 := by
        unfold floorInt64
        rw [hy']
      rw [hmax]
      exact (floorInt64_mem x).2
    · exact absurd (le_bot_iff.mp h) (EReal.coe_ne_bot _)
    · rw [floorInt64_of_hasValue hx, floorInt64_of_hasValue hy]
      exact saturate_mono (Int.floor_le_floor (EReal.coe_le_coe_iff.mp h))

/-! ### What is no number -/

theorem unpack_of_isNaN {x : Float} (h : x.isNaN) : x.toModel.unpack = .notANumber := by
  have hu' : x.toModel.unpack.isNaN := h
  cases hu : x.toModel.unpack with
  | notANumber => rfl
  | infinity s => simp [hu, UnpackedFloat.isNaN] at hu'
  | zero s => simp [hu, UnpackedFloat.isNaN] at hu'
  | finite s m e hm => simp [hu, UnpackedFloat.isNaN] at hu'

theorem isNaN_pack : (Float.Model.pack .notANumber).unpack.isNaN := by
  have h : Canonical .notANumber := trivial
  rw [unpack_pack h]
  rfl

theorem isNaN_add {x : Float} (y : Float) (h : x.isNaN) : (x + y).isNaN := by
  show (Float.Model.pack (UnpackedFloat.add _ _ _)).unpack.isNaN
  rw [unpack_of_isNaN h]
  exact isNaN_pack

theorem isNaN_div {x : Float} (y : Float) (h : x.isNaN) : (x / y).isNaN := by
  show (Float.Model.pack (UnpackedFloat.div _ _ _)).unpack.isNaN
  rw [unpack_of_isNaN h]
  exact isNaN_pack

theorem floorInt64_of_isNaN {x : Float} (h : x.isNaN) : floorInt64 x = 0 := by
  unfold floorInt64
  rw [unpack_of_isNaN h]

end Broadphase.Binary64
