import Broadphase.Proofs.Binary64.Ranges
import Broadphase.Proofs.Binary64.Signs
import Broadphase.Sampling.Random

/-! # Numbers drawn from a range

A draw from a range whose width is finite stays inside the range, although the width, the product with
the random share and the sum are all rounded (`Random.range_mem`).  The share is at most
`1 - 2 ^ -52`, which makes up for the rounding of the width (`rounded_share_le`).

If the width overflows, the number drawn is never finite (`Random.range_not_isFinite`). -/

namespace Broadphase

namespace Binary64

open Float.Model (Format UnpackedFloat)
open Float.Model.UnpackedFloat

/-! ### Finite numbers -/

/-- A finite number is a whole multiple of the least one. -/
theorem HasValue.exists_multiple {x : Float} {r : ℝ} (h : HasValue x r) :
    ∃ z : ℤ, r = z * 2 ^ (-1074 : ℤ) := by
  obtain ⟨hfin, hr⟩ := h.isFinite
  have hc := (canonical_unpack x.toModel).1
  cases hu : x.toModel.unpack with
  | notANumber => simp [hu, UnpackedFloat.isFinite] at hfin
  | infinity s => simp [hu, UnpackedFloat.isFinite] at hfin
  | zero s =>
    rw [hu] at hr
    exact ⟨0, by rw [← hr]; simp [real]⟩
  | finite s m e hm =>
    rw [hu] at hr hc
    have hge : -1074 ≤ e := Normalized.ge hc
    obtain ⟨k, rfl⟩ : ∃ k : ℕ, e = k - 1074 := ⟨(e + 1074).toNat, by omega⟩
    refine ⟨s.apply (m : ℤ) * 2 ^ k, ?_⟩
    rw [← hr, real, signed_eq_apply, Int.sub_eq_add_neg, zpow_add₀ two_ne_zero, zpow_natCast]
    push_cast
    ring

/-- A finite number is its own rounding. -/
theorem HasValue.rounded_eq {x : Float} {r : ℝ} (h : HasValue x r) : rounded r = r := by
  obtain ⟨-, hr⟩ := h.isFinite
  rw [← hr]
  exact rounded_real (canonical_unpack x.toModel).1

theorem rounded_of_nearest {x r : ℝ} (h : nearest x = (r : EReal)) : rounded x = r ∧ |r| < overflow := by
  unfold nearest at h
  split_ifs at h with htop hbot
  · exact absurd h (EReal.top_ne_coe r)
  · exact absurd h (EReal.bot_ne_coe r)
  · have hr : rounded x = r := EReal.coe_eq_coe_iff.mp h
    rw [hr, not_le] at htop hbot
    exact ⟨hr, abs_lt.mpr ⟨hbot, htop⟩⟩

/-! ### A share of a rounded width -/

/-- A width that is rounded up has a full significand and is at most one last place too large. -/
theorem rounded_up {d : ℝ} (hz : ∃ z : ℤ, d = z * 2 ^ (-1074 : ℤ)) (hd : 0 ≤ d) (hlt : d < rounded d) :
    ∃ k e : ℤ, rounded d = k * 2 ^ e ∧ -1074 ≤ e ∧ 2 ^ 52 ≤ k ∧ k ≤ 2 ^ 53 ∧ (k - 1) * 2 ^ e ≤ d := by
  have hpos : 0 < d := by
    rcases hd.eq_or_lt with rfl | hpos
    · simp at hlt
    · exact hpos
  have hplace := two_zpow_pos (lastPlace d)
  have hround : rounded d = nearestEven (d / 2 ^ lastPlace d) * 2 ^ lastPlace d := rounded_of_nonneg hd
  obtain ⟨hmax, hfull⟩ := nearestEven_place_bounds hpos
  refine ⟨nearestEven (d / 2 ^ lastPlace d), lastPlace d, hround, lastPlace_ge d, ?_, hmax, ?_⟩
  · rcases hfull with hlong | hleast
    · exact hlong
    · -- a multiple of the least number is not rounded at all there
      obtain ⟨z, hz⟩ := hz
      have hexact : d / 2 ^ lastPlace d = z := by
        rw [hleast, hz, mul_div_cancel_right₀ _ (two_zpow_pos (-1074)).ne']
      rw [hround, hexact, nearestEven_intCast, hleast, ← hz] at hlt
      exact absurd hlt (lt_irrefl d)
  · have hup := nearestEven_le_floor_add_one (d / 2 ^ lastPlace d)
    have hfloor := Int.floor_le (d / 2 ^ lastPlace d)
    have hcast : (nearestEven (d / 2 ^ lastPlace d) : ℝ) ≤ ⌊d / 2 ^ lastPlace d⌋ + 1 := by
      exact_mod_cast hup
    rw [← le_div_iff₀ hplace]
    linarith

theorem rounded_mul_le {w u : ℝ} (hw : 0 ≤ w) (hr : rounded w = w) (hu : u ≤ 1) : rounded (w * u) ≤ w :=
  calc rounded (w * u) ≤ rounded w := rounded_mono (mul_le_of_le_one_right hw hu)
    _ = w := hr

/-- The least share that is missing makes up for the rounding of a width. -/
theorem rounded_share_le {d u : ℝ} (hd : 0 ≤ d) (hz : ∃ z : ℤ, d = z * 2 ^ (-1074 : ℤ))
    (hr : rounded (rounded d) = rounded d) (hu : u ≤ 1 - 1 / 2 ^ 52) :
    rounded (rounded d * u) ≤ d := by
  have hw0 : 0 ≤ rounded d := by simpa using rounded_mono hd
  rcases le_or_gt (rounded d) d with hle | hlt
  · have hu1 : u ≤ 1 := hu.trans (sub_le_self 1 (by positivity))
    exact (rounded_mul_le hw0 hr hu1).trans hle
  · obtain ⟨k, e, hw, he, hfull, hmax, hbelow⟩ := rounded_up hz hd hlt
    have hplace := two_zpow_pos e
    have hk : (2 : ℝ) ^ 52 ≤ k := by exact_mod_cast hfull
    have hshare : rounded d * u ≤ (k - 1) * 2 ^ e := by
      have hone : 1 ≤ k * (1 / 2 ^ 52 : ℝ) := by
        rw [mul_one_div, one_le_div (by positivity)]
        exact hk
      calc rounded d * u ≤ rounded d * (1 - 1 / 2 ^ 52) := mul_le_mul_of_nonneg_left hu hw0
        _ = (k - k * (1 / 2 ^ 52)) * 2 ^ e := by rw [hw]; ring
        _ ≤ (k - 1) * 2 ^ e := mul_le_mul_of_nonneg_right (by linarith) hplace.le
    have hsmaller : rounded ((k - 1 : ℤ) * 2 ^ e) = (k - 1 : ℤ) * 2 ^ e :=
      rounded_dyadic (by omega) he
    push_cast at hsmaller
    calc rounded (rounded d * u) ≤ rounded ((k - 1) * 2 ^ e) := rounded_mono hshare
      _ = (k - 1) * 2 ^ e := hsmaller
      _ ≤ d := hbelow

/-! ### What is not finite -/

theorem isFinite_pack {u : UnpackedFloat} (h : ¬ u.isFinite) :
    ¬ (Float.ofModel (.pack u)).isFinite := by
  show ¬ (Float.Model.pack u).unpack.isFinite
  cases u with
  | notANumber =>
    rw [unpack_pack (u := .notANumber) trivial]
    exact h
  | infinity s =>
    rw [unpack_pack (u := .infinity s) trivial]
    exact h
  | zero s => exact absurd rfl h
  | finite s m e hm => exact absurd rfl h

theorem not_isFinite_mul {x : Float} (y : Float) (h : ¬ x.isFinite) : ¬ (x * y).isFinite := by
  apply isFinite_pack
  have hx : ¬ x.toModel.unpack.isFinite := h
  cases hu : x.toModel.unpack with
  | notANumber => simp [UnpackedFloat.mul, UnpackedFloat.isFinite]
  | infinity s => cases y.toModel.unpack <;> simp [UnpackedFloat.mul, UnpackedFloat.isFinite]
  | zero s => exact absurd (by rw [hu]; rfl) hx
  | finite s m e hm => exact absurd (by rw [hu]; rfl) hx

theorem not_isFinite_add (x : Float) {y : Float} (h : ¬ y.isFinite) : ¬ (x + y).isFinite := by
  apply isFinite_pack
  have hy : ¬ y.toModel.unpack.isFinite := h
  cases hv : y.toModel.unpack with
  | notANumber => cases x.toModel.unpack <;> simp [UnpackedFloat.add, UnpackedFloat.isFinite]
  | infinity s =>
    cases x.toModel.unpack with
    | infinity t =>
      simp only [UnpackedFloat.add]
      split_ifs <;> simp [UnpackedFloat.isFinite]
    | notANumber => simp [UnpackedFloat.add, UnpackedFloat.isFinite]
    | zero t => simp [UnpackedFloat.add, UnpackedFloat.isFinite]
    | finite t m e hm => simp [UnpackedFloat.add, UnpackedFloat.isFinite]
  | zero s => exact absurd (by rw [hv]; rfl) hy
  | finite s m e hm => exact absurd (by rw [hv]; rfl) hy

/-! ### The bits of numbers from one to two -/

/-- The bits of one, filled up by a fraction. -/
theorem toNat_or_one {f : UInt64} (hf : f.toNat < 2 ^ 52) :
    (f ||| 0x3ff0000000000000).toBitVec.toNat = 2 ^ 52 * 1023 + f.toNat := by
  have hone : (0x3ff0000000000000 : UInt64).toNat = 2 ^ 52 * 1023 := rfl
  rw [UInt64.toNat_toBitVec, UInt64.toNat_or, hone, Nat.or_comm, Nat.two_pow_add_eq_or_of_lt hf]

theorem unpack_or_one {f : UInt64} (hf : f.toNat < 2 ^ 52) :
    ∃ hm, UnpackedFloat.unpack Format.binary64 (f ||| 0x3ff0000000000000).toBitVec =
      .finite .positive (2 ^ 52 + f.toNat) (-52) hm := by
  have hbits := toNat_or_one hf
  have hmantissa : (@unpackMantissa Format.binary64 (f ||| 0x3ff0000000000000).toBitVec).toNat = f.toNat := by
    rw [unpackMantissa, BitVec.toNat_cast, BitVec.extractLsb_toNat, hbits]
    show (2 ^ 52 * 1023 + f.toNat) >>> 0 % 2 ^ 52 = f.toNat
    rw [Nat.shiftRight_zero, Nat.mul_add_mod, Nat.mod_eq_of_lt hf]
  have hexponent : @unpackExponent Format.binary64 (f ||| 0x3ff0000000000000).toBitVec = 1023#11 := by
    apply BitVec.eq_of_toNat_eq
    rw [unpackExponent, BitVec.toNat_cast, BitVec.extractLsb_toNat, hbits]
    show (2 ^ 52 * 1023 + f.toNat) >>> 52 % 2 ^ 11 = 1023
    rw [Nat.shiftRight_eq_div_pow]
    omega
  have hsign : @unpackSign Format.binary64 (f ||| 0x3ff0000000000000).toBitVec = 0#1 := by
    apply BitVec.eq_of_toNat_eq
    rw [unpackSign, BitVec.toNat_cast, BitVec.extractLsb_toNat, hbits]
    show (2 ^ 52 * 1023 + f.toNat) >>> 63 % 2 ^ 1 = 0
    rw [Nat.shiftRight_eq_div_pow]
    omega
  have hfull : (1#1 ++ @unpackMantissa Format.binary64 (f ||| 0x3ff0000000000000).toBitVec).toNat =
      2 ^ 52 + f.toNat := by
    rw [toNat_one_append, hmantissa]
  refine ⟨by omega, ?_⟩
  unfold UnpackedFloat.unpack
  simp only [hexponent, hsign, hfull]
  rw [if_neg (by decide), if_neg (by decide)]
  rfl

theorem hasValue_or_one {f : UInt64} (hf : f.toNat < 2 ^ 52) :
    HasValue (Float.ofBits (f ||| 0x3ff0000000000000)) ((1 + f.toNat / 2 ^ 52 : ℝ) : EReal) := by
  obtain ⟨hm, hunpack⟩ := unpack_or_one hf
  have hcanonical : Canonical (.finite .positive (2 ^ 52 + f.toNat) (-52) hm) :=
    ⟨by omega, by omega, .inl (by omega)⟩
  have hstored : (Float.ofBits (f ||| 0x3ff0000000000000)).toModel.unpack =
      .finite .positive (2 ^ 52 + f.toNat) (-52) hm := by
    show (Float.Model.pack (UnpackedFloat.unpack Format.binary64 _)).unpack = _
    rw [hunpack, unpack_pack hcanonical]
    rfl
  constructor
  · show (Float.ofBits (f ||| 0x3ff0000000000000)).toModel.unpack.isNaN = false
    rw [hstored]
    rfl
  · rw [hstored, extended_of_isFinite rfl]
    simp only [real, signed]
    congr 1
    push_cast
    norm_num
    ring

end Binary64

open Binary64

namespace Random

/-- The share that a state yields is a fraction of 52 bits. -/
theorem hasValue_unit (g : Random) :
    ∃ n : ℕ, n < 2 ^ 52 ∧ HasValue g.unit ((n / 2 ^ 52 : ℝ) : EReal) := by
  have hn : (g.word >>> 12).toNat < 2 ^ 52 := by
    have hword := g.word.toNat_lt
    rw [UInt64.toNat_shiftRight, Nat.shiftRight_eq_div_pow]
    show g.word.toNat / 2 ^ 12 < 2 ^ 52
    omega
  refine ⟨(g.word >>> 12).toNat, hn, ?_⟩
  generalize hf : g.word >>> 12 = f at hn ⊢
  have hone : (1.0 : Float) = 1 := by decide +kernel
  have hshare : (1 + f.toNat / 2 ^ 52 - 1 : ℝ) = f.toNat / 2 ^ 52 := by ring
  have hround : rounded (f.toNat / 2 ^ 52) = f.toNat / 2 ^ 52 := by
    have hdyadic := rounded_dyadic (z := f.toNat) (e := -52) (by omega) (by omega)
    rwa [zpow_neg, ← div_eq_mul_inv] at hdyadic
  have hlt : |rounded (f.toNat / 2 ^ 52)| < overflow := by
    have hsmall : (f.toNat / 2 ^ 52 : ℝ) < 1 := by
      rw [div_lt_one (by positivity)]
      exact_mod_cast hn
    have hlarge : (1 : ℝ) ≤ overflow := one_le_zpow₀ one_le_two (by omega)
    rw [hround, abs_of_nonneg (by positivity)]
    exact hsmall.trans_le hlarge
  have hdiff := (hasValue_or_one hn).sub hasValue_one
  rw [hshare, nearest_of_abs_lt hlt, hround] at hdiff
  rw [unit, hf, hone]
  exact hdiff

/-- The part of a finite width that a draw takes is between zero and the exact width. -/
theorem hasValue_share {lo hi : Float} {a b : ℝ} (ha : HasValue lo a) (hb : HasValue hi b)
    (hab : a ≤ b) (hwidth : (hi - lo).isFinite) (g : Random) :
    ∃ r : ℝ, HasValue ((hi - lo) * g.unit) r ∧ 0 ≤ r ∧ r ≤ b - a := by
  obtain ⟨n, hn, hu⟩ := hasValue_unit g
  obtain ⟨w, hw⟩ := exists_hasValue_of_isFinite hwidth
  obtain ⟨hround, hwlt⟩ := rounded_of_nearest ((hb.sub ha).unique hw)
  have hd : 0 ≤ b - a := sub_nonneg.mpr hab
  have hw0 : 0 ≤ w := by
    rw [← hround]
    simpa using rounded_mono hd
  have hu0 : (0 : ℝ) ≤ n / 2 ^ 52 := by positivity
  have hu1 : (n / 2 ^ 52 : ℝ) ≤ 1 - 1 / 2 ^ 52 := by
    have hn1 : (n : ℝ) + 1 ≤ 2 ^ 52 := by exact_mod_cast hn
    rw [le_sub_iff_add_le, ← add_div, div_le_one (by positivity)]
    exact hn1
  have hmultiple : ∃ z : ℤ, b - a = z * 2 ^ (-1074 : ℤ) := by
    obtain ⟨y, hy⟩ := ha.exists_multiple
    obtain ⟨z, hz⟩ := hb.exists_multiple
    refine ⟨z - y, ?_⟩
    rw [hy, hz]
    push_cast
    ring
  have hshare : rounded (w * (n / 2 ^ 52)) ≤ b - a := by
    have hle := rounded_share_le hd hmultiple (by rw [hround, hw.rounded_eq]) hu1
    rwa [hround] at hle
  have hshare0 : 0 ≤ rounded (w * (n / 2 ^ 52)) := by
    simpa using rounded_mono (mul_nonneg hw0 hu0)
  have hlt : |rounded (w * (n / 2 ^ 52))| < overflow := by
    have hle := rounded_mul_le hw0 hw.rounded_eq (hu1.trans (sub_le_self 1 (by positivity)))
    rw [abs_of_nonneg hshare0]
    exact (hle.trans (le_abs_self w)).trans_lt hwlt
  have hproduct := hw.mul hu
  rw [nearest_of_abs_lt hlt] at hproduct
  exact ⟨_, hproduct, hshare0, hshare⟩

/-- A draw stays inside a range of finite width. -/
theorem range_mem {lo hi : Float} (hlo : lo.isFinite) (hhi : hi.isFinite) (hle : lo ≤ hi)
    (hwidth : (hi - lo).isFinite) (g : Random) :
    (range lo hi g).1.isFinite ∧ lo ≤ (range lo hi g).1 ∧ (range lo hi g).1 ≤ hi := by
  obtain ⟨a, ha⟩ := exists_hasValue_of_isFinite hlo
  obtain ⟨b, hb⟩ := exists_hasValue_of_isFinite hhi
  have hab : a ≤ b := EReal.coe_le_coe_iff.mp ((ha.le_iff hb).mp hle)
  unfold range
  split_ifs with hempty
  · exact ⟨hlo, (ha.le_iff ha).mpr le_rfl, hle⟩
  -- The exact sum lies between the ends, and rounding keeps the order.
  obtain ⟨r, hr, hr0, hrd⟩ := hasValue_share ha hb hab hwidth g
  have hsum := ha.add hr
  have hlower : (a : EReal) ≤ nearest (a + r) := by
    rw [← nearest_of_hasValue ha]
    exact nearest_mono (by linarith)
  have hupper : nearest (a + r) ≤ b := by
    rw [← nearest_of_hasValue hb]
    exact nearest_mono (by linarith)
  exact ⟨hsum.isFinite_of_mem hlower hupper, (ha.le_iff hsum).mpr hlower, (hsum.le_iff hb).mpr hupper⟩

/-- A draw from a range whose width overflows is never finite. -/
theorem range_not_isFinite {lo hi : Float} (hlt : ¬ hi ≤ lo) (hwidth : ¬ (hi - lo).isFinite)
    (g : Random) : ¬ (range lo hi g).1.isFinite := by
  rw [range, if_neg hlt]
  exact not_isFinite_add lo (not_isFinite_mul g.unit hwidth)

end Random

end Broadphase
