import Broadphase.Proofs.Binary64.Rounding

/-! # The core library's binary64 numbers

The core library computes on unpacked numbers, rounds them and packs them into 64 bits.  Its rounding
step is the one of `Broadphase.Proofs.Binary64.Rounding`, carries and subnormal numbers included
(`roundsTo_roundWithAccuracy`).  Canonical numbers are what rounding yields and what unpacking finds;
packing changes nothing about them but to replace those that are too large by infinities
(`unpack_pack`), and comparing them compares their values (`compare_compares`). -/

namespace Broadphase.Binary64

open Float.Model (Format UnpackedFloat totalExponent)
open Float.Model.UnpackedFloat

/-! ### The rounding step -/

theorem targetExponent_eq (m : ℕ) (e : ℤ) :
    Format.binary64.targetExponent (totalExponent m e) = max (m.log2 + e - 52) (-1074) := by
  simp only [Format.targetExponent, totalExponent, Format.mantissaBits, Format.minExponent]
  norm_num
  omega

theorem log_of_truncated {m : ℕ} {e : ℤ} {q : ℝ} (hm : 0 < m) (hlo : m * 2 ^ e ≤ q)
    (hhi : q < (m + 1) * 2 ^ e) : Int.log 2 q = m.log2 + e := by
  have hpos := two_zpow_pos e
  have hm1 : ((2 : ℝ) ^ (m.log2 : ℤ)) ≤ m := by exact_mod_cast Nat.log2_self_le hm.ne'
  have hm2 : (m + 1 : ℝ) ≤ 2 ^ ((m.log2 : ℤ) + 1) := by exact_mod_cast Nat.lt_log2_self (n := m)
  have hq : 0 < q := (mul_pos (by exact_mod_cast hm) hpos).trans_le hlo
  rw [log_eq_iff hq, add_right_comm, zpow_add₀ two_ne_zero, zpow_add₀ two_ne_zero]
  exact ⟨(mul_le_mul_of_nonneg_right hm1 hpos.le).trans hlo,
    hhi.trans_le (mul_le_mul_of_nonneg_right hm2 hpos.le)⟩

/-- A truncated significand finds the last place of the exact magnitude.  It may be zero, but then
the last place is the least one. -/
theorem targetExponent_eq_lastPlace {m : ℕ} {e : ℤ} {q : ℝ} (hq : 0 < q) (hlo : m * 2 ^ e ≤ q)
    (hhi : q < (m + 1) * 2 ^ e) (he : e ≤ lastPlace q) :
    Format.binary64.targetExponent (totalExponent m e) = lastPlace q := by
  rw [targetExponent_eq]
  rcases Nat.eq_zero_or_pos m with rfl | hm
  · have hlt : Int.log 2 q < e := by
      rw [← Int.lt_zpow_iff_log_lt one_lt_two hq]
      simpa using hhi
    rw [Nat.log2_zero]
    unfold lastPlace at he ⊢
    omega
  · unfold lastPlace
    rw [log_of_truncated hm hlo hhi]

theorem shiftToTargetExponent_of_lt {m : ℕ} {e : ℤ} (hm : m < 2 ^ 53) (he : -1074 ≤ e) :
    shiftToTargetExponent Format.binary64 m e .exact = (⟨m, false, false⟩, e) := by
  have hlog : m.log2 ≤ 52 := by
    rcases Nat.eq_zero_or_pos m with rfl | hpos
    · simp
    · exact Nat.le_of_lt_succ ((Nat.log2_lt hpos.ne').mpr hm)
  have hshift : (Format.binary64.targetExponent (totalExponent m e) - e).toNat = 0 := by
    rw [targetExponent_eq]
    omega
  unfold shiftToTargetExponent shiftToExponent
  simp only [hshift, Nat.cast_zero, add_zero]
  rfl

/-- A carry out of the 53rd place moves the exponent up by one. -/
theorem shiftToTargetExponent_carry {e : ℤ} (he : -1074 ≤ e) :
    shiftToTargetExponent Format.binary64 (2 ^ 53) e .exact = (⟨2 ^ 52, false, false⟩, e + 1) := by
  have hshift : (Format.binary64.targetExponent (totalExponent (2 ^ 53) e) - e).toNat = 1 := by
    rw [targetExponent_eq, Nat.log2_two_pow]
    omega
  unfold shiftToTargetExponent shiftToExponent
  simp only [hshift, Nat.cast_one]
  rfl

theorem nearestEven_place_bounds {q : ℝ} (hq : 0 < q) :
    nearestEven (q / 2 ^ lastPlace q) ≤ 2 ^ 53 ∧
      (2 ^ 52 ≤ nearestEven (q / 2 ^ lastPlace q) ∨ lastPlace q = -1074) := by
  obtain ⟨hlo, hhi⟩ := (log_eq_iff hq _).mp rfl
  have hpos := two_zpow_pos (lastPlace q)
  constructor
  · have h53 : q / 2 ^ lastPlace q ≤ ((2 ^ 53 : ℤ) : ℝ) := by
      rw [div_le_iff₀ hpos]
      have hsplit : ((2 ^ 53 : ℤ) : ℝ) * 2 ^ lastPlace q = 2 ^ (53 + lastPlace q) := by
        rw [zpow_add₀ two_ne_zero]
        norm_num
      rw [hsplit]
      refine hhi.le.trans (two_zpow_le ?_)
      unfold lastPlace
      omega
    exact (nearestEven_mono h53).trans_eq (nearestEven_intCast _)
  · rcases eq_or_ne (lastPlace q) (-1074) with h | h
    · exact .inr h
    have hplace : lastPlace q = Int.log 2 q - 52 := by
      unfold lastPlace at h ⊢
      omega
    have h52 : ((2 ^ 52 : ℤ) : ℝ) ≤ q / 2 ^ lastPlace q := by
      rw [le_div_iff₀ hpos]
      have hsplit : ((2 ^ 52 : ℤ) : ℝ) * 2 ^ lastPlace q = 2 ^ Int.log 2 q := by
        rw [hplace, zpow_sub₀ two_ne_zero]
        norm_num
        ring
      rw [hsplit]
      exact hlo
    exact .inl ((nearestEven_intCast _).symm.trans_le (nearestEven_mono h52))

/-- The number with a significand that needs no more rounding. -/
def ofExact (s : Sign) (p : ExtendedMantissa × ℤ) : UnpackedFloat :=
  if h : p.1.mantissa = 0 then .zero s else .finite s p.1.mantissa p.2 (Nat.pos_of_ne_zero h)

theorem roundWithAccuracy_eq (s : Sign) {m : ℕ} {e t : ℤ} {acc : Accuracy} {em : ExtendedMantissa}
    (h : shiftToTargetExponent Format.binary64 m e acc = (em, t)) :
    roundWithAccuracy Format.binary64 s m e acc =
      ofExact s (shiftToTargetExponent Format.binary64 em.roundedMantissa t .exact) := by
  unfold roundWithAccuracy
  rw [h]
  rfl

theorem ofExact_shift (s : Sign) {r : ℕ} {t : ℤ} (hr : r ≤ 2 ^ 53) (ht : -1074 ≤ t)
    (hfull : 2 ^ 52 ≤ r ∨ t = -1074) :
    let u := ofExact s (shiftToTargetExponent Format.binary64 r t .exact)
    Canonical u ∧ u.isFinite ∧ real u = signed s (r * 2 ^ t) := by
  dsimp only
  rcases hr.lt_or_eq with hlt | rfl
  · rw [shiftToTargetExponent_of_lt hlt ht]
    rcases Nat.eq_zero_or_pos r with rfl | hpos
    · refine ⟨trivial, rfl, ?_⟩
      cases s <;> simp [ofExact, real, signed]
    · rw [ofExact, dif_neg hpos.ne']
      exact ⟨⟨hlt, ht, hfull⟩, rfl, rfl⟩
  · rw [shiftToTargetExponent_carry ht, ofExact, dif_neg (by norm_num)]
    refine ⟨⟨by norm_num, by omega, .inl le_rfl⟩, rfl, ?_⟩
    show signed s _ = signed s _
    rw [zpow_add₀ two_ne_zero]
    congr 1
    push_cast
    ring

/-- The rounding step of the core library: from a truncated significand and its residual bits it
finds the rounding of the exact magnitude. -/
theorem roundsTo_roundWithAccuracy (s : Sign) {m : ℕ} {e : ℤ} {acc : Accuracy} {q : ℝ} (hq : 0 < q)
    (h : Approximates (.ofMantissaAndAccuracy m acc) (q / 2 ^ e)) (he : e ≤ lastPlace q) :
    RoundsTo (roundWithAccuracy Format.binary64 s m e acc) (signed s q) := by
  have hm : (ExtendedMantissa.ofMantissaAndAccuracy m acc).mantissa = m := by
    cases acc with
    | exact => rfl
    | inexact o => cases o <;> rfl
  have hpos := two_zpow_pos e
  have hb := h.bounds
  rw [hm, le_div_iff₀ hpos, div_lt_iff₀ hpos] at hb
  have ht := targetExponent_eq_lastPlace hq hb.1 hb.2 he
  -- the first shift brings the significand to the last place, the second one handles a carry
  obtain ⟨k, hk⟩ : ∃ k : ℕ, lastPlace q = e + k := ⟨(lastPlace q - e).toNat, by omega⟩
  have hfirst : shiftToTargetExponent Format.binary64 m e acc =
      (ExtendedMantissa.ofMantissaAndAccuracy m acc >>> k, lastPlace q) := by
    have hshift : (lastPlace q - e).toNat = k := by omega
    unfold shiftToTargetExponent shiftToExponent
    simp only [ht, hshift, ← hk]
  have happ : Approximates (ExtendedMantissa.ofMantissaAndAccuracy m acc >>> k)
      (q / 2 ^ lastPlace q) := by
    have := approximates_shiftRight h k
    rwa [div_div, ← zpow_natCast, ← zpow_add₀ two_ne_zero, ← hk] at this
  have hround := roundedMantissa_eq happ
  obtain ⟨hle, hfull⟩ := nearestEven_place_bounds hq
  rw [← hround] at hle hfull
  norm_cast at hle hfull
  obtain ⟨hc, hfin, hval⟩ := ofExact_shift s hle (lastPlace_ge q) hfull
  rw [roundWithAccuracy_eq s hfirst]
  refine ⟨hc, hfin, ?_⟩
  rw [hval, rounded_signed, rounded_of_nonneg hq.le, roundMagnitude, roundAt, ← hround,
    Int.cast_natCast]

/-! ### Exact significands -/

theorem approximates_exact (m : ℕ) {e : ℤ} {q : ℝ} (hq : q = m * 2 ^ e) :
    Approximates (.ofMantissaAndAccuracy m .exact) (q / 2 ^ e) := by
  show q / 2 ^ e = m
  rw [hq, mul_div_cancel_right₀ _ (two_zpow_pos e).ne']

/-- Rounding a significand with any exponent: first it is lengthened, if it is too short. -/
theorem roundsTo_round (s : Sign) {m : ℕ} (e : ℤ) (hm : 0 < m) :
    RoundsTo (UnpackedFloat.round Format.binary64 s m e) (signed s (m * 2 ^ e)) := by
  have hq : (0 : ℝ) < m * 2 ^ e := mul_pos (by exact_mod_cast hm) (two_zpow_pos e)
  have hlen : (m * 2 ^ e : ℝ) < (m + 1) * 2 ^ e :=
    mul_lt_mul_of_pos_right (lt_add_one _) (two_zpow_pos e)
  unfold UnpackedFloat.round decreaseExponent
  obtain ⟨k, hk⟩ : ∃ k : ℕ,
      (e - Format.binary64.targetExponent (totalExponent m e)).toNat = k := ⟨_, rfl⟩
  simp only [hk, Nat.shiftLeft_eq]
  have hval : (m * 2 ^ e : ℝ) = ((m * 2 ^ k : ℕ) : ℝ) * 2 ^ (e - k) := by
    rw [zpow_sub₀ two_ne_zero, zpow_natCast]
    push_cast
    field_simp
  refine roundsTo_roundWithAccuracy s hq (approximates_exact _ hval) ?_
  rw [targetExponent_eq] at hk
  unfold lastPlace
  rw [log_of_truncated hm le_rfl hlen]
  omega

/-- Rounding a signed significand. -/
theorem roundsTo_normalize (z e : ℤ) (zeroSign : Sign) :
    RoundsTo (UnpackedFloat.normalize Format.binary64 z e zeroSign) (z * 2 ^ e) := by
  unfold UnpackedFloat.normalize
  rcases lt_trichotomy z 0 with hz | rfl | hz
  · have hmag : (z * 2 ^ e : ℝ) = signed .negative ((-z).toNat * 2 ^ e) := by
      have : (((-z).toNat : ℤ) : ℝ) = -z := by
        rw [Int.toNat_of_nonneg (by omega)]
        push_cast
        rfl
      rw [← Int.cast_natCast, this, neg_mul]
      exact (neg_neg _).symm
    rw [compare_lt_iff_lt.mpr hz, hmag]
    exact roundsTo_round .negative e (by omega)
  · exact ⟨trivial, rfl, by simp [real]⟩
  · have hmag : (z * 2 ^ e : ℝ) = signed .positive (z.toNat * 2 ^ e) := by
      have : ((z.toNat : ℤ) : ℝ) = z := by rw [Int.toNat_of_nonneg hz.le]
      rw [← Int.cast_natCast, this]
      rfl
    rw [compare_gt_iff_gt.mpr hz, hmag]
    exact roundsTo_round .positive e (by omega)

/-! ### Packing -/

/-- What is too large for binary64 becomes an infinity. -/
def saturated : UnpackedFloat → UnpackedFloat
  | .finite s m e hm => if 972 ≤ e then .infinity s else .finite s m e hm
  | u => u

theorem unpackSign_packComponents {f : Format} (s : Sign) (ev : BitVec f.exponentBits)
    (mv : BitVec f.mantissaBitsWithoutImplicit) :
    unpackSign (packComponents f s ev mv) = s.toBitVec := by
  ext i hi
  obtain rfl : i = 0 := by omega
  simp [unpackSign, packComponents, BitVec.getLsbD_append, BitVec.getElem_append]

theorem ofBitVec_toBitVec (s : Sign) : Sign.ofBitVec s.toBitVec = s := by
  cases s <;> rfl

theorem toNat_one_append (v : BitVec 52) : (1#1 ++ v).toNat = 2 ^ 52 + v.toNat := by
  rw [BitVec.toNat_append, Nat.shiftLeft_eq, Nat.mul_comm, ← Nat.two_pow_add_eq_or_of_lt v.isLt]
  rfl

theorem unpack_pack_subnormal (s : Sign) {m : ℕ} (hm : 0 < m) (hlt : m < 2 ^ 52) :
    (Float.Model.pack (.finite s m (-1074) hm)).unpack = .finite s m (-1074) hm := by
  have hlog : m.log2 + 1 ≠ 53 := by
    have := (Nat.log2_lt hm.ne').mpr hlt
    omega
  have hnat : (BitVec.ofNat 52 m).toNat = m := by
    rw [BitVec.toNat_ofNat, Nat.mod_eq_of_lt hlt]
  have hne : BitVec.ofNat 52 m ≠ 0#52 := by
    intro h
    rw [h] at hnat
    exact hm.ne hnat
  have hpack : UnpackedFloat.pack Format.binary64 (.finite s m (-1074) hm) =
      packComponents Format.binary64 s 0#11 (BitVec.ofNat 52 m) := by
    unfold UnpackedFloat.pack
    exact (if_neg (by decide)).trans (if_neg hlog)
  show UnpackedFloat.unpack Format.binary64 (UnpackedFloat.pack _ _) = _
  rw [hpack]
  unfold UnpackedFloat.unpack
  simp only [unpackMantissa_packComponents, unpackExponent_packComponents,
    unpackSign_packComponents, ofBitVec_toBitVec]
  rw [if_neg (by decide), if_pos trivial, dif_neg hne]
  simp only [hnat]
  rfl

theorem unpack_pack_normal (s : Sign) {m : ℕ} {e : ℤ} (hm : 0 < m) (hge : 2 ^ 52 ≤ m)
    (hlt : m < 2 ^ 53) (he : -1074 ≤ e) (he' : e < 972) :
    (Float.Model.pack (.finite s m e hm)).unpack = .finite s m e hm := by
  have hlog : m.log2 = 52 := (Nat.log2_eq_iff hm.ne').mpr ⟨hge, hlt⟩
  obtain ⟨b, hb, hb1, hb2⟩ : ∃ b : ℕ, e = b - 1075 ∧ 0 < b ∧ b < 2047 :=
    ⟨(e + 1075).toNat, by omega, by omega, by omega⟩
  have hbias : (e + (Format.binary64.exponentBias : ℤ) +
      (Format.binary64.mantissaBitsWithoutImplicit : ℤ)).toNat = b := by
    show (e + 1023 + 52).toNat = b
    omega
  have hexp : (BitVec.ofNat 11 b).toNat = b := by
    rw [BitVec.toNat_ofNat, Nat.mod_eq_of_lt (by omega)]
  have hmant : (1#1 ++ BitVec.ofNat 52 m).toNat = m := by
    rw [toNat_one_append, BitVec.toNat_ofNat]
    omega
  have hne (k : ℕ) (hk : b ≠ k) (hk' : k < 2 ^ 11) : BitVec.ofNat 11 b ≠ BitVec.ofNat 11 k := by
    intro h
    rw [h, BitVec.toNat_ofNat, Nat.mod_eq_of_lt hk'] at hexp
    exact hk hexp.symm
  have hpack : UnpackedFloat.pack Format.binary64 (.finite s m e hm) =
      packComponents Format.binary64 s (BitVec.ofNat 11 b) (BitVec.ofNat 52 m) := by
    unfold UnpackedFloat.pack
    simp only [hbias, hlog]
    exact (if_neg (by show ¬ 2048 ≤ b + 1; omega)).trans (if_pos rfl)
  show UnpackedFloat.unpack Format.binary64 (UnpackedFloat.pack _ _) = _
  rw [hpack]
  unfold UnpackedFloat.unpack
  simp only [unpackMantissa_packComponents, unpackExponent_packComponents,
    unpackSign_packComponents, ofBitVec_toBitVec]
  have hinf : BitVec.ofNat 11 b ≠ -1#11 := hne 2047 (by omega) (by norm_num)
  rw [if_neg hinf, if_neg (hne 0 (by omega) (by norm_num))]
  simp only [hmant, hexp]
  congr 1
  show (b : ℤ) - (1023 + 52) = e
  omega

/-- Packing keeps a canonical number, or makes it an infinity. -/
theorem unpack_pack {u : UnpackedFloat} (h : Canonical u) :
    (Float.Model.pack u).unpack = saturated u := by
  cases u with
  | infinity s => cases s <;> rfl
  | notANumber => rfl
  | zero s => cases s <;> rfl
  | finite s m e hm =>
      simp only [saturated]
      split_ifs with he
      · have hpack : UnpackedFloat.pack Format.binary64 (.finite s m e hm) =
            packedInfinity Format.binary64 s := by
          unfold UnpackedFloat.pack
          exact if_pos (by show 2048 ≤ (e + 1023 + 52).toNat + 1; omega)
        show UnpackedFloat.unpack Format.binary64 (UnpackedFloat.pack _ _) = _
        rw [hpack]
        cases s <;> rfl
      · rcases h.full with hfull | rfl
        · exact unpack_pack_normal s hm hfull h.lt h.ge (by omega)
        · rcases lt_or_ge m (2 ^ 52) with hlt | hfull
          · exact unpack_pack_subnormal s hm hlt
          · exact unpack_pack_normal s hm hfull h.lt h.ge (by omega)

/-- Every stored number is canonical and not too large. -/
theorem canonical_unpack (x : Float.Model) : Canonical x.unpack ∧ saturated x.unpack = x.unpack := by
  have hM : (@unpackMantissa Format.binary64 x.toBits.toBitVec).toNat < 2 ^ 52 :=
    BitVec.isLt _
  have hE : (@unpackExponent Format.binary64 x.toBits.toBitVec).toNat < 2 ^ 11 :=
    BitVec.isLt _
  unfold Float.Model.unpack UnpackedFloat.unpack
  simp only
  split_ifs with h1 h2 h3 h4
  · exact ⟨trivial, rfl⟩
  · exact ⟨trivial, rfl⟩
  · exact ⟨trivial, rfl⟩
  · rw [h3]
    exact ⟨⟨by omega, by decide, .inr (by decide)⟩, rfl⟩
  · have hne : (@unpackExponent Format.binary64 x.toBits.toBitVec).toNat ≠ 2047 :=
      fun h => h1 (BitVec.eq_of_toNat_eq h)
    have hne0 : (@unpackExponent Format.binary64 x.toBits.toBitVec).toNat ≠ 0 :=
      fun h => h3 (BitVec.eq_of_toNat_eq h)
    have happ := toNat_one_append (@unpackMantissa Format.binary64 x.toBits.toBitVec)
    have hbias : ((Format.binary64.exponentBias : ℕ) : ℤ) = 1023 := rfl
    simp only [Canonical, saturated, hbias]
    refine ⟨⟨?_, ?_, .inl ?_⟩, if_neg ?_⟩ <;> omega

theorem overflow_le_iff {m : ℕ} {e : ℤ} (h : Normalized m e) : overflow ≤ m * 2 ^ e ↔ 972 ≤ e := by
  have hlt : (m : ℝ) < 2 ^ (53 : ℤ) := by exact_mod_cast h.lt
  constructor
  · intro hle
    by_contra he
    have : (m * 2 ^ e : ℝ) < overflow :=
      calc (m * 2 ^ e : ℝ) < 2 ^ (53 : ℤ) * 2 ^ e := mul_lt_mul_of_pos_right hlt (two_zpow_pos e)
        _ = 2 ^ (53 + e) := (zpow_add₀ two_ne_zero _ _).symm
        _ ≤ overflow := two_zpow_le (by omega)
    exact hle.not_gt this
  · intro he
    have hfull : (2 : ℝ) ^ (52 : ℤ) ≤ m := by exact_mod_cast h.full.resolve_right (by omega)
    calc overflow ≤ 2 ^ (52 + e) := two_zpow_le (by omega)
      _ = 2 ^ (52 : ℤ) * 2 ^ e := zpow_add₀ two_ne_zero _ _
      _ ≤ m * 2 ^ e := mul_le_mul_of_nonneg_right hfull (two_zpow_pos e).le

/-- What packing delivers is the binary64 number nearest to the exact result. -/
theorem extended_saturated {u : UnpackedFloat} {x : ℝ} (h : RoundsTo u x) :
    extended (saturated u) = nearest x := by
  obtain ⟨h, hfin, hr⟩ := h
  have hover := overflow_pos
  cases u with
  | infinity s => simp [UnpackedFloat.isFinite] at hfin
  | notANumber => simp [UnpackedFloat.isFinite] at hfin
  | zero s =>
      have h0 : rounded x = 0 := hr.symm
      rw [nearest_of_abs_lt (by rwa [h0, abs_zero]), h0]
      rfl
  | finite s m e hm =>
      have hpos : (0 : ℝ) ≤ m * 2 ^ e := mul_nonneg m.cast_nonneg (two_zpow_pos e).le
      simp only [saturated]
      by_cases he : 972 ≤ e
      · have hbig := (overflow_le_iff h).mpr he
        rw [if_pos he]
        cases s with
        | positive =>
            exact (nearest_of_overflow (hbig.trans_eq hr)).symm
        | negative =>
            exact (nearest_of_neg_overflow (hr.symm.trans_le (neg_le_neg hbig))).symm
      · have hsmall := not_le.mp (mt (overflow_le_iff h).mp he)
        have habs : |rounded x| < overflow := by
          rw [← hr]
          cases s with
          | positive => exact (abs_of_nonneg hpos).trans_lt hsmall
          | negative => exact (abs_neg _).trans_lt ((abs_of_nonneg hpos).trans_lt hsmall)
        rw [if_neg he, nearest_of_abs_lt habs, ← hr]
        rfl

/-! ### Comparing -/

theorem compares_magnitude {m₁ m₂ : ℕ} {e₁ e₂ : ℤ} (h₁ : Normalized m₁ e₁) (h₂ : Normalized m₂ e₂) :
    ((compare e₁ e₂).then (compare m₁ m₂)).Compares (m₁ * 2 ^ e₁ : ℝ) (m₂ * 2 ^ e₂) := by
  -- the number with the larger exponent has a full significand
  have hlt {m m' : ℕ} {e e' : ℤ} (h : Normalized m e) (h' : Normalized m' e') (he : e < e') :
      (m * 2 ^ e : ℝ) < m' * 2 ^ e' := by
    have hm : (m : ℝ) < 2 ^ (53 : ℤ) := by exact_mod_cast h.lt
    have hge := h.ge
    have hm' : (2 : ℝ) ^ (52 : ℤ) ≤ m' := by exact_mod_cast h'.full.resolve_right (by omega)
    calc (m * 2 ^ e : ℝ) < 2 ^ (53 : ℤ) * 2 ^ e := mul_lt_mul_of_pos_right hm (two_zpow_pos e)
      _ = 2 ^ (52 : ℤ) * 2 ^ (e + 1) := by rw [← zpow_add₀ two_ne_zero, ← zpow_add₀ two_ne_zero]; ring_nf
      _ ≤ m' * 2 ^ e' := mul_le_mul hm' (two_zpow_le (by omega)) (two_zpow_pos _).le m'.cast_nonneg
  rcases lt_trichotomy e₁ e₂ with he | rfl | he
  · rw [compare_lt_iff_lt.mpr he]
    exact hlt h₁ h₂ he
  · rw [compare_eq_iff_eq.mpr rfl]
    rcases lt_trichotomy m₁ m₂ with hm | rfl | hm
    · rw [compare_lt_iff_lt.mpr hm]
      exact mul_lt_mul_of_pos_right (by exact_mod_cast hm) (two_zpow_pos _)
    · rw [compare_eq_iff_eq.mpr rfl]
      exact rfl
    · rw [compare_gt_iff_gt.mpr hm]
      exact mul_lt_mul_of_pos_right (by exact_mod_cast hm) (two_zpow_pos _)
  · rw [compare_gt_iff_gt.mpr he]
    exact hlt h₂ h₁ he

theorem compares_coe {o : Ordering} {a b : ℝ} : o.Compares (a : EReal) (b : EReal) ↔ o.Compares a b := by
  cases o <;> simp [Ordering.Compares]

theorem compares_neg {o : Ordering} {a b : ℝ} : o.Compares (-a) (-b) ↔ o.Compares b a := by
  cases o <;> simp [Ordering.Compares, eq_comm]

/-- Comparing canonical numbers compares their values. -/
theorem compare_compares {u v : UnpackedFloat} (hu : Canonical u) (hv : Canonical v)
    (hu' : u.isNaN = false) (hv' : v.isNaN = false) :
    ∃ o, u.compare v = some o ∧ o.Compares (extended u) (extended v) := by
  have hpos {m : ℕ} {e : ℤ} (hm : 0 < m) : (0 : ℝ) < m * 2 ^ e :=
    mul_pos (by exact_mod_cast hm) (two_zpow_pos e)
  cases u with
  | notANumber => simp [UnpackedFloat.isNaN] at hu'
  | infinity s =>
      cases v with
      | notANumber => simp [UnpackedFloat.isNaN] at hv'
      | infinity t =>
          cases s <;> cases t <;> refine ⟨_, rfl, ?_⟩ <;> simp [compare, Ordering.Compares, extended]
      | zero t =>
          cases s <;> refine ⟨_, rfl, ?_⟩ <;> simp [Ordering.Compares, extended, real]
      | finite t m e hm =>
          cases s <;> refine ⟨_, rfl, ?_⟩ <;> simp [Ordering.Compares, extended]
  | zero s =>
      cases v with
      | notANumber => simp [UnpackedFloat.isNaN] at hv'
      | infinity t =>
          cases t <;> refine ⟨_, rfl, ?_⟩ <;> simp [Ordering.Compares, extended, real]
      | zero t => exact ⟨_, rfl, rfl⟩
      | finite t m e hm =>
          cases t <;> refine ⟨_, rfl, EReal.coe_lt_coe_iff.mpr ?_⟩ <;>
            simp only [real, signed, Left.neg_neg_iff] <;> exact hpos hm
  | finite s m e hm =>
      cases v with
      | notANumber => simp [UnpackedFloat.isNaN] at hv'
      | infinity t =>
          cases t <;> refine ⟨_, rfl, ?_⟩ <;> simp [Ordering.Compares, extended]
      | zero t =>
          cases s <;> refine ⟨_, rfl, EReal.coe_lt_coe_iff.mpr ?_⟩ <;>
            simp only [real, signed, Left.neg_neg_iff] <;> exact hpos hm
      | finite t m' e' hm' =>
          have h1 := hpos (e := e) hm
          have h2 := hpos (e := e') hm'
          have hmag := compares_magnitude hu hv
          cases s <;> cases t
          · refine ⟨_, rfl, Ordering.compares_swap.mpr (compares_coe.mpr ?_)⟩
            exact compares_neg.mpr hmag
          · refine ⟨_, rfl, EReal.coe_lt_coe_iff.mpr ?_⟩
            simp only [real, signed]
            linarith
          · refine ⟨_, rfl, EReal.coe_lt_coe_iff.mpr ?_⟩
            simp only [real, signed]
            linarith
          · exact ⟨_, rfl, compares_coe.mpr hmag⟩

end Broadphase.Binary64
