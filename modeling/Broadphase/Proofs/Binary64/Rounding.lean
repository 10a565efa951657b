import Mathlib

/-! # Rounding real numbers to binary64

The rule by which every binary64 operation delivers its exact result, stated on real numbers.
A magnitude `q` has its last place at `2 ^ lastPlace q`: 52 binary places below its leading one, but
never below `2 ^ (-1074)`.  `roundMagnitude` takes the nearest multiple of that place, ties to the
even multiple; `rounded` does the same on both sides of zero, and `nearest` sends what is too large
to an infinity.

The main statements: all of them are monotone (`nearest_mono`), a number with at most 53 significant
binary places is its own rounding (`rounded_dyadic`), and two residual bits after the last place are
all that rounding has to know (`roundedMantissa_eq`).

An unpacked number is a sign, a significand and an exponent, and has the value `real`.  It is
`Canonical` if its significand fills 53 binary places or its exponent is the least one, and it
`RoundsTo` a real number if it is the canonical form of its rounding. -/

namespace Broadphase.Binary64

open Float.Model (UnpackedFloat)
open Float.Model.UnpackedFloat

/-! ### Whole numbers -/

/-- The whole number nearest to `x`; of two that are equally near, the even one. -/
noncomputable def nearestEven (x : ℝ) : ℤ :=
  if Int.fract x < 1 / 2 then ⌊x⌋ else if Int.fract x = 1 / 2 then ⌊x⌋ + ⌊x⌋ % 2 else ⌊x⌋ + 1

theorem nearestEven_of_lt {x : ℝ} (h : Int.fract x < 1 / 2) : nearestEven x = ⌊x⌋ := if_pos h

theorem nearestEven_of_eq {x : ℝ} (h : Int.fract x = 1 / 2) :
    nearestEven x = ⌊x⌋ + ⌊x⌋ % 2 := by
  simp [nearestEven, h]

theorem nearestEven_of_gt {x : ℝ} (h : 1 / 2 < Int.fract x) : nearestEven x = ⌊x⌋ + 1 := by
  unfold nearestEven
  rw [if_neg h.not_gt, if_neg h.ne']

theorem floor_le_nearestEven (x : ℝ) : ⌊x⌋ ≤ nearestEven x := by
  unfold nearestEven
  split_ifs <;> omega

theorem nearestEven_le_floor_add_one (x : ℝ) : nearestEven x ≤ ⌊x⌋ + 1 := by
  unfold nearestEven
  split_ifs <;> omega

@[simp] theorem nearestEven_intCast (z : ℤ) : nearestEven z = z := by simp [nearestEven]

theorem nearestEven_mono {x y : ℝ} (h : x ≤ y) : nearestEven x ≤ nearestEven y := by
  have hx := nearestEven_le_floor_add_one x
  have hy := floor_le_nearestEven y
  rcases (Int.floor_le_floor h).lt_or_eq with hlt | heq
  · omega
  have hf : Int.fract x ≤ Int.fract y := by
    rw [← Int.self_sub_floor, ← Int.self_sub_floor, heq]
    linarith
  rcases lt_trichotomy (Int.fract y) (1 / 2) with hlt | hhalf | hgt
  · rw [nearestEven_of_lt (hf.trans_lt hlt), heq]
    exact hy
  · rcases (hf.trans_eq hhalf).lt_or_eq with hlt | hhalf'
    · rw [nearestEven_of_lt hlt, heq]
      exact hy
    · rw [nearestEven_of_eq hhalf', nearestEven_of_eq hhalf, heq]
  · rw [nearestEven_of_gt hgt]
    omega

/-! ### Residual bits -/

/-- The significand and its two residual bits say where `x` lies: at the significand, below the
middle of the next place, at it, or above it. -/
def Approximates (em : ExtendedMantissa) (x : ℝ) : Prop :=
  match em.roundBit, em.stickyBit with
  | false, false => x = em.mantissa
  | false, true => em.mantissa < x ∧ x < em.mantissa + 1 / 2
  | true, false => x = em.mantissa + 1 / 2
  | true, true => em.mantissa + 1 / 2 < x ∧ x < em.mantissa + 1

theorem Approximates.bounds {em : ExtendedMantissa} {x : ℝ} (h : Approximates em x) :
    em.mantissa ≤ x ∧ x < em.mantissa + 1 := by
  obtain ⟨m, r, t⟩ := em
  cases r <;> cases t <;> simp only [Approximates] at h ⊢ <;> constructor <;> linarith

theorem approximates_shiftRightOne {em : ExtendedMantissa} {x : ℝ} (h : Approximates em x) :
    Approximates em.shiftRightOne (x / 2) := by
  obtain ⟨m, r, t⟩ := em
  -- an even significand leaves the lower half of the wider place, an odd one the upper half
  obtain ⟨k, rfl | rfl⟩ := m.even_or_odd'
  · cases r <;> cases t <;> simp [Approximates, ExtendedMantissa.shiftRightOne] at h ⊢ <;> grind
  · have hk : (2 * k + 1) / 2 = k := by omega
    cases r <;> cases t <;>
      simp [Approximates, ExtendedMantissa.shiftRightOne, Nat.add_mod, hk] at h ⊢ <;> grind

theorem approximates_shiftRight {em : ExtendedMantissa} {x : ℝ} (h : Approximates em x) (k : ℕ) :
    Approximates (em >>> k) (x / 2 ^ k) := by
  induction k with
  | zero =>
      rw [pow_zero, div_one]
      exact h
  | succ k ih =>
      rw [pow_succ, ← div_div]
      exact approximates_shiftRightOne ih

/-- The residual bits are all that rounding has to know. -/
theorem roundedMantissa_eq {em : ExtendedMantissa} {x : ℝ} (h : Approximates em x) :
    (em.roundedMantissa : ℤ) = nearestEven x := by
  have hfloor : ⌊x⌋ = (em.mantissa : ℤ) := by
    rw [Int.floor_eq_iff]
    exact_mod_cast h.bounds
  have hfract : Int.fract x = x - em.mantissa := by
    rw [← Int.self_sub_floor, hfloor, Int.cast_natCast]
  obtain ⟨m, r, t⟩ := em
  simp only at hfloor hfract
  cases r <;> cases t <;> simp only [Approximates] at h <;>
    simp only [ExtendedMantissa.roundedMantissa, ExtendedMantissa.accuracy,
      Accuracy.roundToNearestEven]
  · rw [nearestEven_of_lt (by rw [hfract]; linarith), hfloor]
  · rw [nearestEven_of_lt (by rw [hfract]; linarith), hfloor]
  · rw [nearestEven_of_eq (by rw [hfract]; linarith), hfloor]
    push_cast
    rfl
  · rw [nearestEven_of_gt (by rw [hfract]; linarith), hfloor]
    push_cast
    rfl

/-! ### Multiples of a power of two -/

theorem two_zpow_pos (e : ℤ) : (0 : ℝ) < 2 ^ e := zpow_pos two_pos e

theorem two_zpow_le {a b : ℤ} (h : a ≤ b) : (2 : ℝ) ^ a ≤ 2 ^ b :=
  zpow_le_zpow_right₀ one_le_two h

/-- The multiple of `2 ^ t` nearest to `q`. -/
noncomputable def roundAt (t : ℤ) (q : ℝ) : ℝ := nearestEven (q / 2 ^ t) * 2 ^ t

theorem roundAt_mono (t : ℤ) {a b : ℝ} (h : a ≤ b) : roundAt t a ≤ roundAt t b := by
  have hq : a / 2 ^ t ≤ b / 2 ^ t := div_le_div_of_nonneg_right h (two_zpow_pos t).le
  have hn : (nearestEven (a / 2 ^ t) : ℝ) ≤ nearestEven (b / 2 ^ t) := by
    exact_mod_cast nearestEven_mono hq
  exact mul_le_mul_of_nonneg_right hn (two_zpow_pos t).le

/-- A multiple of a larger power of two is a multiple of `2 ^ t` already. -/
theorem roundAt_dyadic {t e : ℤ} (h : t ≤ e) (z : ℤ) : roundAt t (z * 2 ^ e) = z * 2 ^ e := by
  obtain ⟨k, rfl⟩ : ∃ k : ℕ, e = t + k := ⟨(e - t).toNat, by omega⟩
  have ht := (two_zpow_pos t).ne'
  have hz : (z * 2 ^ (t + k) : ℝ) / 2 ^ t = ((z * 2 ^ k : ℤ) : ℝ) := by
    rw [zpow_add₀ two_ne_zero, zpow_natCast]
    push_cast
    field_simp
  unfold roundAt
  rw [hz, nearestEven_intCast, ← hz, div_mul_cancel₀ _ ht]

@[simp] theorem roundAt_zero (t : ℤ) : roundAt t 0 = 0 := by
  simpa using roundAt_dyadic le_rfl (0 : ℤ) (t := t)

/-! ### Magnitudes -/

/-- The exponent of the last place of a number of magnitude `q`. -/
noncomputable def lastPlace (q : ℝ) : ℤ := max (Int.log 2 q - 52) (-1074)

theorem lastPlace_ge (q : ℝ) : -1074 ≤ lastPlace q := le_max_right _ _

/-- A magnitude rounded to its last place. -/
noncomputable def roundMagnitude (q : ℝ) : ℝ := roundAt (lastPlace q) q

theorem roundMagnitude_nonneg {q : ℝ} (h : 0 ≤ q) : 0 ≤ roundMagnitude q := by
  simpa [roundMagnitude] using roundAt_mono (lastPlace q) h

theorem log_eq_iff {q : ℝ} (hq : 0 < q) (k : ℤ) :
    Int.log 2 q = k ↔ 2 ^ k ≤ q ∧ q < 2 ^ (k + 1) := by
  have hle := Int.zpow_le_iff_le_log (b := 2) one_lt_two (x := k) hq
  have hlt := Int.lt_zpow_iff_log_lt (b := 2) one_lt_two (x := k + 1) hq
  push_cast at hle hlt
  rw [hle, hlt]
  omega

theorem log_mono {a b : ℝ} (ha : 0 < a) (h : a ≤ b) : Int.log 2 a ≤ Int.log 2 b :=
  Int.log_mono_right ha h

/-- Two magnitudes with different last places are separated by a power of two, which both round
to the right side of. -/
theorem roundMagnitude_mono {a b : ℝ} (ha : 0 ≤ a) (h : a ≤ b) :
    roundMagnitude a ≤ roundMagnitude b := by
  rcases ha.eq_or_lt with rfl | ha
  · simpa [roundMagnitude] using roundMagnitude_nonneg h
  have hb : 0 < b := ha.trans_le h
  have hlog := log_mono ha h
  rcases (show lastPlace a ≤ lastPlace b by unfold lastPlace; omega).lt_or_eq with hlt | heq
  · have hk : lastPlace a < Int.log 2 b ∧ lastPlace b ≤ Int.log 2 b ∧ Int.log 2 a < Int.log 2 b := by
      unfold lastPlace at hlt ⊢
      omega
    have hab : a ≤ 2 ^ Int.log 2 b :=
      (((log_eq_iff ha _).mp rfl).2.trans_le (two_zpow_le (by omega))).le
    have hbb : 2 ^ Int.log 2 b ≤ b := ((log_eq_iff hb _).mp rfl).1
    have hpow (t : ℤ) (ht : t ≤ Int.log 2 b) :
        roundAt t (2 ^ Int.log 2 b) = 2 ^ Int.log 2 b := by
      simpa using roundAt_dyadic ht 1
    calc roundMagnitude a ≤ roundAt (lastPlace a) (2 ^ Int.log 2 b) := roundAt_mono _ hab
      _ = roundAt (lastPlace b) (2 ^ Int.log 2 b) := by rw [hpow _ hk.1.le, hpow _ hk.2.1]
      _ ≤ roundMagnitude b := roundAt_mono _ hbb
  · unfold roundMagnitude
    rw [heq]
    exact roundAt_mono _ h

theorem roundMagnitude_dyadic {m : ℕ} {e : ℤ} (hm : m < 2 ^ 53) (he : -1074 ≤ e) :
    roundMagnitude (m * 2 ^ e) = m * 2 ^ e := by
  rcases Nat.eq_zero_or_pos m with rfl | hpos
  · simp [roundMagnitude]
  have hq : (0 : ℝ) < m * 2 ^ e := mul_pos (by exact_mod_cast hpos) (two_zpow_pos e)
  have hlt : (m * 2 ^ e : ℝ) < 2 ^ (53 + e) := by
    have h53 : (m : ℝ) < 2 ^ (53 : ℤ) := by exact_mod_cast hm
    rw [zpow_add₀ two_ne_zero]
    exact mul_lt_mul_of_pos_right h53 (two_zpow_pos e)
  have hlog : Int.log 2 (m * 2 ^ e : ℝ) < 53 + e := by
    rw [← Int.lt_zpow_iff_log_lt one_lt_two hq]
    exact_mod_cast hlt
  have hplace : lastPlace (m * 2 ^ e) ≤ e := by
    unfold lastPlace
    omega
  exact_mod_cast roundAt_dyadic hplace (m : ℤ)

/-! ### Both sides of zero -/

/-- A real number rounded to its last place. -/
noncomputable def rounded (x : ℝ) : ℝ :=
  if 0 ≤ x then roundMagnitude x else -roundMagnitude (-x)

theorem rounded_of_nonneg {x : ℝ} (h : 0 ≤ x) : rounded x = roundMagnitude x := if_pos h

@[simp] theorem rounded_zero : rounded 0 = 0 := by simp [rounded, roundMagnitude]

theorem rounded_neg (x : ℝ) : rounded (-x) = -rounded x := by
  rcases lt_trichotomy x 0 with h | rfl | h
  · simp [rounded, h.le, not_le.mpr h]
  · simp
  · simp [rounded, h.le, not_le.mpr h]

theorem rounded_mono {a b : ℝ} (h : a ≤ b) : rounded a ≤ rounded b := by
  unfold rounded
  split_ifs with ha hb hb
  · exact roundMagnitude_mono ha h
  · exact absurd (ha.trans h) hb
  · have h1 := roundMagnitude_nonneg (neg_nonneg.mpr (not_le.mp ha).le)
    have h2 := roundMagnitude_nonneg hb
    linarith
  · have h1 := roundMagnitude_mono (neg_nonneg.mpr (not_le.mp hb).le) (neg_le_neg h)
    linarith

/-- A number with at most 53 significant binary places is its own rounding. -/
theorem rounded_dyadic {z e : ℤ} (hz : z.natAbs < 2 ^ 53) (he : -1074 ≤ e) :
    rounded (z * 2 ^ e) = z * 2 ^ e := by
  have hnat (m : ℕ) (hm : m < 2 ^ 53) : rounded (m * 2 ^ e) = m * 2 ^ e := by
    rw [rounded_of_nonneg (mul_nonneg m.cast_nonneg (two_zpow_pos e).le)]
    exact roundMagnitude_dyadic hm he
  obtain ⟨m, rfl | rfl⟩ := z.eq_nat_or_neg
  · exact_mod_cast hnat m (by omega)
  · rw [Int.cast_neg, neg_mul, rounded_neg, Int.cast_natCast, hnat m (by omega)]

/-! ### Overflow -/

/-- The least magnitude that is too large for binary64. -/
noncomputable def overflow : ℝ := 2 ^ (1024 : ℤ)

theorem overflow_pos : 0 < overflow := two_zpow_pos 1024

/-- The binary64 number nearest to a real number; an infinity if that is too large. -/
noncomputable def nearest (x : ℝ) : EReal :=
  if overflow ≤ rounded x then ⊤ else if rounded x ≤ -overflow then ⊥ else (rounded x : ℝ)

theorem nearest_of_overflow {x : ℝ} (h : overflow ≤ rounded x) : nearest x = ⊤ := if_pos h

theorem nearest_of_neg_overflow {x : ℝ} (h : rounded x ≤ -overflow) : nearest x = ⊥ := by
  have hpos := overflow_pos
  unfold nearest
  rw [if_neg (by linarith), if_pos h]

theorem nearest_of_abs_lt {x : ℝ} (h : |rounded x| < overflow) : nearest x = (rounded x : ℝ) := by
  obtain ⟨hlo, hhi⟩ := abs_lt.mp h
  unfold nearest
  rw [if_neg hhi.not_ge, if_neg hlo.not_ge]

/-- Rounding keeps the order of exact results. -/
theorem nearest_mono {a b : ℝ} (h : a ≤ b) : nearest a ≤ nearest b := by
  have hr := rounded_mono h
  rcases le_or_gt overflow (rounded b) with hb | hb
  · rw [nearest_of_overflow hb]
    exact le_top
  rcases le_or_gt (rounded a) (-overflow) with ha | ha
  · rw [nearest_of_neg_overflow ha]
    exact bot_le
  rw [nearest_of_abs_lt (abs_lt.mpr ⟨ha, hr.trans_lt hb⟩),
    nearest_of_abs_lt (abs_lt.mpr ⟨ha.trans_le hr, hb⟩)]
  exact EReal.coe_le_coe_iff.mpr hr

/-! ### Values -/

/-- A real number with the given sign. -/
def signed (s : Sign) (x : ℝ) : ℝ :=
  match s with
  | .positive => x
  | .negative => -x

/-- The value of a finite unpacked number. -/
noncomputable def real : UnpackedFloat → ℝ
  | .finite s m e _ => signed s (m * 2 ^ e)
  | _ => 0

/-- The value of an unpacked number, the infinities included. -/
noncomputable def extended : UnpackedFloat → EReal
  | .infinity .positive => ⊤
  | .infinity .negative => ⊥
  | u => (real u : ℝ)

/-- A significand and an exponent in the only form that binary64 has for their value. -/
structure Normalized (m : ℕ) (e : ℤ) : Prop where
  lt : m < 2 ^ 53
  ge : -1074 ≤ e
  full : 2 ^ 52 ≤ m ∨ e = -1074

/-- The finite numbers are normalized. -/
def Canonical : UnpackedFloat → Prop
  | .finite _ m e _ => Normalized m e
  | _ => True

theorem extended_of_isFinite {u : UnpackedFloat} (h : u.isFinite) : extended u = (real u : ℝ) := by
  cases u with
  | infinity s => simp [UnpackedFloat.isFinite] at h
  | notANumber => simp [UnpackedFloat.isFinite] at h
  | zero s => rfl
  | finite s m e hm => rfl

theorem rounded_signed (s : Sign) (x : ℝ) : rounded (signed s x) = signed s (rounded x) := by
  cases s with
  | positive => rfl
  | negative => exact rounded_neg x

/-- A canonical number is its own rounding. -/
theorem rounded_real {u : UnpackedFloat} (h : Canonical u) : rounded (real u) = real u := by
  cases u with
  | finite s m e hm =>
      have hd : rounded (m * 2 ^ e) = m * 2 ^ e := by
        exact_mod_cast rounded_dyadic (z := m) (by simpa using h.lt) h.ge
      show rounded (signed s _) = signed s _
      rw [rounded_signed, hd]
  | infinity s => simp [real]
  | notANumber => simp [real]
  | zero s => simp [real]

/-- The finite number `u` is the canonical form of the rounding of `x`. -/
structure RoundsTo (u : UnpackedFloat) (x : ℝ) : Prop where
  canonical : Canonical u
  isFinite : u.isFinite
  value : real u = rounded x

end Broadphase.Binary64
