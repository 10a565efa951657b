import Mathlib
import Broadphase.Benchmark.Harness

/-! # The states of a generator

Mixing a word loses nothing: a word that is xored with its own upper bits can be found again from the top
(`xor_shiftRight_injective`), and so can one that is multiplied by an odd constant
(`mul_injective_of_mul_eq_one`).  Hence a seed is determined by the first word that it is stretched to
(`ofSeed_injective`), and the two words of a seed are never both zero (`mix_ne_zero`).

A step of the generator can be undone (`retreat`).  So states that differ once differ for good, and zero, which
only zero steps to, is never reached from a seed (`seeds_stay_apart`). -/

namespace Broadphase

/-! ### Words -/

/-- The difference of two words with one image would be its own shift to the right, and only zero is. -/
theorem xor_shiftRight_injective {k : UInt64} (h0 : 0 < k.toNat) (hk : k.toNat < 64) :
    Function.Injective fun z : UInt64 => z ^^^ (z >>> k) := by
  intro x y (hxy : x ^^^ (x >>> k) = y ^^^ (y >>> k))
  have hshift : (x ^^^ y) >>> k = x ^^^ y := by
    have hcancel : (x ^^^ (x >>> k)) ^^^ (y ^^^ (y >>> k)) = 0 := by rw [hxy, UInt64.xor_self]
    rw [UInt64.shiftRight_xor]
    apply UInt64.xor_eq_zero_iff.mp
    rw [← hcancel]
    ac_rfl
  have hdiv : (x ^^^ y).toNat / 2 ^ k.toNat = (x ^^^ y).toNat := by
    have hnat := congrArg UInt64.toNat hshift
    rwa [UInt64.toNat_shiftRight, Nat.mod_eq_of_lt hk, Nat.shiftRight_eq_div_pow] at hnat
  have hzero : (x ^^^ y).toNat = 0 := by
    by_contra hne
    exact (Nat.div_lt_self (Nat.pos_of_ne_zero hne) (Nat.one_lt_two_pow h0.ne')).ne hdiv
  exact UInt64.xor_eq_zero_iff.mp (UInt64.toNat_inj.mp hzero)

theorem mul_injective_of_mul_eq_one {c d : UInt64} (h : c * d = 1) :
    Function.Injective fun z : UInt64 => z * c := by
  intro x y (hxy : x * c = y * c)
  have hback (z : UInt64) : z * c * d = z := by rw [UInt64.mul_assoc, h, UInt64.mul_one]
  rw [← hback x, hxy, hback]

theorem toBitVec_rotateLeft (x : UInt64) {k : UInt64} (h0 : 0 < k.toNat) (hk : k.toNat < 64) :
    (rotateLeft x k).toBitVec = x.toBitVec.rotateLeft k.toNat := by
  have hsub : ((64 : UInt64) - k).toNat = 64 - k.toNat :=
    UInt64.toNat_sub_of_le _ _ (UInt64.le_iff_toNat_le.mpr hk.le)
  apply BitVec.eq_of_toNat_eq
  simp only [rotateLeft, BitVec.rotateLeft, BitVec.rotateLeftAux, UInt64.toNat_toBitVec, UInt64.toNat_or,
    UInt64.toNat_shiftLeft, UInt64.toNat_shiftRight, BitVec.toNat_or, BitVec.toNat_shiftLeft,
    BitVec.toNat_ushiftRight, hsub, Nat.mod_eq_of_lt hk]
  rw [Nat.mod_eq_of_lt (by omega : 64 - k.toNat < 64)]

/-- A word that is rotated all the way round is itself again. -/
theorem rotateLeft_rotateLeft (x : UInt64) {j k : UInt64} (hj : 0 < j.toNat) (hk : 0 < k.toNat)
    (h : j.toNat + k.toNat = 64) : rotateLeft (rotateLeft x j) k = x := by
  apply UInt64.toBitVec_inj.mp
  rw [toBitVec_rotateLeft _ hk (by omega), toBitVec_rotateLeft _ hj (by omega)]
  ext i hi
  simp only [BitVec.getElem_rotateLeft]
  grind

namespace Random

/-! ### Seeds -/

theorem mix_injective : Function.Injective mix := by
  have hfirst := xor_shiftRight_injective (k := 30) (by decide) (by decide)
  have hsecond := xor_shiftRight_injective (k := 27) (by decide) (by decide)
  have hthird := xor_shiftRight_injective (k := 31) (by decide) (by decide)
  have hmul := mul_injective_of_mul_eq_one (c := 0xbf58476d1ce4e5b9) (d := 0x96de1b173f119089) (by decide)
  have hmul' := mul_injective_of_mul_eq_one (c := 0x94d049bb133111eb) (d := 0x319642b2d24d8ec3) (by decide)
  exact hthird.comp (hmul'.comp (hsecond.comp (hmul.comp hfirst)))

theorem mix_eq_zero_iff {z : UInt64} : mix z = 0 ↔ z = 0 := by
  have hzero : mix 0 = 0 := by decide
  rw [← hzero, mix_injective.eq_iff, hzero]

/-- The two words that a seed is stretched to come from different inputs, and only zero is mixed to zero. -/
theorem mix_ne_zero (seed : UInt64) : ¬ (mix (seed + weyl) = 0 ∧ mix (seed + weyl + weyl) = 0) := by
  rw [mix_eq_zero_iff, mix_eq_zero_iff]
  rintro ⟨hfirst, hsecond⟩
  rw [hfirst] at hsecond
  exact absurd hsecond (by decide)

theorem ofSeed_eq (seed : UInt64) : ofSeed seed = ⟨mix (seed + weyl), mix (seed + weyl + weyl)⟩ :=
  if_neg (mix_ne_zero seed)

theorem ofSeed_injective : Function.Injective ofSeed := by
  intro a b h
  rw [ofSeed_eq, ofSeed_eq, Random.mk.injEq] at h
  exact (UInt64.add_left_inj weyl).mp (mix_injective h.1)

theorem ofSeed_ne_zero (seed : UInt64) : ofSeed seed ≠ ⟨0, 0⟩ := by
  rw [ofSeed_eq, ne_eq, Random.mk.injEq]
  exact mix_ne_zero seed

/-! ### Steps -/

/-- The state before a step. -/
def retreat (g : Random) : Random :=
  let t := rotateLeft g.s1 28
  let s0 := rotateLeft (g.s0 ^^^ t ^^^ (t <<< 14)) 9
  ⟨s0, t ^^^ s0⟩

theorem xor_xor_cancel (a b c : UInt64) : a ^^^ b ^^^ c ^^^ b ^^^ c = a := by
  have hbc : (b ^^^ c) ^^^ (b ^^^ c) = 0 := UInt64.xor_self
  calc a ^^^ b ^^^ c ^^^ b ^^^ c = a ^^^ ((b ^^^ c) ^^^ (b ^^^ c)) := by ac_rfl
    _ = a := by rw [hbc, UInt64.xor_zero]

theorem xor_cancel (a b : UInt64) : a ^^^ b ^^^ b = a := by
  rw [UInt64.xor_assoc, UInt64.xor_self, UInt64.xor_zero]

theorem retreat_advance (g : Random) : g.advance.retreat = g := by
  have hround (x : UInt64) : rotateLeft (rotateLeft x 36) 28 = x :=
    rotateLeft_rotateLeft x (by decide) (by decide) (by decide)
  have hround' (x : UInt64) : rotateLeft (rotateLeft x 55) 9 = x :=
    rotateLeft_rotateLeft x (by decide) (by decide) (by decide)
  simp only [advance, retreat, hround, xor_xor_cancel, hround', xor_cancel]

theorem advance_retreat (g : Random) : g.retreat.advance = g := by
  have hround (x : UInt64) : rotateLeft (rotateLeft x 28) 36 = x :=
    rotateLeft_rotateLeft x (by decide) (by decide) (by decide)
  have hround' (x : UInt64) : rotateLeft (rotateLeft x 9) 55 = x :=
    rotateLeft_rotateLeft x (by decide) (by decide) (by decide)
  simp only [advance, retreat, xor_cancel, hround, xor_xor_cancel, hround']

theorem advance_bijective : Function.Bijective advance :=
  Function.bijective_iff_has_inverse.mpr ⟨retreat, retreat_advance, advance_retreat⟩

theorem iterate_advance_zero (n : ℕ) : advance^[n] ⟨0, 0⟩ = ⟨0, 0⟩ :=
  Function.iterate_fixed (by decide) n

/-! ### Draws -/

/-- What a generator can be asked for: a number in `[0, 1)`, or one from a range. -/
inductive Draw where
  | next
  | range (lo hi : Float)

/-- How many steps a draw takes; an empty range takes none. -/
def Draw.steps : Draw → ℕ
  | .next => 1
  | .range lo hi => if hi ≤ lo then 0 else 1

/-- Does one draw. -/
def draw (g : Random) : Draw → Float × Random
  | .next => g.next
  | .range lo hi => g.range lo hi

/-- Does draws in order. -/
def drawAll (g : Random) : List Draw → List Float × Random
  | [] => ([], g)
  | d :: ds =>
    let (x, g) := g.draw d
    let (xs, g) := g.drawAll ds
    (x :: xs, g)

theorem draw_state (g : Random) (d : Draw) : (g.draw d).2 = advance^[d.steps] g := by
  cases d with
  | next => rfl
  | range lo hi =>
      simp only [draw, range, Draw.steps]
      split_ifs <;> rfl

/-- The state after draws depends on the number of their steps only. -/
theorem drawAll_state (g : Random) (ds : List Draw) :
    (g.drawAll ds).2 = advance^[(ds.map Draw.steps).sum] g := by
  induction ds generalizing g with
  | nil => rfl
  | cons d ds ih =>
      rw [List.map_cons, List.sum_cons, Nat.add_comm, Function.iterate_add_apply, ← draw_state, ← ih]
      rfl

end Random

/-- The state from which the rectangles of one size are drawn. -/
def Harness.firstState (h : Harness) (objectCount : UInt64) : Random :=
  .ofSeed (h.config.seed ^^^ objectCount)

namespace Random

/-- **Seeds stay apart.**  The two words of a seed are never both zero, so none is replaced, and no number of
draws leads to the zero state.  A step of the generator is a bijection, so different seeds are in different
states after equally many steps, whatever was drawn.  A harness draws each size from a seed of its own, and
different sizes start from different states. -/
theorem seeds_stay_apart :
    (∀ seed, ¬ (mix (seed + weyl) = 0 ∧ mix (seed + weyl + weyl) = 0)) ∧
    (∀ seed draws, ((ofSeed seed).drawAll draws).2 ≠ ⟨0, 0⟩) ∧
    Function.Bijective advance ∧
    (∀ seed seed' draws draws', seed ≠ seed' →
      (draws.map Draw.steps).sum = (draws'.map Draw.steps).sum →
      ((ofSeed seed).drawAll draws).2 ≠ ((ofSeed seed').drawAll draws').2) ∧
    ∀ h : Harness,
      (∀ n, h.rects n = (do
        h.config.shape.validate
        ShapeRanges.drawMany (fun _ => h.config.shape.drawRect) n.toNat (h.firstState n) #[])) ∧
      ∀ n n', n ≠ n' → h.firstState n ≠ h.firstState n' := by
  have hinjective (k : ℕ) : Function.Injective advance^[k] := advance_bijective.injective.iterate k
  refine ⟨mix_ne_zero, ?_, advance_bijective, ?_, ?_⟩
  · intro seed draws hzero
    rw [drawAll_state, ← iterate_advance_zero (draws.map Draw.steps).sum] at hzero
    exact ofSeed_ne_zero seed (hinjective _ hzero)
  · intro seed seed' draws draws' hne hsteps heq
    rw [drawAll_state, drawAll_state, hsteps] at heq
    exact hne (ofSeed_injective (hinjective _ heq))
  · intro h
    refine ⟨fun n => rfl, ?_⟩
    intro n n' hne heq
    exact hne ((UInt64.xor_right_inj h.config.seed).mp (ofSeed_injective heq))

/-- The seed whose first word is zero and its neighbour are apart after a draw from a proper range and
one from an empty range on one side and a plain draw on the other; so are the first two sizes of a harness. -/
theorem seeds_stay_apart_halfZero :
    mix (-weyl + weyl) = 0 ∧
      ((ofSeed (-weyl)).drawAll [.range 0 1, .range 2 1]).2 ≠ ((ofSeed (1 - weyl)).drawAll [.next]).2 ∧
      ∃ h, Harness.make {} = .ok h ∧ h.firstState 0 ≠ h.firstState 1 := by
  obtain ⟨-, -, -, hseeds, hsizes⟩ := seeds_stay_apart
  refine ⟨by decide, ?_, _, rfl, ?_⟩
  · exact hseeds (-weyl) (1 - weyl) _ _ (by decide) (by decide +kernel)
  · exact (hsizes _).2 0 1 (by decide)

end Random

end Broadphase
