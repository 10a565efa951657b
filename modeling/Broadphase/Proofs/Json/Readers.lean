import Broadphase.Proofs.Json.Values

/-! # What the readers find

`read.Finds t result` says what `read` does with the text `t` inside any document: it yields `result`,
whatever blanks stand before the text, and leaves what follows it.  The readers of numbers, words and
optional values find what the writers wrote (`finds_float`, `finds_natBelow`, `finds_flag`,
`finds_optional_float`).

For binary64 numbers this is a property of the number: `Recovered x` says that the text of `x` is
read as `x` again.  Reading scales by one power of ten and so may miss the last bit of a number. -/

namespace Broadphase

open Json (Blank Ends bytes)

/-- What a reader makes of a text, whatever stands around it. -/
def Reader.Finds {α : Type} (read : Reader α) (t : Bytes) (result : Except JsonError α) : Prop :=
  ∀ w rest : Bytes, Blank w → Ends rest → read (w ++ t ++ rest) = result.map (·, rest)

theorem Reader.Finds.map {α β : Type} {read : Reader α} {t : Bytes} {result : Except JsonError α}
    (h : read.Finds t result) (f : α → β) :
    Reader.Finds (fun input => do let (a, rest) ← read input; return (f a, rest)) t (result.map f) := by
  intro w rest hw hend
  simp only [h w rest hw hend]
  cases result with
  | error e => rfl
  | ok a => rfl

namespace Json

/-! ### The first byte of a value -/

theorem valueStart_append {w : Bytes} (hw : Blank w) {b : UInt8} (hb : Byte.isBlank b = false)
    (bs : Bytes) : valueStart (w ++ b :: bs) = .ok (b, bs) := by
  rw [valueStart, skipBlank_append hw, skipBlank_cons hb]

theorem skipBlank_of_valueStart {t bs : Bytes} {b : UInt8} (h : valueStart t = .ok (b, bs)) :
    skipBlank t = b :: bs := by
  unfold valueStart at h
  split at h
  · cases h
  · next c cs hc =>
    rw [hc]
    simp only [Except.ok.injEq, Prod.mk.injEq] at h
    rw [h.1, h.2]

/-- Where a value begins does not depend on what stands around it. -/
theorem valueStart_of_eq_ok {t bs : Bytes} {b : UInt8} (h : valueStart t = .ok (b, bs)) {w : Bytes}
    (hw : Blank w) (rest : Bytes) : valueStart (w ++ t ++ rest) = .ok (b, bs ++ rest) := by
  have hskip : t.dropWhile Byte.isBlank = b :: bs := skipBlank_of_valueStart h
  have hb : Byte.isBlank b = false := by
    have hhead := List.head?_dropWhile_not Byte.isBlank t
    rw [hskip] at hhead
    simpa using hhead
  have hsplit : t = t.takeWhile Byte.isBlank ++ b :: bs := by
    rw [← hskip]
    exact List.takeWhile_append_dropWhile.symm
  have hblank : Blank (w ++ t.takeWhile Byte.isBlank) := by
    intro c hc
    rcases List.mem_append.mp hc with hc | hc
    · exact hw c hc
    · exact List.mem_takeWhile_imp hc
  have happend : w ++ t ++ rest = w ++ t.takeWhile Byte.isBlank ++ b :: (bs ++ rest) := by
    conv_lhs => rw [hsplit]
    simp
  rw [happend]
  exact valueStart_append hblank hb (bs ++ rest)

/-! ### Numbers -/

/-- What is accepted as a number begins with a sign or with a digit. -/
theorem number_start {α : Type} {expected : String} {accept : JsonNumber → Except JsonError α} {t : Bytes}
    {p : α × Bytes} (h : number expected accept t = .ok p) :
    ∃ b bs, valueStart t = .ok (b, bs) ∧ (b = Byte.minus ∨ Byte.isDigit b) := by
  unfold number at h
  cases hstart : valueStart t with
  | error e =>
    rw [hstart] at h
    cases h
  | ok q =>
    obtain ⟨b, bs⟩ := q
    refine ⟨b, bs, rfl, ?_⟩
    rw [hstart, ok_bind] at h
    by_contra hb
    rw [not_or] at hb
    simp only [hb.1, hb.2, if_false] at h
    cases h

/-- A number that reads back alone reads back inside a document. -/
theorem finds_number {α : Type} {expected : String} {accept : JsonNumber → Except JsonError α} {t : Bytes}
    {a : α} (h : number expected accept t = .ok (a, [])) :
    (number expected accept).Finds t (.ok a) := by
  intro w rest hw hend
  obtain ⟨b, bs, hstart, hb⟩ := number_start h
  have hread (negative : Bool) (input : Bytes)
      (hn : (do let q ← JsonNumber.read negative input; return (← accept q.1, q.2)) =
        Except.ok (a, [])) :
      (do let q ← JsonNumber.read negative (input ++ rest); return (← accept q.1, q.2)) =
        Except.ok (a, rest) := by
    cases hr : JsonNumber.read negative input with
    | error e =>
      rw [hr] at hn
      cases hn
    | ok q =>
      obtain ⟨n, r⟩ := q
      rw [hr, ok_bind] at hn
      obtain ⟨haccept, rfl⟩ := JsonNumber.return_eq_ok.mp hn
      rw [JsonNumber.isLocal_read negative hend hr, ok_bind]
      exact JsonNumber.return_eq_ok.mpr ⟨haccept, rfl⟩
  unfold number at h ⊢
  rw [hstart, ok_bind] at h
  rw [valueStart_of_eq_ok hstart hw rest, ok_bind]
  by_cases hminus : b = Byte.minus
  · simp only [hminus, if_true] at h ⊢
    exact hread true bs h
  · have hdigit : Byte.isDigit b := hb.resolve_left hminus
    simp only [hminus, if_false, hdigit, if_true] at h ⊢
    exact hread false (b :: bs) h

/-- The text of the number is read as the number again. -/
def Recovered (x : Float) : Prop := float (bytes (Layout.document.text x)) = .ok (x, [])

instance (x : Float) : Decidable (Recovered x) := by unfold Recovered; infer_instance

theorem finds_float {x : Float} (h : Recovered x) :
    Reader.Finds float (bytes (Layout.document.text x)) (.ok x) := finds_number h

theorem finds_natBelow {n : Nat} (bits : Nat) (hbits : bits ≤ 64) (hn : n < 2 ^ bits)
    (expected : String) :
    (natBelow bits expected).Finds (bytes (toString n)) (.ok n) := by
  apply finds_number
  have hmax : n ≤ JsonNumber.maxSignificand := by
    have hpow : 2 ^ bits ≤ 2 ^ 64 := Nat.pow_le_pow_right (by omega) hbits
    have hsize : JsonNumber.maxSignificand = 2 ^ 64 - 1 := rfl
    omega
  have hread := JsonNumber.read_toString hmax
  have hdigits := JsonNumber.bytes_toString n
  cases hcs : Nat.toDigits 10 n with
  | nil => exact absurd hcs Nat.toDigits_ne_nil
  | cons c cs =>
    have hc : c.isDigit := by
      apply Nat.isDigit_of_mem_toDigits (b := 10) (n := n) (by omega) (by omega)
      rw [hcs]
      exact List.mem_cons_self
    have hdigit := JsonNumber.isDigit_ofChar hc
    obtain ⟨-, hminus, hblank, -⟩ := isDigit_ne hdigit
    rw [hcs, List.map_cons] at hdigits
    rw [hdigits] at hread ⊢
    have hstart := valueStart_append blank_nil hblank
      (cs.map Byte.ofChar)
    rw [List.nil_append] at hstart
    have hrange : 0 ≤ (n : Int) ∧ (n : Int) < Nat.pow 2 bits := by
      constructor
      · omega
      · exact_mod_cast hn
    simp only [number, hstart, ok_bind, hminus, hdigit, if_true, if_false, hread, if_pos hrange]
    rfl

theorem finds_word64 (n : UInt64) (expected : String) :
    (word64 expected).Finds (bytes (toString n.toNat)) (.ok n) := by
  have h := (finds_natBelow 64 le_rfl n.toNat_lt expected).map Nat.toUInt64
  simp only [Except.map, Nat.toUInt64, UInt64.ofNat_toNat] at h
  exact h

theorem finds_word32 (n : UInt32) (expected : String) :
    (word32 expected).Finds (bytes (toString n.toNat)) (.ok n) := by
  have h := (finds_natBelow 32 (by omega) n.toNat_lt expected).map Nat.toUInt32
  simp only [Except.map, Nat.toUInt32, UInt32.ofNat_toNat] at h
  exact h

/-! ### Words -/

/-- Behind its first letter a word is read letter by letter. -/
theorem letters_word {s : String} {c : UInt8} (hs : bytes s = c :: wordRest s)
    (hc : Byte.isBlank c = false) {w : Bytes} (hw : Blank w) (rest : Bytes) :
    valueStart (w ++ bytes s ++ rest) = .ok (c, wordRest s ++ rest) ∧
      letters (wordRest s) (wordRest s ++ rest) = .ok ((), rest) := by
  constructor
  · rw [hs, List.append_assoc]
    exact valueStart_append hw hc (wordRest s ++ rest)
  · exact letters_append (wordRest s) rest

theorem finds_flag (b : Bool) : flag.Finds (bytes (if b then "true" else "false")) (.ok b) := by
  intro w rest hw hend
  cases b with
  | true =>
    obtain ⟨hstart, hword⟩ := letters_word (s := "true") (c := Byte.ofChar 't') (by decide) (by decide)
      hw rest
    simp only [if_true, flag, hstart, ok_bind, hword]
    rfl
  | false =>
    obtain ⟨hstart, hword⟩ := letters_word (s := "false") (c := Byte.ofChar 'f') (by decide) (by decide)
      hw rest
    have hne : Byte.ofChar 'f' ≠ Byte.ofChar 't' := by decide
    simp only [Bool.false_eq_true, if_false, flag, hstart, ok_bind, hne, if_true, hword]
    rfl

/-- A number is asked for and the null word is found. -/
theorem finds_float_null : float.Finds (bytes "null") (.error (.wrongKind .null "f64")) := by
  intro w rest hw hend
  obtain ⟨hstart, hword⟩ := letters_word (s := "null") (c := Byte.ofChar 'n') (by decide) (by decide)
    hw rest
  have hminus : Byte.ofChar 'n' ≠ Byte.minus := by decide
  have hdigit : Byte.isDigit (Byte.ofChar 'n') = false := by decide
  simp only [float, number, hstart, ok_bind, hminus, hdigit, if_false, Bool.false_eq_true, wrongKind,
    if_true, hword]
  rfl

/-! ### Optional numbers -/

theorem finds_optional_none {α : Type} (read : Reader α) :
    (optional read).Finds (bytes "null") (.ok none) := by
  intro w rest hw hend
  obtain ⟨hstart, hword⟩ := letters_word (s := "null") (c := Byte.ofChar 'n') (by decide) (by decide)
    hw rest
  simp only [optional, skipBlank_of_valueStart hstart, if_true, hword]
  rfl

theorem finds_optional_float {x : Float} (h : Recovered x) :
    (optional float).Finds (bytes (Layout.document.text x)) (.ok (some x)) := by
  intro w rest hw hend
  obtain ⟨b, bs, hstart, hb⟩ := number_start h
  have hne : b ≠ Byte.ofChar 'n' := by
    rcases hb with rfl | hdigit
    · decide
    · exact (isDigit_ne hdigit).2.2.2.1
  have hskip := skipBlank_of_valueStart (valueStart_of_eq_ok hstart hw rest)
  simp only [optional, hskip, hne, if_false, finds_float h w rest hw hend]
  rfl

end Json

end Broadphase
