import Broadphase.Proofs.Json.Text

/-! # Numbers inside a text

A number is read the same way whether it stands alone or something follows that cannot belong to it
(`isLocal_read`).  So a number that reads back alone reads back inside a document.  A natural number
of up to 64 bits always reads back (`read_toString`). -/

namespace Broadphase

/-- A reader that finds the same value when more text follows that could not belong to a value. -/
def Reader.IsLocal {α : Type} (read : Reader α) : Prop :=
  ∀ {t r rest : Bytes} {a : α}, Json.Ends rest → read t = .ok (a, r) → read (t ++ rest) = .ok (a, r ++ rest)

namespace JsonNumber

open Json (Ends)

/-! ### Bytes that end a number -/

theorem ends_cons {b : UInt8} {bs : Bytes} (h : Ends (b :: bs)) :
    Byte.isDigit b = false ∧ b ≠ Byte.dot ∧ Byte.isExponentMark b = false ∧ b ≠ Byte.minus ∧
      b ≠ Byte.plus := by
  have hb : Json.endsValue b := h b rfl
  simp only [Json.endsValue, Byte.isBlank, Bool.or_eq_true, decide_eq_true_eq] at hb
  rcases hb with (((((rfl | rfl) | rfl) | rfl) | rfl) | rfl) | rfl <;> decide

theorem takeWhile_isDigit_append {rest : Bytes} (h : Ends rest) (t : Bytes) :
    (t ++ rest).takeWhile Byte.isDigit = t.takeWhile Byte.isDigit := by
  induction t with
  | nil =>
    cases rest with
    | nil => rfl
    | cons b bs => simp [(ends_cons h).1]
  | cons b t ih => simp [List.takeWhile_cons, ih]

theorem dropWhile_isDigit_append {rest : Bytes} (h : Ends rest) (t : Bytes) :
    (t ++ rest).dropWhile Byte.isDigit = t.dropWhile Byte.isDigit ++ rest := by
  induction t with
  | nil =>
    cases rest with
    | nil => rfl
    | cons b bs => simp [(ends_cons h).1]
  | cons b t ih =>
    simp only [List.cons_append, List.dropWhile_cons, ih]
    split <;> simp

/-! ### Rows of digits -/

theorem wholeDigits_append {rest : Bytes} (h : Ends rest) (n : Nat) (t : Bytes) :
    wholeDigits n (t ++ rest) =
      ((wholeDigits n t).1, (wholeDigits n t).2.1, (wholeDigits n t).2.2 ++ rest) := by
  fun_induction wholeDigits n t with
  | case1 n =>
    cases rest with
    | nil => rfl
    | cons b bs => simp [wholeDigits, (ends_cons h).1]
  | case2 n b bs hd hle ih => simp [wholeDigits, hd, hle, ih]
  | case3 n b bs hd hle =>
    simp [wholeDigits, hd, hle, takeWhile_isDigit_append h, dropWhile_isDigit_append h]
  | case4 n b bs hd => simp [wholeDigits, hd]

theorem fractionDigits_append {rest : Bytes} (h : Ends rest) (n places : Nat) (t : Bytes) :
    fractionDigits n places (t ++ rest) =
      ((fractionDigits n places t).1, (fractionDigits n places t).2.1,
        (fractionDigits n places t).2.2 ++ rest) := by
  fun_induction fractionDigits n places t with
  | case1 n places =>
    cases rest with
    | nil => rfl
    | cons b bs => simp [fractionDigits, (ends_cons h).1]
  | case2 n places b bs hd hle ih => simp [fractionDigits, hd, hle, ih]
  | case3 n places b bs hd hle => simp [fractionDigits, hd, hle, dropWhile_isDigit_append h]
  | case4 n places b bs hd => simp [fractionDigits, hd]

theorem exponentDigits_append {rest : Bytes} (h : Ends rest) (e : Nat) (t : Bytes) :
    exponentDigits e (t ++ rest) = ((exponentDigits e t).1, (exponentDigits e t).2 ++ rest) := by
  fun_induction exponentDigits e t with
  | case1 e =>
    cases rest with
    | nil => rfl
    | cons b bs => simp [exponentDigits, (ends_cons h).1]
  | case2 e b bs hd hle ih => simp [exponentDigits, hd, hle, ih]
  | case3 e b bs hd hle => simp [exponentDigits, hd, hle, dropWhile_isDigit_append h]
  | case4 e b bs hd => simp [exponentDigits, hd]

theorem exponentSign_append {rest : Bytes} (h : Ends rest) (t : Bytes) :
    exponentSign (t ++ rest) = ((exponentSign t).1, (exponentSign t).2 ++ rest) := by
  cases t with
  | nil =>
    cases rest with
    | nil => rfl
    | cons b bs =>
      obtain ⟨-, -, -, hminus, hplus⟩ := ends_cons h
      simp [exponentSign, hminus, hplus]
  | cons b t =>
    simp only [List.cons_append, exponentSign]
    split_ifs <;> rfl

/-! ### Numbers -/

/-- The rest of a text is passed on as it is. -/
theorem return_eq_ok {α : Type} {x : Except JsonError α} {r r' : Bytes} {a : α} :
    (do return (← x, r)) = Except.ok (a, r') ↔ x = .ok a ∧ r = r' := by
  cases x with
  | error e => simp
  | ok b => simp [Json.ok_bind, pure, Except.pure]

theorem isLocal_readExponent (negative : Bool) (significand : Nat) (e : Int) :
    (readExponent negative significand e).IsLocal := by
  intro t r rest n hend h
  simp only [readExponent] at h ⊢
  rw [exponentSign_append hend]
  cases ht : (exponentSign t).2 with
  | nil => simp [ht] at h
  | cons b bs =>
    simp only [ht, List.cons_append] at h ⊢
    by_cases hd : Byte.isDigit b
    · simp only [hd, if_true] at h ⊢
      rw [exponentDigits_append hend]
      rcases hk : exponentDigits (Byte.digit b) bs with ⟨k?, left⟩
      cases k? with
      | some k =>
        simp only [hk] at h ⊢
        obtain ⟨hn, rfl⟩ := return_eq_ok.mp h
        exact return_eq_ok.mpr ⟨hn, rfl⟩
      | none =>
        simp only [hk] at h ⊢
        split at h
        · simp at h
        · next hbig =>
          rw [if_neg hbig]
          simp only [Except.ok.injEq, Prod.mk.injEq] at h ⊢
          exact ⟨h.1, by rw [h.2]⟩
    · simp [hd] at h

theorem isLocal_afterFraction (negative : Bool) (significand : Nat) (e : Int) :
    (afterFraction negative significand e).IsLocal := by
  intro t r rest n hend h
  cases t with
  | nil =>
    obtain ⟨hn, rfl⟩ := return_eq_ok.mp h
    cases rest with
    | nil => exact return_eq_ok.mpr ⟨hn, rfl⟩
    | cons b bs =>
      simp only [List.nil_append, afterFraction, (ends_cons hend).2.2.1, Bool.false_eq_true, if_false]
      exact return_eq_ok.mpr ⟨hn, rfl⟩
  | cons b t =>
    simp only [List.cons_append, afterFraction] at h ⊢
    by_cases hmark : Byte.isExponentMark b
    · rw [if_pos hmark] at h ⊢
      exact isLocal_readExponent negative significand e hend h
    · rw [if_neg hmark] at h ⊢
      obtain ⟨hn, rfl⟩ := return_eq_ok.mp h
      exact return_eq_ok.mpr ⟨hn, rfl⟩

theorem isLocal_readFraction (negative : Bool) (significand : Nat) (e : Int) :
    (readFraction negative significand e).IsLocal := by
  intro t r rest n hend h
  cases t with
  | nil => simp [readFraction] at h
  | cons b t =>
    simp only [List.cons_append, readFraction] at h ⊢
    by_cases hd : Byte.isDigit b
    · rw [if_pos hd] at h ⊢
      rw [← List.cons_append, fractionDigits_append hend]
      exact isLocal_afterFraction negative _ _ hend h
    · rw [if_neg hd] at h
      simp at h

theorem isLocal_afterWhole (negative : Bool) (significand dropped : Nat) :
    (afterWhole negative significand dropped).IsLocal := by
  intro t r rest n hend h
  cases t with
  | nil =>
    obtain ⟨hn, rfl⟩ := return_eq_ok.mp h
    cases rest with
    | nil => exact return_eq_ok.mpr ⟨hn, rfl⟩
    | cons b bs =>
      obtain ⟨-, hdot, hmark, -, -⟩ := ends_cons hend
      simp only [List.nil_append, afterWhole, hdot, hmark, Bool.false_eq_true, if_false]
      exact return_eq_ok.mpr ⟨hn, rfl⟩
  | cons b t =>
    simp only [List.cons_append, afterWhole] at h ⊢
    by_cases hdot : b = Byte.dot
    · rw [if_pos hdot] at h ⊢
      exact isLocal_readFraction negative significand dropped hend h
    rw [if_neg hdot] at h ⊢
    by_cases hmark : Byte.isExponentMark b
    · rw [if_pos hmark] at h ⊢
      exact isLocal_readExponent negative significand dropped hend h
    · rw [if_neg hmark] at h ⊢
      obtain ⟨hn, rfl⟩ := return_eq_ok.mp h
      exact return_eq_ok.mpr ⟨hn, rfl⟩

theorem isLocal_read (negative : Bool) : (read negative).IsLocal := by
  intro t r rest n hend h
  cases t with
  | nil => simp [read] at h
  | cons b t =>
    simp only [List.cons_append, read] at h ⊢
    by_cases hzero : b = Byte.zero
    · rw [if_pos hzero] at h ⊢
      rw [takeWhile_isDigit_append hend]
      split at h
      · next hnone =>
        rw [if_pos hnone]
        exact isLocal_afterWhole negative 0 0 hend h
      · simp at h
    · rw [if_neg hzero] at h ⊢
      by_cases hd : Byte.isDigit b
      · rw [if_pos hd] at h ⊢
        rw [wholeDigits_append hend]
        exact isLocal_afterWhole negative _ _ hend h
      · rw [if_neg hd] at h
        simp at h

/-! ### Natural numbers -/

theorem toNat_of_isDigit {c : Char} (h : c.isDigit) : 48 ≤ c.toNat ∧ c.toNat ≤ 57 := by
  simp only [Char.isDigit, Bool.and_eq_true, decide_eq_true_eq, ge_iff_le, UInt32.le_iff_toNat_le] at h
  exact h

theorem toNat_ofChar {c : Char} (h : c.toNat ≤ 127) : (Byte.ofChar c).toNat = c.toNat :=
  Nat.mod_eq_of_lt (by omega)

theorem isDigit_ofChar {c : Char} (h : c.isDigit) : Byte.isDigit (Byte.ofChar c) := by
  obtain ⟨hlo, hhi⟩ := toNat_of_isDigit h
  have hnat := toNat_ofChar (c := c) (by omega)
  have h0 : Byte.zero.toNat = 48 := rfl
  have h9 : Byte.nine.toNat = 57 := rfl
  simp only [Byte.isDigit, Bool.and_eq_true, decide_eq_true_eq, UInt8.le_iff_toNat_le, hnat, h0, h9]
  exact ⟨hlo, hhi⟩

theorem digit_ofChar {c : Char} (h : c.isDigit) : Byte.digit (Byte.ofChar c) = c.toNat - '0'.toNat := by
  obtain ⟨hlo, hhi⟩ := toNat_of_isDigit h
  rw [Byte.digit, toNat_ofChar (by omega)]
  rfl

theorem le_ofDigitChars (cs : List Char) (n : Nat) : n ≤ Nat.ofDigitChars 10 cs n := by
  induction cs generalizing n with
  | nil => exact Nat.le_refl n
  | cons c cs ih =>
    have h := ih (10 * n + (c.toNat - '0'.toNat))
    rw [Nat.ofDigitChars] at h ⊢
    rw [List.foldl_cons]
    omega

theorem wholeDigits_map {cs : List Char} (hd : ∀ c ∈ cs, c.isDigit) {n : Nat}
    (h : Nat.ofDigitChars 10 cs n ≤ maxSignificand) :
    wholeDigits n (cs.map Byte.ofChar) = (Nat.ofDigitChars 10 cs n, 0, []) := by
  induction cs generalizing n with
  | nil => rfl
  | cons c cs ih =>
    have hc : c.isDigit := hd c List.mem_cons_self
    have hstep : Nat.ofDigitChars 10 (c :: cs) n =
        Nat.ofDigitChars 10 cs (n * 10 + Byte.digit (Byte.ofChar c)) := by
      rw [digit_ofChar hc, Nat.mul_comm n 10]
      rfl
    rw [hstep] at h ⊢
    have hle := (le_ofDigitChars cs _).trans h
    simp only [List.map_cons, wholeDigits, isDigit_ofChar hc, if_true, if_pos hle]
    exact ih (fun c' hc' => hd c' (List.mem_cons_of_mem c hc')) h

theorem bytes_toString (n : Nat) : Json.bytes (toString n) = (Nat.toDigits 10 n).map Byte.ofChar := by
  rw [Nat.toString_eq_ofList_toDigits, Json.bytes_ofList, List.map_eq_flatMap]
  have hascii (c : Char) (hc : c ∈ Nat.toDigits 10 n) : String.utf8EncodeChar c = [Byte.ofChar c] := by
    have hdigit := toNat_of_isDigit (Nat.isDigit_of_mem_toDigits (by omega) (by omega) hc)
    exact Json.utf8EncodeChar_of_le (by omega)
  exact List.flatMap_congr hascii

/-- A number other than zero does not begin with a zero. -/
theorem head_toDigits_ne {n : Nat} (hn : 0 < n) : (Nat.toDigits 10 n).head? ≠ some '0' := by
  induction n using Nat.strongRecOn with
  | ind n ih =>
    rw [Nat.toDigits_eq_if (by omega)]
    split
    · next hlt =>
      interval_cases n <;> decide
    · next hge =>
      have hnil := Nat.toDigits_ne_nil (n := n / 10) (b := 10)
      rw [List.head?_append_of_ne_nil _ hnil]
      exact ih (n / 10) (by omega) (by omega)

/-- A natural number of up to 64 bits is read back. -/
theorem read_toString {n : Nat} (h : n ≤ maxSignificand) :
    read false (Json.bytes (toString n)) = .ok (.int n, []) := by
  rw [bytes_toString]
  have hdigits (c : Char) (hc : c ∈ Nat.toDigits 10 n) : c.isDigit :=
    Nat.isDigit_of_mem_toDigits (by omega) (by omega) hc
  have hvalue : Nat.ofDigitChars 10 (Nat.toDigits 10 n) 0 = n := Nat.ofDigitChars_ten_toDigits
  rcases Nat.eq_zero_or_pos n with rfl | hpos
  · rfl
  have hhead := head_toDigits_ne hpos
  cases hcs : Nat.toDigits 10 n with
  | nil => exact absurd hcs Nat.toDigits_ne_nil
  | cons c cs =>
    rw [hcs] at hdigits hvalue hhead
    have hc : c.isDigit := hdigits c List.mem_cons_self
    have hzero : Byte.ofChar c ≠ Byte.zero := by
      intro h0
      apply hhead
      have hle := (toNat_of_isDigit hc).2
      have hnat : c.toNat = '0'.toNat := by
        rw [← toNat_ofChar (by omega), h0]
        rfl
      rw [List.head?_cons, Char.toNat_inj.mp hnat]
    have hrest : Nat.ofDigitChars 10 cs (Byte.digit (Byte.ofChar c)) = n := by
      rw [digit_ofChar hc]
      rw [← hvalue]
      simp [Nat.ofDigitChars]
    have hwhole := wholeDigits_map (fun c' hc' => hdigits c' (List.mem_cons_of_mem c hc'))
      (hrest.trans_le h)
    rw [hrest] at hwhole
    simp only [List.map_cons, read, if_neg hzero, isDigit_ofChar hc, if_true, hwhole]
    rfl

end JsonNumber

end Broadphase
