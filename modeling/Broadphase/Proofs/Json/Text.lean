import Mathlib
import Broadphase.Json.Schema

/-! # Blanks, words and strings in a text

The first half of reading: what the readers do with the pieces that the writers put together.  Blanks in
front of a value are left out (`skipBlank_append`), the letters of a word are read back
(`letters_append`), and a quoted text is read back as the text (`string_quote`), whatever characters
it holds.

A value is followed by nothing that could belong to it: `Ends rest` says that the text is over, or that
a blank, a comma or a closing bracket or brace comes next. -/

namespace Broadphase.Json

theorem ok_bind {ε α β : Type} (a : α) (f : α → Except ε β) : (.ok a >>= f) = f a := rfl

/-! ### Bytes -/

/-- The bytes of a text. -/
def bytes (s : String) : Bytes := s.toList.flatMap String.utf8EncodeChar

@[simp] theorem bytes_append (s t : String) : bytes (s ++ t) = bytes s ++ bytes t := by
  simp [bytes]

@[simp] theorem bytes_ofList (cs : List Char) :
    bytes (String.ofList cs) = cs.flatMap String.utf8EncodeChar := by
  simp [bytes]

theorem toList_loop (a : ByteArray) (i : Nat) (r : List UInt8) :
    ByteArray.toList.loop a i r = r.reverse ++ a.data.toList.drop i := by
  rw [ByteArray.toList.loop]
  split
  · next h =>
    have hi : i < a.data.toList.length := by simpa using h
    have hget : a.get! i = a.data.toList[i] := by
      show a.data[i]! = _
      rw [getElem!_pos a.data i h, Array.getElem_toList]
    rw [toList_loop a (i + 1), List.drop_eq_getElem_cons hi, hget]
    simp
  · next h =>
    have hi : a.data.toList.length ≤ i := by simpa using Nat.le_of_not_lt h
    simp [List.drop_eq_nil_of_le hi]
termination_by a.size - i

theorem toList_eq_data (a : ByteArray) : a.toList = a.data.toList := by
  rw [ByteArray.toList, toList_loop]
  simp

theorem toList_toUTF8 (s : String) : s.toUTF8.toList = bytes s := by
  show s.toByteArray.toList = _
  rw [← String.utf8Encode_toList, toList_eq_data, List.utf8Encode, List.toList_data_toByteArray]
  rfl

theorem toByteArray_bytes (s : String) : (⟨(bytes s).toArray⟩ : ByteArray) = s.toByteArray := by
  rw [← toList_toUTF8, toList_eq_data]
  rfl

theorem fromUTF8?_bytes (s : String) : String.fromUTF8? ⟨(bytes s).toArray⟩ = some s := by
  rw [toByteArray_bytes, String.fromUTF8?, dif_pos s.isValidUTF8]
  rfl

/-- The bytes of an ASCII character. -/
theorem utf8EncodeChar_of_le {c : Char} (h : c.toNat ≤ 127) :
    String.utf8EncodeChar c = [Byte.ofChar c] := by
  have hc : c.val.toNat ≤ 127 := h
  rw [String.utf8EncodeChar, if_pos hc]
  rfl

/-- Characters beyond ASCII have no ASCII bytes. -/
theorem ge_of_mem_utf8EncodeChar {c : Char} (h : 127 < c.toNat) {b : UInt8}
    (hb : b ∈ String.utf8EncodeChar c) : 0x80 ≤ b := by
  have hc : ¬ c.val.toNat ≤ 127 := Nat.not_le.mpr h
  have hle (n : Nat) (h1 : 128 ≤ n) (h2 : n < 256) : (0x80 : UInt8) ≤ UInt8.ofNat n := by
    rw [UInt8.le_iff_toNat_le, UInt8.toNat_ofNat']
    simp
    omega
  rw [String.utf8EncodeChar, if_neg hc] at hb
  split at hb
  · simp only [List.mem_cons, List.not_mem_nil, or_false] at hb
    rcases hb with rfl | rfl <;> exact hle _ (by omega) (by omega)
  split at hb
  · simp only [List.mem_cons, List.not_mem_nil, or_false] at hb
    rcases hb with rfl | rfl | rfl <;> exact hle _ (by omega) (by omega)
  · simp only [List.mem_cons, List.not_mem_nil, or_false] at hb
    rcases hb with rfl | rfl | rfl | rfl <;> exact hle _ (by omega) (by omega)

/-! ### Blanks and endings -/

/-- A text of blanks. -/
def Blank (w : Bytes) : Prop := ∀ b ∈ w, Byte.isBlank b

instance (w : Bytes) : Decidable (Blank w) := inferInstanceAs (Decidable (∀ b ∈ w, Byte.isBlank b))

theorem blank_nil : Blank [] := fun _ hb => absurd hb List.not_mem_nil

theorem skipBlank_append {w : Bytes} (hw : Blank w) (input : Bytes) :
    skipBlank (w ++ input) = skipBlank input := by
  unfold skipBlank
  exact List.dropWhile_append_of_pos hw

theorem skipBlank_cons {b : UInt8} (h : Byte.isBlank b = false) (bs : Bytes) :
    skipBlank (b :: bs) = b :: bs := by
  simp [skipBlank, h]

/-- A byte that may follow a value. -/
def endsValue (b : UInt8) : Bool :=
  Byte.isBlank b || b = Byte.comma || b = Byte.closeBracket || b = Byte.closeBrace

/-- Nothing follows that could belong to a value. -/
def Ends (rest : Bytes) : Prop := ∀ b ∈ rest.head?, endsValue b

/-! ### Words -/

theorem letters_append (cs rest : Bytes) : letters cs (cs ++ rest) = .ok ((), rest) := by
  induction cs with
  | nil => rfl
  | cons c cs ih => simp [letters, ih]

/-! ### Strings -/

theorem hex?_hexDigit : ∀ n < 16, Byte.hex? (Byte.ofChar (hexDigit n)) = some n := by decide

theorem hexDigit_le : ∀ n < 16, (hexDigit n).toNat ≤ 127 := by decide

/-- Bytes that are neither special nor control characters stand for themselves. -/
theorem stringContent_plain {bs : Bytes} (h : ∀ b ∈ bs, b ≠ Byte.quote ∧ b ≠ Byte.backslash ∧ ¬ b < 0x20)
    (content rest : Bytes) :
    stringContent .plain content (bs ++ rest) = stringContent .plain (bs.reverse ++ content) rest := by
  induction bs generalizing content with
  | nil => rfl
  | cons b bs ih =>
    obtain ⟨hquote, hback, hctrl⟩ := h b List.mem_cons_self
    have hstep : stringStep content b .plain = .ok (.more .plain (b :: content)) := by
      simp [stringStep, hquote, hback, hctrl]
    rw [List.cons_append, stringContent, hstep]
    simp only
    rw [ih fun b' hb' => h b' (List.mem_cons_of_mem b hb')]
    simp

/-- An escape of one letter stands for the character that it names. -/
theorem stringContent_simple {b c : UInt8} (h : simpleEscape? b = some c) (content rest : Bytes) :
    stringContent .plain content (Byte.backslash :: b :: rest) =
      stringContent .plain (c :: content) rest := by
  have hback : stringStep content Byte.backslash .plain = .ok (.more .escaped content) := by
    simp [stringStep, Byte.backslash, Byte.quote]
  have hnext : stringStep content b .escaped = .ok (.more .plain (c :: content)) := by
    simp [stringStep, h]
  rw [stringContent, hback]
  simp only
  rw [stringContent, hnext]

/-- A control character is read from its code point. -/
theorem stringContent_control {n : Nat} (h : n < 32) (content rest : Bytes) :
    stringContent .plain content (Byte.backslash :: Byte.ofChar 'u' :: Byte.zero :: Byte.zero ::
        Byte.ofChar (hexDigit (n / 16)) :: Byte.ofChar (hexDigit (n % 16)) :: rest) =
      stringContent .plain (pushCodePoint n content) rest := by
  have hhi : Byte.hex? (Byte.ofChar (hexDigit (n / 16))) = some (n / 16) := hex?_hexDigit _ (by omega)
  have hlo : Byte.hex? (Byte.ofChar (hexDigit (n % 16))) = some (n % 16) := hex?_hexDigit _ (by omega)
  have hzero : Byte.hex? Byte.zero = some 0 := by decide
  have hvalue : n / 16 * 16 + n % 16 = n := by omega
  have hlow : isLowSurrogate n = false := by simp [isLowSurrogate]; omega
  have hhigh : isHighSurrogate n = false := by simp [isHighSurrogate]; omega
  have hletter : simpleEscape? (Byte.ofChar 'u') = none := by decide
  have hquote : Byte.backslash ≠ Byte.quote := by decide
  simp [stringContent, stringStep, finishHex, hquote, hletter, hzero, hhi, hlo, hvalue, hlow, hhigh]

theorem bytes_controlEscape {n : Nat} (h : n < 32) :
    bytes ("\\u00" ++ (hexDigit (n / 16)).toString ++ (hexDigit (n % 16)).toString) =
      [Byte.backslash, Byte.ofChar 'u', Byte.zero, Byte.zero, Byte.ofChar (hexDigit (n / 16)),
        Byte.ofChar (hexDigit (n % 16))] := by
  have hhi := utf8EncodeChar_of_le (hexDigit_le (n / 16) (by omega))
  have hlo := utf8EncodeChar_of_le (hexDigit_le (n % 16) (by omega))
  have hlead : bytes "\\u00" = [Byte.backslash, Byte.ofChar 'u', Byte.zero, Byte.zero] := by decide
  rw [bytes_append, bytes_append, hlead]
  simp [bytes, hhi, hlo]

/-- No byte of a character that needs no escape is special. -/
theorem plain_of_mem_utf8EncodeChar {c : Char} (hquote : c ≠ '"') (hback : c ≠ '\\')
    (hctrl : ¬ c.toNat < 32) {b : UInt8} (hb : b ∈ String.utf8EncodeChar c) :
    b ≠ Byte.quote ∧ b ≠ Byte.backslash ∧ ¬ b < 0x20 := by
  by_cases hc : c.toNat ≤ 127
  · rw [utf8EncodeChar_of_le hc, List.mem_singleton] at hb
    have hnat : b.toNat = c.toNat := by
      rw [hb]
      exact Nat.mod_eq_of_lt (by omega)
    refine ⟨?_, ?_, ?_⟩
    · intro hq
      apply hquote
      apply Char.toNat_inj.mp
      rw [← hnat, hq]
      rfl
    · intro hq
      apply hback
      apply Char.toNat_inj.mp
      rw [← hnat, hq]
      rfl
    · rw [UInt8.lt_iff_toNat_lt, hnat]
      exact hctrl
  · have hge := ge_of_mem_utf8EncodeChar (by omega) hb
    rw [UInt8.le_iff_toNat_le] at hge
    refine ⟨?_, ?_, ?_⟩
    · rintro rfl
      exact absurd hge (by decide)
    · rintro rfl
      exact absurd hge (by decide)
    · rw [UInt8.lt_iff_toNat_lt]
      have h128 : (0x80 : UInt8).toNat = 128 := rfl
      have h32 : (0x20 : UInt8).toNat = 32 := rfl
      omega

theorem stringContent_escape (c : Char) (content rest : Bytes) :
    stringContent .plain content (bytes (escape c) ++ rest) =
      stringContent .plain ((String.utf8EncodeChar c).reverse ++ content) rest := by
  -- the characters that are escaped by one letter
  have hsimple (s : String) (b : UInt8) (hs : bytes s = [Byte.backslash, b])
      (hb : simpleEscape? b = some (Byte.ofChar c)) (hc : c.toNat ≤ 127) :
      stringContent .plain content (bytes s ++ rest) =
        stringContent .plain ((String.utf8EncodeChar c).reverse ++ content) rest := by
    rw [hs, utf8EncodeChar_of_le hc]
    exact stringContent_simple hb content rest
  have hbyte (n : Nat) (hn : c.toNat = n) : Byte.ofChar c = UInt8.ofNat n := by
    rw [← hn]
    rfl
  unfold escape
  split_ifs with h1 h2 h3 h4 h5 h6 h7 h8
  · subst h1
    exact hsimple _ Byte.quote (by decide) (by decide) (by decide)
  · subst h2
    exact hsimple _ Byte.backslash (by decide) (by decide) (by decide)
  · exact hsimple _ (Byte.ofChar 'b') (by decide) (by rw [hbyte 8 h3]; decide) (by omega)
  · exact hsimple _ (Byte.ofChar 't') (by decide) (by rw [hbyte 9 h4]; decide) (by omega)
  · exact hsimple _ (Byte.ofChar 'n') (by decide) (by rw [hbyte 10 h5]; decide) (by omega)
  · exact hsimple _ (Byte.ofChar 'f') (by decide) (by rw [hbyte 12 h6]; decide) (by omega)
  · exact hsimple _ (Byte.ofChar 'r') (by decide) (by rw [hbyte 13 h7]; decide) (by omega)
  · have hcontrol := stringContent_control h8 content rest
    rw [bytes_controlEscape h8]
    rw [pushCodePoint, Char.ofNat_toNat] at hcontrol
    exact hcontrol
  · have hbytes : bytes c.toString = String.utf8EncodeChar c := by simp [bytes]
    rw [hbytes]
    exact stringContent_plain (fun b hb => plain_of_mem_utf8EncodeChar h1 h2 h8 hb) content rest

theorem stringContent_escapes (cs : List Char) (content rest : Bytes) :
    stringContent .plain content (bytes (String.join (cs.map escape)) ++ Byte.quote :: rest) =
      .ok (content.reverse ++ cs.flatMap String.utf8EncodeChar, rest) := by
  induction cs generalizing content with
  | nil =>
    have hstep : stringStep content Byte.quote .plain = .ok .closed := by simp [stringStep]
    simp [bytes, stringContent, hstep]
  | cons c cs ih =>
    rw [List.map_cons, String.join_cons, bytes_append, List.append_assoc, stringContent_escape, ih]
    simp

/-- A quoted text is read back as the text. -/
theorem string_quote (s : String) :
    ∃ t, bytes (quote s) = Byte.quote :: t ∧ ∀ rest, string (t ++ rest) = .ok (s, rest) := by
  refine ⟨bytes (String.join (s.toList.map escape)) ++ [Byte.quote], ?_, ?_⟩
  · have hmark : bytes "\"" = [Byte.quote] := by decide
    simp [quote, hmark]
  · intro rest
    have hcontent := stringContent_escapes s.toList [] rest
    have hvalid := fromUTF8?_bytes s
    rw [bytes] at hvalid
    rw [List.reverse_nil, List.nil_append] at hcontent
    rw [List.append_assoc, List.singleton_append, string, hcontent, ok_bind]
    simp only [hvalid]
    rfl

end Broadphase.Json
