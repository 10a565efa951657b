import Broadphase.Proofs.Json.Readers

/-! # Records inside a text

Reading an object is going through its members in the order of the text (`finds_object`): a member
with the name of a field does what the field's reader does with its value, any other member does
nothing, and at the end a record that must be complete is checked for missing fields.  The statement
covers failures too: the first member that fails decides. -/

namespace Broadphase

open Json (Blank Ends bytes)

/-! ### Texts of objects -/

/-- A member of an object: its key and the text of its value. -/
structure Member where
  key : String
  text : Bytes

/-- The members of an object as they stand between its braces, with any blanks between the tokens. -/
inductive MembersText : List Member → Bytes → Prop
  | none {w : Bytes} : Blank w → MembersText [] w
  | last {m : Member} {w₁ w₂ w₃ w₄ : Bytes} : Blank w₁ → Blank w₂ → Blank w₃ → Blank w₄ →
      MembersText [m] (w₁ ++ bytes (Json.quote m.key) ++ w₂ ++ Byte.colon :: w₃ ++ m.text ++ w₄)
  | more {m n : Member} {ms : List Member} {w₁ w₂ w₃ w₄ t : Bytes} :
      Blank w₁ → Blank w₂ → Blank w₃ → Blank w₄ → MembersText (n :: ms) t →
      MembersText (m :: n :: ms)
        (w₁ ++ bytes (Json.quote m.key) ++ w₂ ++ Byte.colon :: w₃ ++ m.text ++ w₄ ++ Byte.comma :: t)

/-- The object with the given members in order. -/
def ObjectText (ms : List Member) (t : Bytes) : Prop :=
  ∃ body, MembersText ms body ∧ t = Byte.openBrace :: (body ++ [Byte.closeBrace])

theorem MembersText.length_le {ms : List Member} {t : Bytes} (h : MembersText ms t) :
    ms.length ≤ t.length := by
  induction h with
  | none hw => simp
  | last hw₁ hw₂ hw₃ hw₄ =>
    simp
    omega
  | more hw₁ hw₂ hw₃ hw₄ ht ih =>
    simp at ih ⊢
    omega

/-- The text of at least one member begins with the quote of a key. -/
theorem MembersText.exists_quote {m : Member} {ms : List Member} {t : Bytes}
    (h : MembersText (m :: ms) t) : ∃ w bs, Blank w ∧ t = w ++ Byte.quote :: bs := by
  obtain ⟨k, hk, -⟩ := Json.string_quote m.key
  cases h with
  | @last _ w₁ w₂ w₃ w₄ hw₁ hw₂ hw₃ hw₄ =>
    exact ⟨w₁, k ++ w₂ ++ Byte.colon :: w₃ ++ m.text ++ w₄, hw₁, by simp [hk]⟩
  | @more _ n ms w₁ w₂ w₃ w₄ t hw₁ hw₂ hw₃ hw₄ ht =>
    exact ⟨w₁, k ++ w₂ ++ Byte.colon :: w₃ ++ m.text ++ w₄ ++ Byte.comma :: t, hw₁, by simp [hk]⟩

/-! ### Going from member to member -/

namespace Json

theorem nextKey_quote {w : Bytes} (hw : Blank w) (bs : Bytes) :
    nextKey true (w ++ Byte.quote :: bs) = .ok (.key bs) := by
  rw [nextKey, skipBlank_append hw, skipBlank_cons (by decide)]
  rfl

theorem nextKey_closeBrace (first : Bool) {w : Bytes} (hw : Blank w) (bs : Bytes) :
    nextKey first (w ++ Byte.closeBrace :: bs) = .ok (.closed bs) := by
  rw [nextKey, skipBlank_append hw, skipBlank_cons (by decide)]
  rfl

/-- Behind a comma the next key is found as at the beginning. -/
theorem nextKey_comma {w w' : Bytes} (hw : Blank w) (hw' : Blank w') (bs : Bytes) :
    nextKey false (w ++ Byte.comma :: (w' ++ Byte.quote :: bs)) =
      nextKey true (w' ++ Byte.quote :: bs) := by
  rw [nextKey_quote hw', nextKey, skipBlank_append hw, skipBlank_cons (by decide)]
  simp only [skipBlank_append hw', skipBlank_cons (b := Byte.quote) (by decide)]
  rfl

theorem afterKey_colon {w : Bytes} (hw : Blank w) (bs : Bytes) :
    afterKey (w ++ Byte.colon :: bs) = .ok bs := by
  rw [afterKey, skipBlank_append hw, skipBlank_cons (by decide)]
  rfl

end Json

/-! ### Records -/

namespace Schema

variable {ρ : Type}

/-- Whether a record has a field of this name. -/
def knows (s : Schema ρ) (key : String) : Bool := (s.fields.find? (·.name == key)).isSome

/-- What a member does to the record that is being read. -/
inductive Means (s : Schema ρ) : Member → (ρ → Except JsonError ρ) → Prop
  | known {m : Member} {f : Field ρ} {effect : ρ → Except JsonError ρ} :
      s.fields.find? (·.name == m.key) = some f → (∀ v, (f.read v).Finds m.text (effect v)) →
      Means s m effect
  | unknown {m : Member} : s.knows m.key = false → Json.IsText .value m.text → Means s m .ok

/-- The first field that must be given and is not. -/
def lacking? (s : Schema ρ) (given : String → Bool) : Option String :=
  if s.complete then (s.fields.map (·.name)).find? fun n => !given n else none

/-- The end of an object: a record that must be complete is checked for missing fields. -/
def finish (s : Schema ρ) (given : String → Bool) (v : ρ) : Except JsonError ρ :=
  match s.lacking? given with
  | some name => .error (.missingField name)
  | none => .ok v

/-- The keys that have been seen after a member. -/
def seenAfter (s : Schema ρ) (seen : List String) (m : Member) : List String :=
  if s.knows m.key then m.key :: seen else seen

variable {s : Schema ρ}

theorem readMembers_closeBrace (steps : Nat) (seen : List String) (first : Bool) (v : ρ) {w : Bytes}
    (hw : Blank w) (rest : Bytes) :
    s.readMembers (steps + 1) seen first v (w ++ Byte.closeBrace :: rest) =
      (s.finish seen.contains v).map (·, rest) := by
  have hlacking : (if s.complete then s.missing? seen else none) = s.lacking? seen.contains := rfl
  rw [readMembers, Json.nextKey_closeBrace first hw, Json.ok_bind]
  simp only [hlacking, finish]
  cases s.lacking? seen.contains with
  | some name => rfl
  | none => rfl

/-- One member of an object. -/
theorem readMembers_member {m : Member} {effect : ρ → Except JsonError ρ} (hm : s.Means m effect)
    {steps : Nat} {seen : List String} (hseen : s.knows m.key → m.key ∉ seen) (v : ρ)
    {w₁ w₂ w₃ rest : Bytes} (hw₁ : Blank w₁) (hw₂ : Blank w₂) (hw₃ : Blank w₃) (hend : Ends rest) :
    s.readMembers (steps + 1) seen true v
        (w₁ ++ bytes (Json.quote m.key) ++ w₂ ++ Byte.colon :: w₃ ++ m.text ++ rest) =
      (do let v ← effect v; s.readMembers steps (s.seenAfter seen m) false v rest) := by
  obtain ⟨k, hk, hstring⟩ := Json.string_quote m.key
  have htext : w₁ ++ bytes (Json.quote m.key) ++ w₂ ++ Byte.colon :: w₃ ++ m.text ++ rest =
      w₁ ++ Byte.quote :: (k ++ (w₂ ++ Byte.colon :: (w₃ ++ m.text ++ rest))) := by simp [hk]
  rw [htext, readMembers, Json.nextKey_quote hw₁, Json.ok_bind]
  simp only [hstring, Json.ok_bind]
  cases hm with
  | known hf hread =>
    have hknown : s.knows m.key := by rw [knows, hf, Option.isSome_some]
    have hnew : seen.contains m.key = false := by simpa using hseen hknown
    simp only [hf, hnew, Bool.false_eq_true, if_false, Json.afterKey_colon hw₂, Json.ok_bind,
      hread v w₃ rest hw₃ hend, seenAfter, if_pos hknown]
    cases effect v with
    | error e => rfl
    | ok v' => rfl
  | unknown hunknown htext =>
    have hf : s.fields.find? (·.name == m.key) = none := by simpa [knows] using hunknown
    simp only [hf, Json.afterKey_colon hw₂, Json.ok_bind, Json.skipValue_text hw₃ htext hend,
      seenAfter, hunknown, Bool.false_eq_true, if_false]

/-- The effects of the members one after another. -/
def foldMembers (effect : Member → ρ → Except JsonError ρ) (ms : List Member) (v : ρ) :
    Except JsonError ρ := ms.foldlM (fun v m => effect m v) v

/-- No field is given twice. -/
def Distinct (s : Schema ρ) (ms : List Member) : Prop := ((ms.map (·.key)).filter s.knows).Nodup

instance (s : Schema ρ) (ms : List Member) : Decidable (s.Distinct ms) :=
  inferInstanceAs (Decidable ((ms.map (·.key)).filter s.knows).Nodup)

theorem Distinct.tail {m : Member} {ms : List Member} (h : s.Distinct (m :: ms)) : s.Distinct ms := by
  unfold Distinct at h ⊢
  rw [List.map_cons] at h
  exact h.sublist ((List.sublist_cons_self _ _).filter _)

/-- The keys that come later are still new after a member. -/
theorem Distinct.not_mem_seenAfter {m : Member} {ms : List Member} (h : s.Distinct (m :: ms))
    {seen : List String} (hseen : ∀ m' ∈ m :: ms, s.knows m'.key → m'.key ∉ seen) {m' : Member}
    (hm' : m' ∈ ms) (hknows : s.knows m'.key) : m'.key ∉ s.seenAfter seen m := by
  have hold := hseen m' (List.mem_cons_of_mem m hm') hknows
  unfold seenAfter
  split_ifs with hm
  · unfold Distinct at h
    rw [List.map_cons, List.filter_cons_of_pos hm, List.nodup_cons] at h
    intro hmem
    rcases List.mem_cons.mp hmem with heq | hmem
    · apply h.1
      rw [← heq]
      exact List.mem_filter.mpr ⟨List.mem_map_of_mem hm', hknows⟩
    · exact hold hmem
  · exact hold

/-- Behind a comma the members are read as from the beginning. -/
theorem readMembers_comma {m : Member} {ms : List Member} {t : Bytes} (h : MembersText (m :: ms) t)
    (steps : Nat) (seen : List String) (v : ρ) {w : Bytes} (hw : Blank w) (rest : Bytes) :
    s.readMembers steps seen false v (w ++ Byte.comma :: (t ++ rest)) =
      s.readMembers steps seen true v (t ++ rest) := by
  obtain ⟨w', bs, hw', rfl⟩ := h.exists_quote
  cases steps with
  | zero => rfl
  | succ steps =>
    rw [readMembers, readMembers, List.append_assoc, List.cons_append, Json.nextKey_comma hw hw']

theorem readMembers_text {effect : Member → ρ → Except JsonError ρ} {ms : List Member} {body : Bytes}
    (h : MembersText ms body) (hm : ∀ m ∈ ms, s.Means m (effect m)) {steps : Nat}
    (hsteps : ms.length < steps) {seen : List String} (hdistinct : s.Distinct ms)
    (hseen : ∀ m ∈ ms, s.knows m.key → m.key ∉ seen) (v : ρ) (rest : Bytes) :
    s.readMembers steps seen true v (body ++ Byte.closeBrace :: rest) =
      (do let v ← foldMembers effect ms v; s.finish (ms.foldl s.seenAfter seen).contains v).map (·, rest) := by
  induction h generalizing steps seen v with
  | none hw =>
    obtain ⟨steps, rfl⟩ : ∃ k, steps = k + 1 := ⟨steps - 1, by simp at hsteps; omega⟩
    exact readMembers_closeBrace steps seen true v hw rest
  | @last m w₁ w₂ w₃ w₄ hw₁ hw₂ hw₃ hw₄ =>
    obtain ⟨steps, rfl⟩ : ∃ k, steps = k + 2 := ⟨steps - 2, by simp at hsteps; omega⟩
    have hmem := List.mem_singleton_self m
    have hend := Json.ends_append hw₄ (b := Byte.closeBrace) (by decide) rest
    rw [List.append_assoc, readMembers_member (hm m hmem) (hseen m hmem) v hw₁ hw₂ hw₃ hend]
    simp only [foldMembers, List.foldlM_cons, List.foldlM_nil, List.foldl_cons, List.foldl_nil]
    cases effect m v with
    | error e => rfl
    | ok v' => exact readMembers_closeBrace steps _ false v' hw₄ rest
  | @more m n ms w₁ w₂ w₃ w₄ t hw₁ hw₂ hw₃ hw₄ ht ih =>
    obtain ⟨steps, rfl⟩ : ∃ k, steps = k + 1 := ⟨steps - 1, by simp at hsteps; omega⟩
    have hmem : m ∈ m :: n :: ms := List.mem_cons_self
    have hend := Json.ends_append hw₄ (b := Byte.comma) (by decide) (t ++ Byte.closeBrace :: rest)
    rw [List.append_assoc, List.append_assoc, List.cons_append,
      readMembers_member (hm m hmem) (hseen m hmem) v hw₁ hw₂ hw₃ hend]
    simp only [foldMembers, List.foldlM_cons (a := m)]
    cases effect m v with
    | error e => rfl
    | ok v' =>
      rw [Json.ok_bind, Json.ok_bind, readMembers_comma ht steps _ v' hw₄]
      apply ih
      · exact fun m' hm' => hm m' (List.mem_cons_of_mem m hm')
      · simp at hsteps ⊢
        omega
      · exact hdistinct.tail
      · exact fun m' hm' => hdistinct.not_mem_seenAfter hseen hm'

/-- Reading an object is going through its members in the order of the text. -/
theorem finds_object {effect : Member → ρ → Except JsonError ρ} {ms : List Member} {t : Bytes}
    (h : ObjectText ms t) (hm : ∀ m ∈ ms, s.Means m (effect m)) (hdistinct : s.Distinct ms) :
    s.read.Finds t
      (do let v ← foldMembers effect ms s.blank; s.finish (ms.foldl s.seenAfter []).contains v) := by
  obtain ⟨body, hbody, rfl⟩ := h
  intro w rest hw hend
  have hlength := hbody.length_le
  have hstart := Json.valueStart_append hw (b := Byte.openBrace) (by decide)
    (body ++ Byte.closeBrace :: rest)
  have htext : w ++ Byte.openBrace :: (body ++ [Byte.closeBrace]) ++ rest =
      w ++ Byte.openBrace :: (body ++ Byte.closeBrace :: rest) := by simp
  have hne : Byte.openBrace ≠ Byte.openBracket := by decide
  rw [htext, read, hstart, Json.ok_bind]
  simp only [hne, if_false, if_true]
  exact readMembers_text hbody hm (by simp; omega) hdistinct (fun _ _ _ => List.not_mem_nil) s.blank rest

end Schema

end Broadphase
