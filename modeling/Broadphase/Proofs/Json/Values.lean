import Broadphase.Proofs.Json.Numbers

/-! # Values that are skipped

The grammar of JSON texts as an inductive relation, and the statement that every text of the grammar is
skipped as a whole (`skipValue_text`): numbers of any length, strings with any escapes, lists and
objects nested to any depth, with any blanks between their tokens.

The skipping machine keeps its open lists and objects on a stack.  So the statement that is proved by
induction on the grammar is about any stack: behind a value the machine goes on as behind any other
value in the topmost list or object, and it stops if there is none (`resume`). -/

namespace Broadphase.Json

/-! ### The grammar -/

/-- A row of one or more digits. -/
structure Digits (t : Bytes) : Prop where
  ne_nil : t ≠ []
  isDigit : ∀ b ∈ t, Byte.isDigit b

/-- The digits of a number before the point.  A leading zero stands alone. -/
def WholeText (t : Bytes) : Prop := t = [Byte.zero] ∨ Digits t ∧ t.head? ≠ some Byte.zero

/-- The point of a number and the digits behind it, if there are any. -/
def FractionText (t : Bytes) : Prop := t = [] ∨ ∃ ds, Digits ds ∧ t = Byte.dot :: ds

/-- The exponent of a number, if there is one. -/
def ExponentText (t : Bytes) : Prop :=
  t = [] ∨ ∃ mark sign ds, Byte.isExponentMark mark ∧
    (sign = [] ∨ sign = [Byte.plus] ∨ sign = [Byte.minus]) ∧ Digits ds ∧ t = mark :: (sign ++ ds)

/-- The text of a string behind its opening quote, the closing quote included. -/
inductive StringText : Bytes → Prop
  | closed : StringText [Byte.quote]
  | plain {b : UInt8} {t : Bytes} :
      b ≠ Byte.quote → b ≠ Byte.backslash → ¬ b < 0x20 → StringText t → StringText (b :: t)
  | escaped {b : UInt8} {t : Bytes} :
      (simpleEscape? b).isSome → StringText t → StringText (Byte.backslash :: b :: t)
  | codePoint {a b c d : UInt8} {t : Bytes} :
      (Byte.hex? a).isSome → (Byte.hex? b).isSome → (Byte.hex? c).isSome → (Byte.hex? d).isSome →
      StringText t → StringText (Byte.backslash :: Byte.ofChar 'u' :: a :: b :: c :: d :: t)

/-- What a text is a text of: a value, the items of a list, or the members of an object, of which there
is at least one. -/
inductive Piece where
  | value
  | items
  | members

/-- The texts of JSON. -/
inductive IsText : Piece → Bytes → Prop
  | nullWord : IsText .value (bytes "null")
  | trueWord : IsText .value (bytes "true")
  | falseWord : IsText .value (bytes "false")
  | number {sign whole fraction exponent : Bytes} :
      sign = [] ∨ sign = [Byte.minus] → WholeText whole → FractionText fraction →
      ExponentText exponent → IsText .value (sign ++ whole ++ fraction ++ exponent)
  | string {t : Bytes} : StringText t → IsText .value (Byte.quote :: t)
  | noItems {w : Bytes} : Blank w → IsText .value (Byte.openBracket :: w ++ [Byte.closeBracket])
  | list {t : Bytes} : IsText .items t → IsText .value (Byte.openBracket :: t ++ [Byte.closeBracket])
  | noMembers {w : Bytes} : Blank w → IsText .value (Byte.openBrace :: w ++ [Byte.closeBrace])
  | object {t : Bytes} : IsText .members t → IsText .value (Byte.openBrace :: t ++ [Byte.closeBrace])
  | lastItem {w w' t : Bytes} :
      Blank w → IsText .value t → Blank w' → IsText .items (w ++ t ++ w')
  | item {w w' t more : Bytes} :
      Blank w → IsText .value t → Blank w' → IsText .items more →
      IsText .items (w ++ t ++ w' ++ Byte.comma :: more)
  | lastMember {w₁ w₂ w₃ w₄ k t : Bytes} :
      Blank w₁ → StringText k → Blank w₂ → Blank w₃ → IsText .value t → Blank w₄ →
      IsText .members (w₁ ++ Byte.quote :: k ++ w₂ ++ Byte.colon :: w₃ ++ t ++ w₄)
  | member {w₁ w₂ w₃ w₄ k t more : Bytes} :
      Blank w₁ → StringText k → Blank w₂ → Blank w₃ → IsText .value t → Blank w₄ →
      IsText .members more →
      IsText .members (w₁ ++ Byte.quote :: k ++ w₂ ++ Byte.colon :: w₃ ++ t ++ w₄ ++ Byte.comma :: more)

/-! ### Steps -/

theorem skipFrom_of_more {state state' : SkipState} {stack stack' : List Frame} {b : UInt8}
    (h : skipStep stack b state = .ok (.more state' stack')) (bs : Bytes) :
    skipFrom state stack (b :: bs) = skipFrom state' stack' bs := by
  rw [skipFrom, h]

/-- Behind a complete value: the machine goes on inside the topmost list or object, or it stops. -/
def resume (stack : List Frame) (rest : Bytes) : Except JsonError Bytes :=
  if stack.isEmpty then .ok rest else skipFrom .after stack rest

theorem skipFrom_of_completed {state : SkipState} {stack outer : List Frame} {b : UInt8}
    (h : skipStep stack b state = .ok (completed outer)) (bs : Bytes) :
    skipFrom state stack (b :: bs) = resume outer bs := by
  rw [skipFrom, h]
  unfold completed resume
  split_ifs <;> rfl

/-- The states that pass over blanks. -/
def passesBlanks : SkipState → Bool
  | .value | .opened | .after | .key | .colon => true
  | _ => false

theorem skipFrom_blank {state : SkipState} (hs : passesBlanks state) (stack : List Frame) {w : Bytes}
    (hw : Blank w) (rest : Bytes) : skipFrom state stack (w ++ rest) = skipFrom state stack rest := by
  induction w with
  | nil => rfl
  | cons b w ih =>
    have hb : Byte.isBlank b := hw b List.mem_cons_self
    have hstep : skipStep stack b state = .ok (.more state stack) := by
      cases state <;> simp [passesBlanks] at hs <;> simp [skipStep, hb]
    rw [List.cons_append, skipFrom_of_more hstep]
    exact ih fun b' hb' => hw b' (List.mem_cons_of_mem b hb')

/-! ### Words and strings -/

theorem skipFrom_word (stack : List Frame) {cs : Bytes} (hcs : cs ≠ []) (rest : Bytes) :
    skipFrom (.word cs) stack (cs ++ rest) = resume stack rest := by
  induction cs with
  | nil => exact absurd rfl hcs
  | cons c cs ih =>
    cases cs with
    | nil =>
      have hstep : skipStep stack c (.word [c]) = .ok (completed stack) := by simp [skipStep]
      exact skipFrom_of_completed hstep rest
    | cons d ds =>
      have hstep : skipStep stack c (.word (c :: d :: ds)) = .ok (.more (.word (d :: ds)) stack) := by
        simp [skipStep]
      rw [List.cons_append, skipFrom_of_more hstep]
      exact ih (List.cons_ne_nil d ds)

/-- Where the machine goes on behind a string. -/
def resumeString (stack : List Frame) (isKey : Bool) (rest : Bytes) : Except JsonError Bytes :=
  if isKey then skipFrom .colon stack rest else resume stack rest

theorem skipFrom_string (stack : List Frame) (isKey : Bool) {t : Bytes} (ht : StringText t) (rest : Bytes) :
    skipFrom (.string isKey) stack (t ++ rest) = resumeString stack isKey rest := by
  induction ht with
  | closed =>
    cases isKey with
    | true => exact skipFrom_of_more (by simp [skipStep, afterString]) rest
    | false => exact skipFrom_of_completed (by simp [skipStep, afterString]) rest
  | @plain b t hquote hback hctrl ht ih =>
    have hstep : skipStep stack b (.string isKey) = .ok (.more (.string isKey) stack) := by
      simp [skipStep, hquote, hback, hctrl]
    rw [List.cons_append, skipFrom_of_more hstep, ih]
  | @escaped b t hb ht ih =>
    have hback : skipStep stack Byte.backslash (.string isKey) = .ok (.more (.escaped isKey) stack) := by
      simp [skipStep, Byte.backslash, Byte.quote]
    have hstep : skipStep stack b (.escaped isKey) = .ok (.more (.string isKey) stack) := by
      simp [skipStep, hb]
    rw [List.cons_append, List.cons_append, skipFrom_of_more hback, skipFrom_of_more hstep, ih]
  | @codePoint a b c d t ha hb hc hd ht ih =>
    have hback : skipStep stack Byte.backslash (.string isKey) = .ok (.more (.escaped isKey) stack) := by
      simp [skipStep, Byte.backslash, Byte.quote]
    have hletter : skipStep stack (Byte.ofChar 'u') (.escaped isKey) =
        .ok (.more (.hex isKey 4 true) stack) := by
      have hu : simpleEscape? (Byte.ofChar 'u') = none := by decide
      simp [skipStep, hu]
    have hfour : skipStep stack a (.hex isKey 4 true) = .ok (.more (.hex isKey 3 true) stack) := by
      simp [skipStep, ha]
    have hthree : skipStep stack b (.hex isKey 3 true) = .ok (.more (.hex isKey 2 true) stack) := by
      simp [skipStep, hb]
    have htwo : skipStep stack c (.hex isKey 2 true) = .ok (.more (.hex isKey 1 true) stack) := by
      simp [skipStep, hc]
    have hone : skipStep stack d (.hex isKey 1 true) = .ok (.more (.string isKey) stack) := by
      simp [skipStep, hd]
    simp only [List.cons_append]
    rw [skipFrom_of_more hback, skipFrom_of_more hletter, skipFrom_of_more hfour,
      skipFrom_of_more hthree, skipFrom_of_more htwo, skipFrom_of_more hone, ih]

/-! ### Numbers -/

/-- The states in which a number may end. -/
def endsNumber : SkipState → Bool
  | .leadingZero | .whole | .fraction | .exponent => true
  | _ => false

theorem skipStep_of_endsNumber {state : SkipState} (hs : endsNumber state) {b : UInt8} {bs : Bytes}
    (h : Ends (b :: bs)) (stack : List Frame) : skipStep stack b state = afterNumber stack b := by
  obtain ⟨hdigit, hdot, hmark, -, -⟩ := JsonNumber.ends_cons h
  cases state <;> simp [endsNumber] at hs <;> simp [skipStep, hdigit, hdot, hmark]

/-- What cannot belong to a number ends it. -/
theorem skipFrom_of_endsNumber {state : SkipState} (hs : endsNumber state) {rest : Bytes}
    (h : Ends rest) (stack : List Frame) : skipFrom state stack rest = resume stack rest := by
  cases rest with
  | nil =>
    have hend : skipEnd stack state =
        if stack.isEmpty then .ok () else .error (.ended (openPart stack)) := by
      cases state <;> simp [endsNumber] at hs <;> rfl
    rw [skipFrom, hend, resume]
    split_ifs <;> rfl
  | cons b bs =>
    rw [skipFrom, skipStep_of_endsNumber hs h, resume]
    cases stack with
    | nil => rfl
    | cons frame stack =>
      have hafter : afterNumber (frame :: stack) b = skipStep (frame :: stack) b .after := by
        simp [afterNumber, skipStep]
      rw [hafter]
      rfl

theorem skipFrom_digits {state : SkipState} {stack : List Frame}
    (h : ∀ b, Byte.isDigit b → skipStep stack b state = .ok (.more state stack)) {ds : Bytes}
    (hds : ∀ b ∈ ds, Byte.isDigit b) (rest : Bytes) :
    skipFrom state stack (ds ++ rest) = skipFrom state stack rest := by
  induction ds with
  | nil => rfl
  | cons b ds ih =>
    have hb : Byte.isDigit b := hds b List.mem_cons_self
    rw [List.cons_append, skipFrom_of_more (h b hb)]
    exact ih fun b' hb' => hds b' (List.mem_cons_of_mem b hb')

/-- The first digit leads into the state that takes the other ones. -/
theorem skipFrom_row {before state : SkipState} {stack : List Frame}
    (hfirst : ∀ b, Byte.isDigit b → skipStep stack b before = .ok (.more state stack))
    (hnext : ∀ b, Byte.isDigit b → skipStep stack b state = .ok (.more state stack)) {ds : Bytes}
    (hds : Digits ds) (rest : Bytes) :
    skipFrom before stack (ds ++ rest) = skipFrom state stack rest := by
  cases ds with
  | nil => exact absurd rfl hds.ne_nil
  | cons b ds =>
    rw [List.cons_append, skipFrom_of_more (hfirst b (hds.isDigit b List.mem_cons_self))]
    exact skipFrom_digits hnext (fun b' hb' => hds.isDigit b' (List.mem_cons_of_mem b hb')) rest

theorem ne_of_isDigit {b c : UInt8} (h : Byte.isDigit b) (hc : Byte.isDigit c = false) : b ≠ c := by
  rintro rfl
  rw [h] at hc
  cases hc

theorem isDigit_ne {b : UInt8} (h : Byte.isDigit b) :
    b ≠ Byte.plus ∧ b ≠ Byte.minus ∧ Byte.isBlank b = false ∧ b ≠ Byte.ofChar 'n' ∧
      b ≠ Byte.ofChar 't' ∧ b ≠ Byte.ofChar 'f' := by
  have hne {c : UInt8} (hc : Byte.isDigit c = false) : b ≠ c := ne_of_isDigit h hc
  refine ⟨hne (by decide), hne (by decide), ?_, hne (by decide), hne (by decide), hne (by decide)⟩
  simp only [Byte.isBlank, Bool.or_eq_false_iff, decide_eq_false_iff_not]
  exact ⟨⟨⟨hne (by decide), hne (by decide)⟩, hne (by decide)⟩, hne (by decide)⟩

theorem isExponentMark_ne {b : UInt8} (h : Byte.isExponentMark b) :
    Byte.isDigit b = false ∧ b ≠ Byte.dot := by
  simp only [Byte.isExponentMark, Bool.or_eq_true, decide_eq_true_eq] at h
  rcases h with rfl | rfl <;> decide

theorem skipFrom_exponent {state : SkipState}
    (hs : state = .leadingZero ∨ state = .whole ∨ state = .fraction) {t rest : Bytes}
    (ht : ExponentText t) (hend : Ends rest) (stack : List Frame) :
    skipFrom state stack (t ++ rest) = resume stack rest := by
  have hstate : endsNumber state := by
    rcases hs with rfl | rfl | rfl <;> rfl
  rcases ht with rfl | ⟨mark, sign, ds, hmark, hsign, hds, rfl⟩
  · exact skipFrom_of_endsNumber hstate hend stack
  obtain ⟨hdigit, hdot⟩ := isExponentMark_ne hmark
  have hbegin : skipStep stack mark state = .ok (.more .exponentMark stack) := by
    rcases hs with rfl | rfl | rfl <;> simp [skipStep, hmark, hdigit, hdot]
  have hnext (b : UInt8) (hb : Byte.isDigit b) :
      skipStep stack b .exponent = .ok (.more .exponent stack) := by simp [skipStep, hb]
  have hrow (before : SkipState) (hbefore : before = .exponentMark ∨ before = .exponentSign) :
      skipFrom before stack (ds ++ rest) = resume stack rest := by
    have hfirst (b : UInt8) (hb : Byte.isDigit b) :
        skipStep stack b before = .ok (.more .exponent stack) := by
      obtain ⟨hplus, hminus, -⟩ := isDigit_ne hb
      rcases hbefore with rfl | rfl <;> simp [skipStep, hb, hplus, hminus]
    rw [skipFrom_row hfirst hnext hds]
    exact skipFrom_of_endsNumber rfl hend stack
  have hplus : skipStep stack Byte.plus .exponentMark = .ok (.more .exponentSign stack) := by
    simp [skipStep]
  have hminus : skipStep stack Byte.minus .exponentMark = .ok (.more .exponentSign stack) := by
    simp [skipStep]
  rw [List.cons_append, skipFrom_of_more hbegin, List.append_assoc]
  rcases hsign with rfl | rfl | rfl
  · exact hrow .exponentMark (.inl rfl)
  · rw [List.singleton_append, skipFrom_of_more hplus]
    exact hrow .exponentSign (.inr rfl)
  · rw [List.singleton_append, skipFrom_of_more hminus]
    exact hrow .exponentSign (.inr rfl)

theorem skipFrom_fraction {state : SkipState} (hs : state = .leadingZero ∨ state = .whole)
    {t u rest : Bytes} (ht : FractionText t) (hu : ExponentText u) (hend : Ends rest)
    (stack : List Frame) : skipFrom state stack (t ++ (u ++ rest)) = resume stack rest := by
  rcases ht with rfl | ⟨ds, hds, rfl⟩
  · have hstate : state = .leadingZero ∨ state = .whole ∨ state = .fraction := by
      rcases hs with rfl | rfl <;> simp
    exact skipFrom_exponent hstate hu hend stack
  have hbegin : skipStep stack Byte.dot state = .ok (.more .point stack) := by
    rcases hs with rfl | rfl <;> simp [skipStep, Byte.isDigit, Byte.dot, Byte.zero]
  have hfirst (b : UInt8) (hb : Byte.isDigit b) :
      skipStep stack b .point = .ok (.more .fraction stack) := by simp [skipStep, hb]
  have hnext (b : UInt8) (hb : Byte.isDigit b) :
      skipStep stack b .fraction = .ok (.more .fraction stack) := by simp [skipStep, hb]
  rw [List.cons_append, skipFrom_of_more hbegin, skipFrom_row hfirst hnext hds]
  exact skipFrom_exponent (.inr (.inr rfl)) hu hend stack

/-- A number behind its sign, or from its beginning if it has none. -/
theorem skipFrom_whole {state : SkipState} (hs : state = .value ∨ state = .sign) {s t u rest : Bytes}
    (hw : WholeText s) (ht : FractionText t) (hu : ExponentText u) (hend : Ends rest)
    (stack : List Frame) : skipFrom state stack (s ++ (t ++ (u ++ rest))) = resume stack rest := by
  rcases hw with rfl | ⟨hds, hzero⟩
  · have hbegin : skipStep stack Byte.zero state = .ok (.more .leadingZero stack) := by
      rcases hs with rfl | rfl
      · rfl
      · rfl
    rw [List.singleton_append, skipFrom_of_more hbegin]
    exact skipFrom_fraction (.inl rfl) ht hu hend stack
  cases s with
  | nil => exact absurd rfl hds.ne_nil
  | cons b ds =>
    have hb : Byte.isDigit b := hds.isDigit b List.mem_cons_self
    have hb0 : b ≠ Byte.zero := fun h => hzero (by rw [h]; rfl)
    obtain ⟨-, hminus, hblank, hn, ht', hf⟩ := isDigit_ne hb
    have hbegin : skipStep stack b state = .ok (.more .whole stack) := by
      rcases hs with rfl | rfl
      · simp [skipStep, beginValue, hb, hb0, hminus, hblank, hn, ht', hf]
      · simp [skipStep, hb, hb0]
    have hnext (b : UInt8) (hb : Byte.isDigit b) :
        skipStep stack b .whole = .ok (.more .whole stack) := by simp [skipStep, hb]
    rw [List.cons_append, skipFrom_of_more hbegin,
      skipFrom_digits hnext fun b' hb' => hds.isDigit b' (List.mem_cons_of_mem b hb')]
    exact skipFrom_fraction (.inr rfl) ht hu hend stack

/-! ### Values -/

/-- A byte with which a value may begin. -/
def beginsValue (b : UInt8) : Bool :=
  !(Byte.isBlank b) && b ≠ Byte.closeBracket && b ≠ Byte.closeBrace

theorem IsText.exists_cons {t : Bytes} (h : IsText .value t) :
    ∃ b bs, t = b :: bs ∧ beginsValue b := by
  cases h with
  | nullWord => exact ⟨_, _, rfl, by decide⟩
  | trueWord => exact ⟨_, _, rfl, by decide⟩
  | falseWord => exact ⟨_, _, rfl, by decide⟩
  | string ht => exact ⟨_, _, rfl, by decide⟩
  | noItems hw => exact ⟨_, _, rfl, by decide⟩
  | list ht => exact ⟨_, _, rfl, by decide⟩
  | noMembers hw => exact ⟨_, _, rfl, by decide⟩
  | object ht => exact ⟨_, _, rfl, by decide⟩
  | @number sign whole fraction exponent hsign hwhole hf he =>
    rcases hsign with rfl | rfl
    · rcases hwhole with rfl | ⟨hds, -⟩
      · exact ⟨_, _, rfl, by decide⟩
      · cases whole with
        | nil => exact absurd rfl hds.ne_nil
        | cons b bs =>
          have hb : Byte.isDigit b := hds.isDigit b List.mem_cons_self
          refine ⟨b, _, rfl, ?_⟩
          simp [beginsValue, (isDigit_ne hb).2.2.1, ne_of_isDigit hb (c := Byte.closeBracket) (by decide),
            ne_of_isDigit hb (c := Byte.closeBrace) (by decide)]
    · exact ⟨_, _, rfl, by decide⟩

theorem IsText.items_exists {t : Bytes} (h : IsText .items t) :
    ∃ w b bs, Blank w ∧ t = w ++ b :: bs ∧ beginsValue b := by
  cases h with
  | @lastItem w w' t hw ht hw' =>
    obtain ⟨b, bs, rfl, hb⟩ := ht.exists_cons
    exact ⟨w, b, bs ++ w', hw, by simp, hb⟩
  | @item w w' t more hw ht hw' hmore =>
    obtain ⟨b, bs, rfl, hb⟩ := ht.exists_cons
    exact ⟨w, b, bs ++ w' ++ Byte.comma :: more, hw, by simp, hb⟩

theorem IsText.members_exists {t : Bytes} (h : IsText .members t) :
    ∃ w bs, Blank w ∧ t = w ++ Byte.quote :: bs := by
  cases h with
  | @lastMember w₁ w₂ w₃ w₄ k t hw₁ hk hw₂ hw₃ ht hw₄ =>
    exact ⟨w₁, k ++ w₂ ++ Byte.colon :: w₃ ++ t ++ w₄, hw₁, by simp⟩
  | @member w₁ w₂ w₃ w₄ k t more hw₁ hk hw₂ hw₃ ht hw₄ hmore =>
    exact ⟨w₁, k ++ w₂ ++ Byte.colon :: w₃ ++ t ++ w₄ ++ Byte.comma :: more, hw₁, by simp⟩

/-- Two states that pass over blanks and then do the same are interchangeable. -/
theorem skipFrom_congr {state state' : SkipState} (hs : passesBlanks state) (hs' : passesBlanks state')
    {stack : List Frame} {w : Bytes} (hw : Blank w) {b : UInt8}
    (h : skipStep stack b state = skipStep stack b state') (bs : Bytes) :
    skipFrom state stack (w ++ b :: bs) = skipFrom state' stack (w ++ b :: bs) := by
  rw [skipFrom_blank hs stack hw, skipFrom_blank hs' stack hw, skipFrom, skipFrom, h]

theorem skipFrom_opened_items (stack : List Frame) {w : Bytes} (hw : Blank w) {b : UInt8}
    (hb : beginsValue b) (bs : Bytes) :
    skipFrom .opened (.list :: stack) (w ++ b :: bs) = skipFrom .value (.list :: stack) (w ++ b :: bs) := by
  apply skipFrom_congr rfl rfl hw
  simp only [beginsValue, Bool.and_eq_true, Bool.not_eq_true', decide_eq_true_eq] at hb
  simp [skipStep, hb.1.1, hb.1.2]

theorem skipFrom_opened_members (stack : List Frame) {w : Bytes} (hw : Blank w) (bs : Bytes) :
    skipFrom .opened (.object :: stack) (w ++ Byte.quote :: bs) =
      skipFrom .key (.object :: stack) (w ++ Byte.quote :: bs) := by
  apply skipFrom_congr rfl rfl hw
  rfl

theorem ends_append {w : Bytes} (hw : Blank w) {b : UInt8} (hb : endsValue b) (rest : Bytes) :
    Ends (w ++ b :: rest) := by
  intro c hc
  cases w with
  | nil =>
    obtain rfl : b = c := by simpa using hc
    exact hb
  | cons d w =>
    obtain rfl : d = c := by simpa using hc
    simp [endsValue, hw d List.mem_cons_self]

/-- What the machine does with the texts of a piece, whatever lists and objects are open. -/
def SkipsAs : Piece → Bytes → Prop
  | .value, t => ∀ stack rest, Ends rest → skipFrom .value stack (t ++ rest) = resume stack rest
  | .items, t => ∀ stack rest, skipFrom .opened (.list :: stack) (t ++ Byte.closeBracket :: rest) =
      resume stack rest
  | .members, t => ∀ stack rest, skipFrom .opened (.object :: stack) (t ++ Byte.closeBrace :: rest) =
      resume stack rest

theorem skipsAs_word {s : String} {c : UInt8} (hs : bytes s = c :: wordRest s) (hne : wordRest s ≠ [])
    (hbegin : ∀ stack, skipStep stack c .value = .ok (.more (.word (wordRest s)) stack)) :
    SkipsAs .value (bytes s) := by
  intro stack rest _
  rw [hs, List.cons_append, skipFrom_of_more (hbegin stack)]
  exact skipFrom_word stack hne rest

/-- An item of a list, up to what follows it. -/
theorem skipFrom_item {t : Bytes} (ht : IsText .value t) (ih : SkipsAs .value t) (stack : List Frame)
    {w w' : Bytes} (hw : Blank w) (hw' : Blank w') {b : UInt8} (hb : endsValue b) (rest : Bytes) :
    skipFrom .opened (.list :: stack) (w ++ t ++ w' ++ b :: rest) =
      skipFrom .after (.list :: stack) (b :: rest) := by
  have hend := ends_append hw' hb rest
  have hvalue := ih (.list :: stack) _ hend
  obtain ⟨c, cs, rfl, hc⟩ := ht.exists_cons
  simp only [List.append_assoc, List.cons_append] at hvalue ⊢
  rw [skipFrom_opened_items stack hw hc, skipFrom_blank rfl _ hw, hvalue]
  exact skipFrom_blank rfl _ hw' _

/-- A member of an object, up to what follows it. -/
theorem skipFrom_member {k t : Bytes} (hk : StringText k) (ih : SkipsAs .value t) (stack : List Frame)
    {w₁ w₂ w₃ w₄ : Bytes} (hw₁ : Blank w₁) (hw₂ : Blank w₂) (hw₃ : Blank w₃) (hw₄ : Blank w₄)
    {b : UInt8} (hb : endsValue b) (rest : Bytes) :
    skipFrom .opened (.object :: stack)
        (w₁ ++ Byte.quote :: k ++ w₂ ++ Byte.colon :: w₃ ++ t ++ w₄ ++ b :: rest) =
      skipFrom .after (.object :: stack) (b :: rest) := by
  have hvalue := ih (.object :: stack) _ (ends_append hw₄ hb rest)
  have hquote : skipStep (.object :: stack) Byte.quote .key =
      .ok (.more (.string true) (.object :: stack)) := rfl
  have hcolon : skipStep (.object :: stack) Byte.colon .colon =
      .ok (.more .value (.object :: stack)) := rfl
  simp only [List.append_assoc, List.cons_append]
  rw [skipFrom_opened_members stack hw₁, skipFrom_blank rfl _ hw₁, skipFrom_of_more hquote,
    skipFrom_string _ true hk, resumeString, if_pos rfl, skipFrom_blank rfl _ hw₂,
    skipFrom_of_more hcolon, skipFrom_blank rfl _ hw₃, hvalue]
  exact skipFrom_blank rfl _ hw₄ _

theorem IsText.skipsAs {p : Piece} {t : Bytes} (h : IsText p t) : SkipsAs p t := by
  induction h with
  | nullWord => exact skipsAs_word (c := Byte.ofChar 'n') (by decide) (by decide) fun stack => rfl
  | trueWord => exact skipsAs_word (c := Byte.ofChar 't') (by decide) (by decide) fun stack => rfl
  | falseWord => exact skipsAs_word (c := Byte.ofChar 'f') (by decide) (by decide) fun stack => rfl
  | number hsign hw hf he =>
    intro stack rest hend
    simp only [List.append_assoc]
    rcases hsign with rfl | rfl
    · exact skipFrom_whole (.inl rfl) hw hf he hend stack
    · have hminus : skipStep stack Byte.minus .value = .ok (.more .sign stack) := rfl
      rw [List.singleton_append, skipFrom_of_more hminus]
      exact skipFrom_whole (.inr rfl) hw hf he hend stack
  | string ht =>
    intro stack rest _
    have hquote : skipStep stack Byte.quote .value = .ok (.more (.string false) stack) := rfl
    rw [List.cons_append, skipFrom_of_more hquote]
    exact skipFrom_string stack false ht rest
  | noItems hw =>
    intro stack rest _
    have hopen : skipStep stack Byte.openBracket .value = .ok (.more .opened (.list :: stack)) := rfl
    simp only [List.cons_append, List.append_assoc, List.nil_append]
    rw [skipFrom_of_more hopen, skipFrom_blank rfl _ hw]
    exact skipFrom_of_completed rfl rest
  | list ht ih =>
    intro stack rest _
    have hopen : skipStep stack Byte.openBracket .value = .ok (.more .opened (.list :: stack)) := rfl
    simp only [List.cons_append, List.append_assoc, List.nil_append]
    rw [skipFrom_of_more hopen]
    exact ih stack rest
  | noMembers hw =>
    intro stack rest _
    have hopen : skipStep stack Byte.openBrace .value = .ok (.more .opened (.object :: stack)) := rfl
    simp only [List.cons_append, List.append_assoc, List.nil_append]
    rw [skipFrom_of_more hopen, skipFrom_blank rfl _ hw]
    exact skipFrom_of_completed rfl rest
  | object ht ih =>
    intro stack rest _
    have hopen : skipStep stack Byte.openBrace .value = .ok (.more .opened (.object :: stack)) := rfl
    simp only [List.cons_append, List.append_assoc, List.nil_append]
    rw [skipFrom_of_more hopen]
    exact ih stack rest
  | lastItem hw ht hw' ih =>
    intro stack rest
    rw [skipFrom_item ht ih stack hw hw' (by decide)]
    exact skipFrom_of_completed rfl rest
  | @item w w' t more hw ht hw' hmore ih ihmore =>
    intro stack rest
    have hcomma : skipStep (.list :: stack) Byte.comma .after = .ok (.more .value (.list :: stack)) := rfl
    have hlater := ihmore stack rest
    obtain ⟨v, b, bs, hv, rfl, hb⟩ := hmore.items_exists
    rw [List.append_assoc, List.cons_append, skipFrom_item ht ih stack hw hw' (by decide),
      skipFrom_of_more hcomma]
    rw [List.append_assoc, List.cons_append] at hlater ⊢
    rw [← skipFrom_opened_items stack hv hb]
    exact hlater
  | lastMember hw₁ hk hw₂ hw₃ ht hw₄ ih =>
    intro stack rest
    rw [skipFrom_member hk ih stack hw₁ hw₂ hw₃ hw₄ (by decide)]
    exact skipFrom_of_completed rfl rest
  | @member w₁ w₂ w₃ w₄ k t more hw₁ hk hw₂ hw₃ ht hw₄ hmore ih ihmore =>
    intro stack rest
    have hcomma : skipStep (.object :: stack) Byte.comma .after = .ok (.more .key (.object :: stack)) := rfl
    have hlater := ihmore stack rest
    obtain ⟨v, bs, hv, rfl⟩ := hmore.members_exists
    rw [List.append_assoc, List.cons_append, skipFrom_member hk ih stack hw₁ hw₂ hw₃ hw₄ (by decide),
      skipFrom_of_more hcomma]
    rw [List.append_assoc, List.cons_append] at hlater ⊢
    rw [← skipFrom_opened_members stack hv]
    exact hlater

/-- Every JSON text is skipped as a whole. -/
theorem skipValue_text {w t rest : Bytes} (hw : Blank w) (ht : IsText .value t) (hend : Ends rest) :
    skipValue (w ++ t ++ rest) = .ok rest := by
  have h := ht.skipsAs [] rest hend
  rw [skipValue, List.append_assoc, skipFrom_blank rfl [] hw]
  exact h

end Broadphase.Json
