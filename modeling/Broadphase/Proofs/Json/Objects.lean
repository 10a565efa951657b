import Broadphase.Proofs.Json.Records

/-! # Objects that give some of the fields of a record

`s.ObjectOf given holds t` describes a text that a person may have written: an object that gives the
fields named by `given`, in any order, with any blanks, and with members of other names among them.
What is read from it is put together from the fields that are given and the standard values of the
others (`Schema.Lawful.finds_merged`), unless one of the values is refused (`Schema.Lawful.finds_refused`).

A document that was written by a schema is the case in which every field is given
(`Schema.objectOf_write`). -/

namespace Broadphase

open Json (Blank Ends bytes)

namespace Schema

variable {ρ : Type} {s : Schema ρ}

/-! ### Names -/

theorem knows_of_mem {f : Field ρ} (hf : f ∈ s.fields) : s.knows f.name := by
  rw [knows, List.find?_isSome]
  exact ⟨f, hf, beq_self_eq_true f.name⟩

/-- Where names are distinct, a field is found under its name. -/
theorem find?_name {fs : List (Field ρ)} (hnames : (fs.map (·.name)).Nodup) {f : Field ρ}
    (hf : f ∈ fs) : fs.find? (·.name == f.name) = some f := by
  induction fs with
  | nil => exact absurd hf List.not_mem_nil
  | cons g fs ih =>
    rw [List.map_cons, List.nodup_cons] at hnames
    rcases List.mem_cons.mp hf with rfl | hf
    · rw [List.find?_cons_of_pos (by simp)]
    · have hne : g.name ≠ f.name := by
        intro heq
        apply hnames.1
        rw [heq]
        exact List.mem_map_of_mem hf
      rw [List.find?_cons_of_neg (by simpa using hne)]
      exact ih hnames.2 hf

/-- Only the names of fields matter at the end of an object. -/
theorem finish_congr {p q : String → Bool} (h : ∀ n, s.knows n → p n = q n) (v : ρ) :
    s.finish p v = s.finish q v := by
  have hlacking : s.lacking? p = s.lacking? q := by
    unfold lacking?
    congr 1
    apply List.find?_congr
    intro n hn
    obtain ⟨f, hf, rfl⟩ := List.mem_map.mp hn
    rw [h f.name (knows_of_mem hf)]
  rw [finish, finish, hlacking]

theorem mem_foldl_seenAfter (ms : List Member) (seen : List String) (n : String) :
    n ∈ ms.foldl s.seenAfter seen ↔ n ∈ seen ∨ s.knows n ∧ n ∈ ms.map (·.key) := by
  induction ms generalizing seen with
  | nil => simp
  | cons m ms ih =>
    rw [List.foldl_cons, ih, seenAfter, List.map_cons, List.mem_cons]
    split_ifs with hm
    · rw [List.mem_cons]
      constructor
      · rintro ((rfl | hseen) | ⟨hknown, hmem⟩)
        · exact .inr ⟨hm, .inl rfl⟩
        · exact .inl hseen
        · exact .inr ⟨hknown, .inr hmem⟩
      · rintro (hseen | ⟨hknown, rfl | hmem⟩)
        · exact .inl (.inr hseen)
        · exact .inl (.inl rfl)
        · exact .inr ⟨hknown, hmem⟩
    · constructor
      · rintro (hseen | ⟨hknown, hmem⟩)
        · exact .inl hseen
        · exact .inr ⟨hknown, .inr hmem⟩
      · rintro (hseen | ⟨hknown, rfl | hmem⟩)
        · exact .inl hseen
        · exact absurd hknown hm
        · exact .inr ⟨hknown, hmem⟩

/-! ### Objects with chosen fields -/

/-- Members that give the fields named by `given`, each by a text that `holds` allows.  Members with
other names may have any values. -/
structure Gives (s : Schema ρ) (given : String → Bool) (holds : Field ρ → Bytes → Prop)
    (ms : List Member) : Prop where
  distinct : s.Distinct ms
  given_iff : ∀ n, s.knows n → (given n ↔ n ∈ ms.map (·.key))
  known : ∀ m ∈ ms, ∀ f, s.fields.find? (·.name == m.key) = some f → holds f m.text
  unknown : ∀ m ∈ ms, s.knows m.key = false → Json.IsText .value m.text

/-- An object that gives the fields named by `given`, in any order. -/
def ObjectOf (s : Schema ρ) (given : String → Bool) (holds : Field ρ → Bytes → Prop) (t : Bytes) :
    Prop := ∃ ms, s.Gives given holds ms ∧ ObjectText ms t

variable {given : String → Bool} {holds : Field ρ → Bytes → Prop} {ms : List Member}

theorem Gives.contains_seen (h : s.Gives given holds ms) {n : String} (hn : s.knows n) :
    (ms.foldl s.seenAfter []).contains n = given n := by
  rw [Bool.eq_iff_iff, List.contains_iff_mem, mem_foldl_seenAfter, h.given_iff n hn]
  constructor
  · rintro (hmem | ⟨-, hmem⟩)
    · exact absurd hmem List.not_mem_nil
    · exact hmem
  · exact fun hmem => .inr ⟨hn, hmem⟩

/-- A member is of a field that is given, or of no field. -/
theorem Gives.member (h : s.Gives given holds ms) {m : Member} (hm : m ∈ ms) :
    (∃ f ∈ s.fields, s.fields.find? (·.name == m.key) = some f ∧ f.name = m.key ∧ given f.name ∧
      holds f m.text) ∨
    s.knows m.key = false ∧ Json.IsText .value m.text := by
  cases hf : s.fields.find? (·.name == m.key) with
  | none =>
    have hunknown : s.knows m.key = false := by rw [knows, hf, Option.isSome_none]
    exact .inr ⟨hunknown, h.unknown m hm hunknown⟩
  | some f =>
    have hname : f.name = m.key := by simpa using List.find?_some hf
    have hmem := List.mem_of_find?_eq_some hf
    have hgiven : given f.name := by
      rw [h.given_iff f.name (knows_of_mem hmem), hname]
      exact List.mem_map_of_mem hm
    exact .inl ⟨f, hmem, rfl, hname, hgiven, h.known m hm f hf⟩

end Schema

/-! ### Records put together from two -/

namespace Field

variable {ρ : Type}

/-- The record `v` with this field as it is in `c`. -/
def copy (f : Field ρ) (c v : ρ) : ρ := f.set v (f.get c)

/-- The record `v` with the named ones of the fields as they are in `c`. -/
def copyAll (fs : List (Field ρ)) (p : String → Bool) (c v : ρ) : ρ :=
  fs.foldl (fun v f => if p f.name then f.copy c v else v) v

/-- The field is read from its text as it is in `c`. -/
def Takes (f : Field ρ) (c : ρ) (t : Bytes) : Prop := ∀ v, (f.read v).Finds t (.ok (f.copy c v))

/-- The field is refused for its text. -/
def Refuses (f : Field ρ) (t : Bytes) (e : JsonError) : Prop := ∀ v, (f.read v).Finds t (.error e)

variable {fs : List (Field ρ)} {p : String → Bool} {c : ρ}

theorem copyAll_cons (f : Field ρ) (fs : List (Field ρ)) (p : String → Bool) (c v : ρ) :
    copyAll (f :: fs) p c v = copyAll fs p c (if p f.name then f.copy c v else v) := rfl

/-- The fields that are copied come from `c` and any other one stays as it was. -/
theorem get_copyAll {g : Field ρ}
    (h : ∀ f ∈ fs, ∀ v, g.get (f.copy c v) = if g.name = f.name then g.get c else g.get v) (v : ρ) :
    g.get (copyAll fs p c v) = if p g.name ∧ g.name ∈ fs.map (·.name) then g.get c else g.get v := by
  induction fs generalizing v with
  | nil => simp [copyAll]
  | cons f fs ih =>
    have hhead : g.get (if p f.name then f.copy c v else v) =
        if p g.name ∧ g.name = f.name then g.get c else g.get v := by
      by_cases hp : p f.name
      · rw [if_pos hp, h f List.mem_cons_self]
        by_cases hname : g.name = f.name
        · rw [if_pos hname, if_pos ⟨hname ▸ hp, hname⟩]
        · rw [if_neg hname, if_neg fun hboth => hname hboth.2]
      · have hnot : ¬ (p g.name ∧ g.name = f.name) := fun hboth => hp (hboth.2 ▸ hboth.1)
        rw [if_neg hp, if_neg hnot]
    rw [copyAll_cons, ih fun f' hf' => h f' (List.mem_cons_of_mem f hf'), hhead]
    simp only [List.map_cons, List.mem_cons]
    split_ifs <;> tauto

end Field

namespace Schema

variable {ρ : Type} {s : Schema ρ}

/-- The record that has the named fields as they are in `c` and the others as in `v`. -/
def merge (s : Schema ρ) (p : String → Bool) (c v : ρ) : ρ := Field.copyAll s.fields p c v

/-- The fields of a record: each has its own name, copying one leaves the others alone, and records
with the same fields are the same. -/
structure Lawful (s : Schema ρ) : Prop where
  names : (s.fields.map (·.name)).Nodup
  get_copy : ∀ f ∈ s.fields, ∀ g ∈ s.fields, ∀ c v,
    g.get (f.copy c v) = if g.name = f.name then g.get c else g.get v
  ext : ∀ v w, (∀ f ∈ s.fields, f.get v = f.get w) → v = w

/-- Only the names of fields matter. -/
theorem merge_congr {p q : String → Bool} (h : ∀ n, s.knows n → p n = q n) (c v : ρ) :
    s.merge p c v = s.merge q c v := by
  apply List.foldl_ext
  intro w f hf
  rw [h f.name (knows_of_mem hf)]

theorem Lawful.get_merge (h : s.Lawful) {f : Field ρ} (hf : f ∈ s.fields) (p : String → Bool) (c v : ρ) :
    f.get (s.merge p c v) = if p f.name then f.get c else f.get v := by
  have hname : f.name ∈ s.fields.map (·.name) := List.mem_map_of_mem hf
  rw [merge, Field.get_copyAll fun g hg => h.get_copy g hg f hf c]
  simp only [hname, and_true]

theorem Lawful.merge_everything (h : s.Lawful) (c v : ρ) : s.merge (fun _ => true) c v = c := by
  refine h.ext _ _ fun f hf => ?_
  rw [h.get_merge hf, if_pos rfl]

theorem Lawful.merge_nothing (h : s.Lawful) (c v : ρ) : s.merge (fun _ => false) c v = v := by
  refine h.ext _ _ fun f hf => ?_
  rw [h.get_merge hf, if_neg Bool.false_ne_true]

theorem Lawful.merge_merge (h : s.Lawful) (p q : String → Bool) (c v : ρ) :
    s.merge p c (s.merge q c v) = s.merge (fun n => p n || q n) c v := by
  refine h.ext _ _ fun f hf => ?_
  rw [h.get_merge hf, h.get_merge hf, h.get_merge hf]
  cases p f.name <;> rfl

theorem Lawful.merge_name (h : s.Lawful) {f : Field ρ} (hf : f ∈ s.fields) (c v : ρ) :
    s.merge (· == f.name) c v = f.copy c v := by
  refine h.ext _ _ fun g hg => ?_
  rw [h.get_merge hg, h.get_copy f hf g hg]
  simp only [beq_iff_eq]

/-! ### Members of an object -/

variable {given : String → Bool} {holds : Field ρ → Bytes → Prop} {ms : List Member} {t : Bytes}

/-- What a member does to a record if its field is taken from `c`. -/
def effect (s : Schema ρ) (c : ρ) (m : Member) (v : ρ) : ρ :=
  if s.knows m.key then s.merge (· == m.key) c v else v

theorem Lawful.effect_merge (h : s.Lawful) (c : ρ) (m : Member) (seen : List String) (v : ρ) :
    s.effect c m (s.merge seen.contains c v) = s.merge (s.seenAfter seen m).contains c v := by
  unfold effect seenAfter
  split_ifs with hm
  · have hseen : (fun n => n == m.key || seen.contains n) = (m.key :: seen).contains := by
      funext n
      rw [List.contains_cons]
    rw [h.merge_merge, hseen]
  · rfl

/-- A run through members that are all taken leaves the fields that have been seen as in `c`. -/
theorem Lawful.foldMembers_merge (h : s.Lawful) (c : ρ) (ms : List Member) (seen : List String)
    (v : ρ) :
    foldMembers (fun m v => .ok (s.effect c m v)) ms (s.merge seen.contains c v) =
      .ok (s.merge (ms.foldl s.seenAfter seen).contains c v) := by
  induction ms generalizing seen with
  | nil => rfl
  | cons m ms ih =>
    have hstep := ih (s.seenAfter seen m)
    unfold foldMembers at hstep ⊢
    rw [List.foldlM_cons, Json.ok_bind, h.effect_merge, List.foldl_cons]
    exact hstep

theorem Lawful.means_effect (h : s.Lawful) {c : ρ} {m : Member} {f : Field ρ}
    (hf : s.fields.find? (·.name == m.key) = some f) (htakes : f.Takes c m.text) :
    s.Means m fun v => .ok (s.effect c m v) := by
  have hname : f.name = m.key := by simpa using List.find?_some hf
  have hknown : s.knows m.key := by rw [knows, hf, Option.isSome_some]
  apply Means.known hf
  intro v
  simp only [effect, if_pos hknown]
  rw [← hname, h.merge_name (List.mem_of_find?_eq_some hf)]
  exact htakes v

theorem means_effect_unknown (c : ρ) {m : Member} (hm : s.knows m.key = false)
    (htext : Json.IsText .value m.text) : s.Means m fun v => .ok (s.effect c m v) := by
  have heffect : (fun v => Except.ok (s.effect c m v)) = Except.ok (ε := JsonError) := by
    funext v
    simp [effect, hm]
  rw [heffect]
  exact .unknown hm htext

/-- The fields that are given come from `c` and the others keep their standard values. -/
theorem Lawful.finds_merged (hs : s.Lawful) {c : ρ} (h : s.ObjectOf given holds t)
    (htakes : ∀ f ∈ s.fields, given f.name → ∀ u, holds f u → f.Takes c u) :
    s.read.Finds t (s.finish given (s.merge given c s.blank)) := by
  obtain ⟨ms, hms, htext⟩ := h
  have hmeans (m : Member) (hm : m ∈ ms) : s.Means m fun v => .ok (s.effect c m v) := by
    rcases hms.member hm with ⟨f, hf, hfind, -, hgiven, hholds⟩ | ⟨hunknown, hvalue⟩
    · exact hs.means_effect hfind (htakes f hf hgiven m.text hholds)
    · exact means_effect_unknown c hunknown hvalue
  have hread := finds_object htext hmeans hms.distinct
  have hfold := hs.foldMembers_merge c ms [] s.blank
  have hstart : s.merge ([] : List String).contains c s.blank = s.blank := hs.merge_nothing c s.blank
  rw [hstart] at hfold
  have hseen (n : String) (hn : s.knows n) : (ms.foldl s.seenAfter []).contains n = given n :=
    hms.contains_seen hn
  rw [hfold, Json.ok_bind, merge_congr hseen, finish_congr hseen] at hread
  exact hread

/-- One member that fails decides, if no other failure can come before it. -/
theorem foldMembers_error {effect : Member → ρ → Except JsonError ρ} {e : JsonError}
    (h : ∀ m ∈ ms, (∀ v, ∃ v', effect m v = .ok v') ∨ ∀ v, effect m v = .error e) {m : Member}
    (hm : m ∈ ms) (he : ∀ v, effect m v = .error e) (v : ρ) :
    foldMembers effect ms v = .error e := by
  induction ms generalizing v with
  | nil => exact absurd hm List.not_mem_nil
  | cons m' ms ih =>
    unfold foldMembers at ih ⊢
    rw [List.foldlM_cons]
    rcases List.mem_cons.mp hm with rfl | hm
    · rw [he v]
      rfl
    · rcases h m' List.mem_cons_self with hok | herror
      · obtain ⟨v', hv'⟩ := hok v
        rw [hv', Json.ok_bind]
        exact ih (fun m hm => h m (List.mem_cons_of_mem m' hm)) hm v'
      · rw [herror v]
        rfl

/-- An object is refused if one of the fields it gives is, and no other for another cause. -/
theorem Lawful.finds_refused (hs : s.Lawful) {c : ρ} {e : JsonError} (h : s.ObjectOf given holds t)
    (hall : ∀ f ∈ s.fields, given f.name → ∀ u, holds f u → f.Takes c u ∨ f.Refuses u e)
    {f : Field ρ} (hf : s.fields.find? (·.name == f.name) = some f) (hgiven : given f.name)
    (hrefused : ∀ u, holds f u → f.Refuses u e) : s.read.Finds t (.error e) := by
  obtain ⟨ms, hms, htext⟩ := h
  have hknown : s.knows f.name := by rw [knows, hf, Option.isSome_some]
  obtain ⟨m, hm, hkey⟩ := List.mem_map.mp ((hms.given_iff f.name hknown).mp hgiven)
  have hmeans (m : Member) (hm : m ∈ ms) : ∃ effect : ρ → Except JsonError ρ, s.Means m effect ∧
      ((∀ v, ∃ v', effect v = .ok v') ∨ ∀ v, effect v = .error e) ∧
      (m.key = f.name → ∀ v, effect v = .error e) := by
    rcases hms.member hm with ⟨g, hg, hfind, hname, hgiven', hholds⟩ | ⟨hunknown, hvalue⟩
    · by_cases hrefuses : g.Refuses m.text e
      · exact ⟨fun _ => .error e, .known hfind hrefuses, .inr fun _ => rfl, fun _ _ => rfl⟩
      · have htakes := (hall g hg hgiven' m.text hholds).resolve_right hrefuses
        refine ⟨_, hs.means_effect hfind htakes, .inl fun v => ⟨_, rfl⟩, ?_⟩
        intro hkey
        rw [hkey, hf, Option.some.injEq] at hfind
        exact absurd (hrefused m.text (hfind ▸ hholds)) (hfind ▸ hrefuses)
    · refine ⟨_, means_effect_unknown c hunknown hvalue, .inl fun v => ⟨_, rfl⟩, ?_⟩
      intro hkey
      rw [hkey, hknown] at hunknown
      cases hunknown
  have : Nonempty (ρ → Except JsonError ρ) := ⟨.ok⟩
  choose! effect heffect hcases hfails using hmeans
  have hread := finds_object htext heffect hms.distinct
  rw [foldMembers_error hcases hm (hfails m hm hkey) s.blank] at hread
  exact hread

end Schema

/-! ### Written documents -/

namespace Json

theorem blank_newLine (depth : Nat) : Blank (bytes (newLine depth)) := by
  have hindent : Blank (bytes (String.join (List.replicate depth "  "))) := by
    induction depth with
    | zero => exact blank_nil
    | succ depth ih =>
      intro b hb
      rw [List.replicate_succ, String.join_cons, bytes_append, List.mem_append] at hb
      rcases hb with hb | hb
      · exact (by decide +kernel : Blank (bytes "  ")) b hb
      · exact ih b hb
  intro b hb
  rw [newLine, bytes_append, List.mem_append] at hb
  rcases hb with hb | hb
  · exact (by decide +kernel : Blank (bytes "\n")) b hb
  · exact hindent b hb

/-- A field of a written object at a depth. -/
def writtenMember (depth : Nat) (p : String × Json) : Member := ⟨p.1, bytes (p.2.prettyAt depth)⟩

theorem membersText_prettyFields (depth : Nat) (p : String × Json) (fields : List (String × Json))
    {w : Bytes} (hw : Blank w) :
    MembersText ((p :: fields).map (writtenMember depth))
      (bytes (prettyFields depth (p :: fields)) ++ w) := by
  have hcolon : bytes ": " = Byte.colon :: bytes " " := by decide
  have hblank : Blank (bytes " ") := by decide +kernel
  induction fields generalizing p with
  | nil =>
    have htext : bytes (prettyFields depth [p]) ++ w = bytes (newLine depth) ++ bytes (quote p.1) ++
        [] ++ Byte.colon :: bytes " " ++ bytes (p.2.prettyAt depth) ++ w := by
      simp [prettyFields, hcolon]
    rw [htext]
    exact .last (m := writtenMember depth p) (blank_newLine depth) blank_nil hblank hw
  | cons q fields ih =>
    have hcomma : bytes "," = [Byte.comma] := by decide
    have htext : bytes (prettyFields depth (p :: q :: fields)) ++ w =
        bytes (newLine depth) ++ bytes (quote p.1) ++ [] ++ Byte.colon :: bytes " " ++
          bytes (p.2.prettyAt depth) ++ [] ++
          Byte.comma :: (bytes (prettyFields depth (q :: fields)) ++ w) := by
      simp [prettyFields, hcolon, hcomma]
    rw [htext]
    exact .more (m := writtenMember depth p) (blank_newLine depth) blank_nil hblank blank_nil (ih q)

theorem objectText_obj (depth : Nat) (fields : List (String × Json)) :
    ObjectText (fields.map (writtenMember (depth + 1))) (bytes ((obj fields).prettyAt depth)) := by
  cases fields with
  | nil =>
    refine ⟨[], .none blank_nil, ?_⟩
    rw [prettyAt]
    decide
  | cons p fields =>
    have hbody := membersText_prettyFields (depth + 1) p fields (blank_newLine depth)
    have hopen : bytes "\x7b" = [Byte.openBrace] := by decide
    have hclose : bytes "\x7d" = [Byte.closeBrace] := by decide
    refine ⟨_, hbody, ?_⟩
    simp [prettyAt, hopen, hclose]

end Json

namespace Schema

variable {ρ : Type} {s : Schema ρ}

/-- The text of a field as it is written at some depth. -/
def Written (v : ρ) (f : Field ρ) (t : Bytes) : Prop := ∃ depth, t = bytes ((f.write v).prettyAt depth)

/-- An object with some of the fields of a record as they are written, in any order. -/
theorem objectOf_selection (hnames : (s.fields.map (·.name)).Nodup) {given : String → Bool} {v : ρ}
    (depth : Nat) {fs : List (Field ρ)} (hfields : ∀ f ∈ fs, f ∈ s.fields)
    (hdistinct : (fs.map (·.name)).Nodup) (hgiven : ∀ n, s.knows n → (given n ↔ n ∈ fs.map (·.name)))
    {t : Bytes} (ht : ObjectText (fs.map fun f => Json.writtenMember depth (f.name, f.write v)) t) :
    s.ObjectOf given (Written v) t := by
  have hkeys : (fs.map fun f => Json.writtenMember depth (f.name, f.write v)).map (·.key) =
      fs.map (·.name) := by
    rw [List.map_map]
    rfl
  refine ⟨_, ⟨?_, ?_, ?_, ?_⟩, ht⟩
  · rw [Distinct, hkeys]
    exact hdistinct.sublist List.filter_sublist
  · intro n hn
    rw [hkeys]
    exact hgiven n hn
  · intro m hm f hf
    obtain ⟨g, hg, rfl⟩ := List.mem_map.mp hm
    have hfind : s.fields.find? (·.name == g.name) = some f := hf
    rw [find?_name hnames (hfields g hg), Option.some.injEq] at hfind
    rw [← hfind]
    exact ⟨depth, rfl⟩
  · intro m hm hunknown
    obtain ⟨g, hg, rfl⟩ := List.mem_map.mp hm
    have hknown : s.knows g.name := knows_of_mem (hfields g hg)
    have hkey : s.knows g.name = false := hunknown
    rw [hknown] at hkey
    cases hkey

/-- A written record gives all its fields. -/
theorem objectOf_write (hnames : (s.fields.map (·.name)).Nodup) (v : ρ) (depth : Nat) :
    s.ObjectOf (fun _ => true) (Written v) (bytes ((s.write v).prettyAt depth)) := by
  have htext := Json.objectText_obj depth (s.fields.map fun f => (f.name, f.write v))
  rw [List.map_map] at htext
  refine objectOf_selection hnames (depth + 1) (fun f hf => hf) hnames ?_ htext
  intro n hn
  obtain ⟨f, hf⟩ := Option.isSome_iff_exists.mp hn
  have hname : f.name = n := by simpa using List.find?_some hf
  exact iff_of_true rfl (List.mem_map.mpr ⟨f, List.mem_of_find?_eq_some hf, hname⟩)

end Schema

end Broadphase
