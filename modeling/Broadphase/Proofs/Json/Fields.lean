import Broadphase.Proofs.Json.Objects

/-! # Fields that are read as they were written

`f.Returns c` says that the field `f` of `c` is read from its own written text as it was.  This
holds for words, truth values and recovered numbers, and for a record if it holds for its fields
(`returns_record`).  A record whose fields all return is read back from its document
(`finds_written`).

A number that is not finite is written as the null word.  Its field is refused (`refuses_float`), and
so is every record around it (`finds_written_refused`). -/

namespace Broadphase

open Json (Recovered bytes)

/-- A number that is not finite has no text of its own. -/
theorem Layout.document_text_of_not_isFinite {x : Float} (h : ¬ x.isFinite) :
    Layout.document.text x = "null" := by
  have hmodel : ¬ x.toModel.unpack.isFinite := h
  unfold Layout.text Numeral.ofFloat
  cases hx : x.toModel.unpack with
  | notANumber => rfl
  | infinity s =>
    cases s with
    | positive => rfl
    | negative => rfl
  | zero s =>
    rw [hx] at hmodel
    exact absurd rfl hmodel
  | finite s m e hm =>
    rw [hx] at hmodel
    exact absurd rfl hmodel

/-! ### Texts of values that are no records -/

namespace Json

theorem prettyAt_real (depth : Nat) (x : Float) : (real x).prettyAt depth = Layout.document.text x := by
  simp [prettyAt, scalar]

theorem prettyAt_nat (depth n : Nat) : (nat n).prettyAt depth = toString n := by
  simp [prettyAt, scalar]

theorem prettyAt_bool (depth : Nat) (b : Bool) :
    (bool b).prettyAt depth = if b then "true" else "false" := by
  simp [prettyAt, scalar]

theorem prettyAt_null (depth : Nat) : null.prettyAt depth = "null" := by
  simp [prettyAt, scalar]

end Json

namespace Field

variable {ρ : Type}

/-- The field is read from its own written text as it was. -/
def Returns (f : Field ρ) (c : ρ) : Prop := ∀ t, Schema.Written c f t → f.Takes c t

variable {c : ρ} {name kind : String}

theorem takes_of_decode {f : Field ρ} {t : Bytes} (h : f.decode.Finds t (.ok (f.get c))) :
    f.Takes c t := fun v => h.map (f.set v)

theorem returns_of_decode {f : Field ρ}
    (h : ∀ depth, f.decode.Finds (bytes ((f.encode (f.get c)).prettyAt depth)) (.ok (f.get c))) :
    f.Returns c := by
  rintro t ⟨depth, rfl⟩
  exact takes_of_decode (h depth)

/-! ### Kinds of fields -/

theorem returns_float {get : ρ → Float} {set : ρ → Float → ρ} (h : Recovered (get c)) :
    (float name get set).Returns c := by
  refine returns_of_decode fun depth => ?_
  show Json.float.Finds (bytes ((Json.real (get c)).prettyAt depth)) _
  rw [Json.prettyAt_real]
  exact Json.finds_float h

theorem returns_word64 {get : ρ → UInt64} {set : ρ → UInt64 → ρ} :
    (word64 name kind get set).Returns c := by
  refine returns_of_decode fun depth => ?_
  show (Json.word64 kind).Finds (bytes ((Json.nat (get c).toNat).prettyAt depth)) _
  rw [Json.prettyAt_nat]
  exact Json.finds_word64 (get c) kind

theorem returns_word32 {get : ρ → UInt32} {set : ρ → UInt32 → ρ} :
    (word32 name kind get set).Returns c := by
  refine returns_of_decode fun depth => ?_
  show (Json.word32 kind).Finds (bytes ((Json.nat (get c).toNat).prettyAt depth)) _
  rw [Json.prettyAt_nat]
  exact Json.finds_word32 (get c) kind

theorem returns_flag {get : ρ → Bool} {set : ρ → Bool → ρ} : (flag name get set).Returns c := by
  refine returns_of_decode fun depth => ?_
  show Json.flag.Finds (bytes ((Json.bool (get c)).prettyAt depth)) _
  rw [Json.prettyAt_bool]
  exact Json.finds_flag (get c)

theorem returns_optionalFloat {get : ρ → Option Float} {set : ρ → Option Float → ρ}
    (h : ∀ x ∈ get c, Recovered x) : (optionalFloat name get set).Returns c := by
  refine returns_of_decode fun depth => ?_
  unfold optionalFloat
  dsimp only
  cases hx : get c with
  | none =>
    rw [Json.prettyAt_null]
    exact Json.finds_optional_none Json.float
  | some x =>
    rw [Json.prettyAt_real]
    exact Json.finds_optional_float (h x hx)

theorem refuses_float {get : ρ → Float} {set : ρ → Float → ρ} (h : ¬ (get c).isFinite) {t : Bytes}
    (ht : Schema.Written c (float name get set) t) :
    (float name get set).Refuses t (.wrongKind .null "f64") := by
  obtain ⟨depth, rfl⟩ := ht
  intro v
  have hwrite : (float name get set).write c = .real (get c) := rfl
  rw [hwrite, Json.prettyAt_real, Layout.document_text_of_not_isFinite h]
  exact Json.finds_float_null.map (set v)

end Field

/-! ### Records -/

namespace Schema

variable {ρ : Type} {s : Schema ρ} {c : ρ}

/-- A record is read back from its document if each of its fields is. -/
theorem Lawful.finds_written (hs : s.Lawful) (h : ∀ f ∈ s.fields, f.Returns c) (depth : Nat) :
    s.read.Finds (bytes ((s.write c).prettyAt depth)) (.ok c) := by
  have hlacking : s.lacking? (fun _ => true) = none := by simp [lacking?]
  have hread := hs.finds_merged (s.objectOf_write hs.names c depth) fun f hf _ => h f hf
  rw [hs.merge_everything, finish, hlacking] at hread
  exact hread

/-- A record is refused if a number in it is not finite and the other fields return. -/
theorem Lawful.finds_written_refused (hs : s.Lawful) {e : JsonError}
    (h : ∀ f ∈ s.fields, f.Returns c ∨ ∀ t, Written c f t → f.Refuses t e) {f : Field ρ}
    (hf : f ∈ s.fields) (hrefused : ∀ t, Written c f t → f.Refuses t e) (depth : Nat) :
    s.read.Finds (bytes ((s.write c).prettyAt depth)) (.error e) := by
  refine hs.finds_refused (c := c) (s.objectOf_write hs.names c depth) ?_ (find?_name hs.names hf)
    rfl hrefused
  intro g hg _ t ht
  rcases h g hg with hreturns | hrefuses
  · exact .inl (hreturns t ht)
  · exact .inr (hrefuses t ht)

/-- A record inside a record. -/
theorem Lawful.returns_asField {σ : Type} {s' : Schema σ} (hs : s'.Lawful) {name : String}
    {get : ρ → σ} {set : ρ → σ → ρ} (h : ∀ f ∈ s'.fields, f.Returns (get c)) :
    (s'.asField name get set).Returns c :=
  Field.returns_of_decode (hs.finds_written h)

end Schema

end Broadphase
