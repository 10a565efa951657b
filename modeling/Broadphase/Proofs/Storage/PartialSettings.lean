import Broadphase.Proofs.Storage.RoundTrip

/-! # Settings with fields left out

A person may edit the document of some settings: leave out fields at the top or inside the records in
it, put the members in another order, space them differently and add members of other names.
`SimConfig.Edited c given t` says that `t` came from the document of `c` in this way, and `given` names
the fields that are left.

Fields that were left out take their standard values (`SimConfig.keeping`), except for the sides of
the walls: walls that are there must have both (`SimConfig.finds_edited`). -/

namespace Broadphase

open Json (Recovered bytes blank_nil)

namespace SimConfig

/-- The fields that a document gives, at the top and inside each of the records in it. -/
structure Given where
  top : String → Bool
  bounds : String → Bool
  motion : String → Bool
  grid : String → Bool
  shape : String → Bool

/-- The side that is missing from walls that are there. -/
def Given.missingSide? (given : Given) : Option String :=
  if !given.top "bounds" then none
  else if !given.bounds "width" then some "width"
  else if !given.bounds "height" then some "height"
  else none

/-- The settings with the fields inside records that are not given at their standard values. -/
def keepingInner (c : SimConfig) (given : Given) : SimConfig :=
  { c with
    bounds := Bounds.schema.merge given.bounds c.bounds {}
    motion := MotionParams.schema.merge given.motion c.motion {}
    grid := GridConfig.schema.merge given.grid c.grid {}
    shape := ShapeRanges.schema.merge given.shape c.shape {} }

/-- The settings with every field that is not given at its standard value. -/
def keeping (c : SimConfig) (given : Given) : SimConfig :=
  schema.merge given.top (c.keepingInner given) {}

/-- What an edited document holds for a field: an edited record, or the value as it was written. -/
def EditedField (c : SimConfig) (given : Given) (f : Field SimConfig) (t : Bytes) : Prop :=
  if f.name = "bounds" then Bounds.schema.ObjectOf given.bounds (Schema.Written c.bounds) t
  else if f.name = "integrator" then MotionParams.schema.ObjectOf given.motion (Schema.Written c.motion) t
  else if f.name = "spatial_hash" then GridConfig.schema.ObjectOf given.grid (Schema.Written c.grid) t
  else if f.name = "shape" then ShapeRanges.schema.ObjectOf given.shape (Schema.Written c.shape) t
  else Schema.Written c f t

/-- The document of settings with some of its fields, in any order and with other members among
them. -/
def Edited (c : SimConfig) (given : Given) (t : Bytes) : Prop :=
  schema.ObjectOf given.top (c.EditedField given) t

end SimConfig

/-! ### Edited records -/

/-- A record without required fields is read from any selection of its fields. -/
theorem Schema.Lawful.finds_selection {ρ : Type} {s : Schema ρ} (hs : s.Lawful)
    (hopen : s.complete = false) {c : ρ} (h : ∀ f ∈ s.fields, f.Returns c) {given : String → Bool}
    {t : Bytes} (ht : s.ObjectOf given (Schema.Written c) t) :
    s.read.Finds t (.ok (s.merge given c s.blank)) := by
  have hlacking : s.lacking? given = none := by simp [Schema.lacking?, hopen]
  have hread := hs.finds_merged ht fun f hf _ => h f hf
  rw [Schema.finish, hlacking] at hread
  exact hread

namespace SimConfig

variable {c : SimConfig} {given : Given}

/-- Every field but the walls is read as it was kept. -/
theorem takes_edited (h : ∀ x ∈ c.numbers, Recovered x) :
    ∀ f ∈ schema.fields, f.name ≠ "bounds" → ∀ t, c.EditedField given f t →
      f.Takes (c.keepingInner given) t := by
  simp only [numbers, outerNumbers, List.forall_mem_append] at h
  obtain ⟨⟨⟨⟨hbounds, hmotion⟩, hheight⟩, hgrid⟩, hshape⟩ := h
  simp only [schema, List.forall_mem_cons]
  refine ⟨?_, ?_, ?_, ?_, ?_, ?_, ?_, ?_⟩
  · intro _ t ht
    exact Field.returns_word64 (c := c.keepingInner given) t ht
  · intro _ t ht
    exact Field.returns_word64 (c := c.keepingInner given) t ht
  · exact fun hname => absurd rfl hname
  · intro _ t ht
    exact Field.takes_of_decode (MotionParams.lawful.finds_selection rfl (MotionParams.returns hmotion) ht)
  · intro _ t ht
    exact Field.returns_optionalFloat (c := c.keepingInner given)
      (fun x hx => hheight x (Option.mem_toList.mpr hx)) t ht
  · intro _ t ht
    exact Field.takes_of_decode (GridConfig.lawful.finds_selection rfl (GridConfig.returns hgrid) ht)
  · intro _ t ht
    exact Field.takes_of_decode (ShapeRanges.lawful.finds_selection rfl (ShapeRanges.returns hshape) ht)
  · exact fun f hf => absurd hf List.not_mem_nil

theorem lacking?_bounds (given : Given) (h : given.top "bounds") :
    Bounds.schema.lacking? given.bounds = given.missingSide? := by
  have hfields : Bounds.schema.fields.map (·.name) = ["width", "height"] := rfl
  have hcomplete : Bounds.schema.complete = true := rfl
  rw [Schema.lacking?, hfields, hcomplete, if_pos rfl, Given.missingSide?, h]
  cases hwidth : given.bounds "width" with
  | false => simp [hwidth]
  | true =>
    cases hheight : given.bounds "height" with
    | false => simp [hwidth, hheight]
    | true => simp [hwidth, hheight]

/-- The field that holds the walls. -/
def boundsField : Field SimConfig :=
  Bounds.schema.asField "bounds" (·.bounds) fun c b => { c with bounds := b }

theorem find?_bounds : schema.fields.find? (·.name == boundsField.name) = some boundsField := rfl

theorem eq_boundsField {f : Field SimConfig} (hf : f ∈ schema.fields) (hn : f.name = "bounds") :
    f = boundsField := by
  have hfind := Schema.find?_name lawful.names hf
  rw [hn] at hfind
  exact Option.some.inj (hfind.symm.trans find?_bounds)

/-- Walls are read from an object with both sides and refused otherwise. -/
theorem finds_bounds (h : ∀ x ∈ c.bounds.numbers, Recovered x) (hgiven : given.top "bounds") {t : Bytes}
    (ht : c.EditedField given boundsField t) :
    Bounds.schema.read.Finds t
      (match given.missingSide? with
        | some n => .error (.missingField n)
        | none => .ok (c.keepingInner given).bounds) := by
  have hobject : Bounds.schema.ObjectOf given.bounds (Schema.Written c.bounds) t := ht
  have hread := Bounds.lawful.finds_merged hobject fun f hf _ => Bounds.returns h f hf
  rw [Schema.finish, lacking?_bounds given hgiven] at hread
  exact hread

/-- Fields that were left out take their standard values, but walls need both their sides. -/
theorem finds_edited (h : ∀ x ∈ c.numbers, Recovered x) {t : Bytes} (ht : c.Edited given t) :
    schema.read.Finds t
      (match given.missingSide? with
        | some n => .error (.missingField n)
        | none => .ok (c.keeping given)) := by
  have hbounds : ∀ x ∈ c.bounds.numbers, Recovered x := by
    simp only [numbers, outerNumbers, List.forall_mem_append] at h
    exact h.1.1.1.1
  cases hside : given.missingSide? with
  | some n =>
    have hgiven : given.top "bounds" := by
      by_contra hgiven
      simp [Given.missingSide?, hgiven] at hside
    have hrefused (u : Bytes) (hu : c.EditedField given boundsField u) :
        boundsField.Refuses u (.missingField n) := by
      intro v
      have hread := finds_bounds hbounds hgiven hu
      rw [hside] at hread
      exact hread.map fun b => { v with bounds := b }
    refine lawful.finds_refused (c := c.keepingInner given) ht ?_ find?_bounds hgiven hrefused
    intro f hf _ u hu
    by_cases hn : f.name = "bounds"
    · obtain rfl := eq_boundsField hf hn
      exact .inr (hrefused u hu)
    · exact .inl (takes_edited h f hf hn u hu)
  | none =>
    have hcomplete : schema.lacking? given.top = none := rfl
    have hread := lawful.finds_merged (c := c.keepingInner given) ht ?_
    · rw [Schema.finish, hcomplete] at hread
      exact hread
    intro f hf hgiven u hu
    by_cases hn : f.name = "bounds"
    · obtain rfl := eq_boundsField hf hn
      have hwalls := finds_bounds hbounds hgiven hu
      rw [hside] at hwalls
      exact Field.takes_of_decode hwalls
    · exact takes_edited h f hf hn u hu

end SimConfig

namespace Service

/-- Edited settings are loaded with the standard values of the fields that were left out, unless
walls are there without one of their sides. -/
theorem load_edited {σ : Type} {store : Store (StateM σ)} {key : String} {s s' : σ} {data : ByteArray}
    (hheld : (store.load key).run s = (.ok data, s')) {c : SimConfig}
    (hnumbers : ∀ x ∈ c.numbers, Recovered x) {given : SimConfig.Given}
    (hedited : c.Edited given data.toList) :
    (load store SimConfig.schema.read key).run s =
      (match given.missingSide? with
        | some n => .error (.json (.missingField n))
        | none => .ok (some (c.keeping given)), s') := by
  have hne : data.toList ≠ [] := by
    obtain ⟨ms, -, body, -, hbody⟩ := hedited
    rw [hbody]
    exact List.cons_ne_nil _ _
  rw [run_load SimConfig.schema.read hheld, decode_of_finds (SimConfig.finds_edited hnumbers hedited) hne]
  cases given.missingSide? with
  | some n => rfl
  | none => rfl

theorem run_load_insert (held : Memory) (key : String) (data : ByteArray) :
    (Store.memory.load key).run (held.insert key data) = (.ok data, held.insert key data) := by
  have hload := Store.memoryMaps.load (held.insert key data) key trivial trivial
  simpa [Store.memoryMaps] using hload

/-- A document in another order, with most fields left out and a member of another name. -/
def reorderedText : String :=
  "\x7b\"note\":[null,true],\"shape\":\x7b\"max_speed\":3.5,\"min_mass\":2.5,\"max_mass\":5.0\x7d," ++
  "\"seed\":7,\"bounds\":\x7b\"height\":480.0,\"width\":640.0\x7d\x7d"

theorem load_edited_reordered :
    let held : Memory := (∅ : Memory).insert simKey reorderedText.toUTF8
    (load Store.memory SimConfig.schema.read simKey).run held =
      (.ok (some { seed := 7, bounds := { width := 640, height := 480 },
                   shape := { maxSpeed := 3.5, minMass := 2.5 } }), held) := by
  intro held
  let c : SimConfig :=
    { objectCount := 5, seed := 7, bounds := { width := 640, height := 480 },
      shape := { minSize := 1, maxSpeed := 3.5, minMass := 2.5 } }
  let given : SimConfig.Given :=
    { top := ["note", "shape", "seed", "bounds"].contains
      bounds := (Bounds.schema.fields.reverse.map (·.name)).contains
      motion := fun _ => false
      grid := fun _ => false
      shape := ((ShapeRanges.schema.fields.drop 4).map (·.name)).contains }
  have hshape : ShapeRanges.schema.ObjectOf given.shape (Schema.Written c.shape)
      (bytes "\x7b\"max_speed\":3.5,\"min_mass\":2.5,\"max_mass\":5.0\x7d") :=
    Schema.objectOf_selection ShapeRanges.lawful.names 0 (fun f hf => List.mem_of_mem_drop hf) (by decide)
      (fun n _ => List.contains_iff_mem)
      ⟨_, .more blank_nil blank_nil blank_nil blank_nil (.more blank_nil blank_nil blank_nil blank_nil
        (.last blank_nil blank_nil blank_nil blank_nil)), by decide +kernel⟩
  have hbounds : Bounds.schema.ObjectOf given.bounds (Schema.Written c.bounds)
      (bytes "\x7b\"height\":480.0,\"width\":640.0\x7d") :=
    Schema.objectOf_selection Bounds.lawful.names 0 (fun f hf => List.mem_reverse.mp hf) (by decide)
      (fun n _ => List.contains_iff_mem)
      ⟨_, .more blank_nil blank_nil blank_nil blank_nil (.last blank_nil blank_nil blank_nil blank_nil),
        by decide +kernel⟩
  have hnote : Json.IsText .value (bytes "[null,true]") :=
    .list (.item blank_nil .nullWord blank_nil (.lastItem blank_nil .trueWord blank_nil))
  have hedited : c.Edited given (bytes reorderedText) := by
    refine ⟨[⟨"note", bytes "[null,true]"⟩,
      ⟨"shape", bytes "\x7b\"max_speed\":3.5,\"min_mass\":2.5,\"max_mass\":5.0\x7d"⟩,
      ⟨"seed", bytes "7"⟩, ⟨"bounds", bytes "\x7b\"height\":480.0,\"width\":640.0\x7d"⟩],
      ⟨by decide, fun n _ => List.contains_iff_mem, ?_, ?_⟩, _,
      .more blank_nil blank_nil blank_nil blank_nil (.more blank_nil blank_nil blank_nil blank_nil
        (.more blank_nil blank_nil blank_nil blank_nil (.last blank_nil blank_nil blank_nil blank_nil))),
      by decide +kernel⟩
    · simp only [List.forall_mem_cons]
      refine ⟨nofun, ?_, ?_, ?_, nofun⟩
      · intro f hf
        obtain rfl : SimConfig.shapeField = f := Option.some.inj hf
        exact hshape
      · intro f hf
        obtain rfl : Field.word64 "seed" "u64" (·.seed) (fun c n => { c with seed := n }) = f :=
          Option.some.inj hf
        exact ⟨0, by decide +kernel⟩
      · intro f hf
        obtain rfl : SimConfig.boundsField = f := Option.some.inj hf
        exact hbounds
    · simp only [List.forall_mem_cons]
      exact ⟨fun _ => hnote, nofun, nofun, nofun, nofun⟩
  rw [← Json.toList_toUTF8] at hedited
  exact load_edited (run_load_insert ∅ simKey reorderedText.toUTF8) (c := c) (by decide +kernel) hedited

/-- Walls with one side are refused, although every other record does without any of its fields. -/
theorem load_walls_without_height :
    let held : Memory := (∅ : Memory).insert simKey "\x7b\"bounds\":\x7b\"width\":800.0\x7d\x7d".toUTF8
    (load Store.memory SimConfig.schema.read simKey).run held =
      (.error (.json (.missingField "height")), held) := by
  intro held
  have hdecode : decode SimConfig.schema.read
      (.ok "\x7b\"bounds\":\x7b\"width\":800.0\x7d\x7d".toUTF8) = .error (.json (.missingField "height")) := by
    decide +kernel
  rw [run_load SimConfig.schema.read (run_load_insert ∅ simKey _), hdecode]

end Service

end Broadphase
