import Broadphase.Proofs.Json.Fields
import Broadphase.Storage.Schemas

/-! # Settings in their JSON form

For each record of settings this says that its fields make it up (`lawful`), which binary64 numbers it
holds (`numbers`), and that its fields are read as they were written if those numbers are recovered
(`returns`). -/

namespace Broadphase

open Json (Recovered)

namespace Bounds

theorem lawful : schema.Lawful where
  names := by decide
  get_copy := by simp [schema, Field.copy, Field.float]
  ext := by
    rintro ⟨⟩ ⟨⟩ h
    simpa [schema, Field.float] using h

def numbers (b : Bounds) : List Float := [b.width, b.height]

theorem returns {b : Bounds} (h : ∀ x ∈ b.numbers, Recovered x) : ∀ f ∈ schema.fields, f.Returns b := by
  simp only [numbers, List.forall_mem_cons] at h
  obtain ⟨hwidth, hheight, -⟩ := h
  simp only [schema, List.forall_mem_cons]
  exact ⟨Field.returns_float hwidth, Field.returns_float hheight, fun _ hf => absurd hf List.not_mem_nil⟩

end Bounds

namespace MotionParams

theorem lawful : schema.Lawful where
  names := by decide
  get_copy := by simp [schema, Field.copy, Field.float]
  ext := by
    rintro ⟨⟩ ⟨⟩ h
    simpa [schema, Field.float] using h

def numbers (p : MotionParams) : List Float := [p.gravity, p.damping]

theorem returns {p : MotionParams} (h : ∀ x ∈ p.numbers, Recovered x) :
    ∀ f ∈ schema.fields, f.Returns p := by
  simp only [numbers, List.forall_mem_cons] at h
  obtain ⟨hgravity, hdamping, -⟩ := h
  simp only [schema, List.forall_mem_cons]
  exact ⟨Field.returns_float hgravity, Field.returns_float hdamping,
    fun _ hf => absurd hf List.not_mem_nil⟩

end MotionParams

namespace GridConfig

theorem lawful : schema.Lawful where
  names := by decide
  get_copy := by simp [schema, Field.copy, Field.flag, Field.float, Field.word64]
  ext := by
    rintro ⟨⟩ ⟨⟩ h
    simpa [schema, Field.flag, Field.float, Field.word64] using h

def numbers (c : GridConfig) : List Float := [c.cellSize]

theorem returns {c : GridConfig} (h : ∀ x ∈ c.numbers, Recovered x) :
    ∀ f ∈ schema.fields, f.Returns c := by
  have hcell : Recovered c.cellSize := h c.cellSize (List.mem_singleton_self c.cellSize)
  simp only [schema, List.forall_mem_cons]
  exact ⟨Field.returns_flag, Field.returns_float hcell, Field.returns_word64,
    fun _ hf => absurd hf List.not_mem_nil⟩

end GridConfig

namespace ShapeRanges

theorem lawful : schema.Lawful where
  names := by decide
  get_copy := by simp [schema, Field.copy, Field.float]
  ext := by
    rintro ⟨⟩ ⟨⟩ h
    simpa [schema, Field.float] using h

def numbers (d : ShapeRanges) : List Float :=
  [d.arenaWidth, d.arenaHeight, d.minSize, d.maxSize, d.maxSpeed, d.minMass, d.maxMass]

/-- Every field is a number. -/
theorem fields_float (d : ShapeRanges) :
    ∀ f ∈ schema.fields, ∃ name get set, f = .float name get set ∧ get d ∈ d.numbers := by
  simp only [schema, List.forall_mem_cons]
  refine ⟨?_, ?_, ?_, ?_, ?_, ?_, ?_, ?_⟩
  on_goal 8 => exact fun f hf => absurd hf List.not_mem_nil
  all_goals exact ⟨_, _, _, rfl, by simp [numbers]⟩

theorem returns {d : ShapeRanges} (h : ∀ x ∈ d.numbers, Recovered x) :
    ∀ f ∈ schema.fields, f.Returns d := by
  intro f hf
  obtain ⟨name, get, set, rfl, hmem⟩ := fields_float d f hf
  exact Field.returns_float (h (get d) hmem)

/-- Ranges are refused if a side of their arena is not finite. -/
theorem finds_written_refused {d : ShapeRanges} (h : ∀ x ∈ d.numbers, x.isFinite → Recovered x)
    (harena : ¬ (d.arenaWidth.isFinite ∧ d.arenaHeight.isFinite)) (depth : Nat) :
    schema.read.Finds (Json.bytes ((schema.write d).prettyAt depth)) (.error (.wrongKind .null "f64")) := by
  have hfields (f : Field ShapeRanges) (hf : f ∈ schema.fields) : f.Returns d ∨
      ∀ t, Schema.Written d f t → f.Refuses t (.wrongKind .null "f64") := by
    obtain ⟨name, get, set, rfl, hmem⟩ := fields_float d f hf
    by_cases hfinite : (get d).isFinite
    · exact .inl (Field.returns_float (h (get d) hmem hfinite))
    · exact .inr fun t => Field.refuses_float hfinite
  rw [not_and_or] at harena
  rcases harena with hwidth | hheight
  · exact lawful.finds_written_refused hfields List.mem_cons_self
      (fun t => Field.refuses_float hwidth) depth
  · exact lawful.finds_written_refused hfields (List.mem_cons_of_mem _ List.mem_cons_self)
      (fun t => Field.refuses_float hheight) depth

end ShapeRanges

namespace SimConfig

theorem lawful : schema.Lawful where
  names := by decide
  get_copy := by simp [schema, Field.copy, Field.word64, Field.optionalFloat, Schema.asField]
  ext := by
    rintro ⟨⟩ ⟨⟩ h
    simpa [schema, Field.word64, Field.optionalFloat, Schema.asField] using h

/-- The numbers outside the shape ranges. -/
def outerNumbers (c : SimConfig) : List Float :=
  c.bounds.numbers ++ c.motion.numbers ++ c.referenceHeight?.toList ++ c.grid.numbers

def numbers (c : SimConfig) : List Float := c.outerNumbers ++ c.shape.numbers

/-- The field that holds the shape ranges. -/
def shapeField : Field SimConfig :=
  ShapeRanges.schema.asField "shape" (·.shape) fun c d => { c with shape := d }

theorem shapeField_mem : shapeField ∈ schema.fields := by
  simp only [schema, shapeField, List.mem_cons]
  tauto

theorem returns_outer {c : SimConfig} (h : ∀ x ∈ c.outerNumbers, Recovered x) :
    ∀ f ∈ schema.fields, f = shapeField ∨ f.Returns c := by
  simp only [outerNumbers, List.forall_mem_append] at h
  obtain ⟨⟨⟨hbounds, hmotion⟩, hheight⟩, hgrid⟩ := h
  simp only [schema, List.forall_mem_cons]
  refine ⟨.inr ?_, .inr ?_, .inr ?_, .inr ?_, .inr ?_, .inr ?_, .inl rfl, ?_⟩
  · exact Field.returns_word64
  · exact Field.returns_word64
  · exact Bounds.lawful.returns_asField (Bounds.returns hbounds)
  · exact MotionParams.lawful.returns_asField (MotionParams.returns hmotion)
  · exact Field.returns_optionalFloat fun x hx => hheight x (Option.mem_toList.mpr hx)
  · exact GridConfig.lawful.returns_asField (GridConfig.returns hgrid)
  · exact fun f hf => absurd hf List.not_mem_nil

theorem returns_shape {c : SimConfig} (h : ∀ x ∈ c.shape.numbers, Recovered x) : shapeField.Returns c :=
  ShapeRanges.lawful.returns_asField (ShapeRanges.returns h)

theorem returns {c : SimConfig} (h : ∀ x ∈ c.numbers, Recovered x) :
    ∀ f ∈ schema.fields, f.Returns c := by
  simp only [numbers, List.forall_mem_append] at h
  intro f hf
  rcases returns_outer h.1 f hf with rfl | hreturns
  · exact returns_shape h.2
  · exact hreturns

/-- Settings are refused if a side of the arena of their shape ranges is not finite. -/
theorem finds_written_refused {c : SimConfig} (houter : ∀ x ∈ c.outerNumbers, Recovered x)
    (hshape : ∀ x ∈ c.shape.numbers, x.isFinite → Recovered x)
    (harena : ¬ (c.shape.arenaWidth.isFinite ∧ c.shape.arenaHeight.isFinite)) (depth : Nat) :
    schema.read.Finds (Json.bytes ((schema.write c).prettyAt depth)) (.error (.wrongKind .null "f64")) := by
  have hrefused (t : Bytes) (ht : Schema.Written c shapeField t) :
      shapeField.Refuses t (.wrongKind .null "f64") := by
    obtain ⟨depth, rfl⟩ := ht
    intro v
    exact (ShapeRanges.finds_written_refused hshape harena depth).map fun d => { v with shape := d }
  refine lawful.finds_written_refused ?_ shapeField_mem hrefused depth
  intro f hf
  rcases returns_outer houter f hf with rfl | hreturns
  · exact .inr hrefused
  · exact .inl hreturns

end SimConfig

namespace HarnessConfig

theorem lawful : schema.Lawful where
  names := by decide
  get_copy := by simp [schema, Field.copy, Field.word32, Field.word64, Schema.asField]
  ext := by
    rintro ⟨⟩ ⟨⟩ h
    simpa [schema, Field.word32, Field.word64, Schema.asField] using h

def numbers (c : HarnessConfig) : List Float := c.shape.numbers ++ c.grid.numbers

theorem returns {c : HarnessConfig} (h : ∀ x ∈ c.numbers, Recovered x) :
    ∀ f ∈ schema.fields, f.Returns c := by
  simp only [numbers, List.forall_mem_append] at h
  obtain ⟨hshape, hgrid⟩ := h
  simp only [schema, List.forall_mem_cons]
  refine ⟨Field.returns_word32, Field.returns_word64, ?_, ?_, ?_⟩
  · exact ShapeRanges.lawful.returns_asField (ShapeRanges.returns hshape)
  · exact GridConfig.lawful.returns_asField (GridConfig.returns hgrid)
  · exact fun f hf => absurd hf List.not_mem_nil

end HarnessConfig

end Broadphase
