import Broadphase.Proofs.Simulation.ValidSettings
import Broadphase.Proofs.Storage.Settings
import Broadphase.Proofs.Storage.Stores

/-! # Settings that are saved and loaded

After any run of saves a service loads under each key the settings that were saved there last, in
memory and in a directory (`Service.load_last_saved`).

Valid settings can be saved and loaded again unless a side of the arena of their shape ranges is not
finite, which the check of the settings does not look at (`Service.loadSim_valid`). -/

namespace Broadphase

open Json (Recovered bytes)

/-! ### Finite settings -/

namespace SimConfig

theorem isFinite_outer {c : SimConfig} (h : c.validate = .ok ()) : ∀ x ∈ c.outerNumbers, x.isFinite := by
  have hvalid := valid_of_validate h
  have hbounds := Bounds.isFinite_of_validate hvalid.bounds
  have hmotion := MotionParams.isFinite_of_validate hvalid.motion
  have hgrid := (GridConfig.validate_eq_ok_iff.mp hvalid.grid).1.1
  simp only [outerNumbers, Bounds.numbers, MotionParams.numbers, GridConfig.numbers,
    List.forall_mem_append, List.forall_mem_cons, Option.mem_toList]
  have hnil := List.forall_mem_nil fun x : Float => x.isFinite = true
  exact ⟨⟨⟨⟨hbounds.1, hbounds.2, hnil⟩, hmotion.1, hmotion.2, hnil⟩, (spawnShape_of_validate h).2⟩,
    hgrid, hnil⟩

/-- The check ensures finite shape ranges but for the arena, in whose place it looks at the walls. -/
theorem isFinite_shape {c : SimConfig} (h : c.validate = .ok ()) (hwidth : c.shape.arenaWidth.isFinite)
    (hheight : c.shape.arenaHeight.isFinite) : ∀ x ∈ c.shape.numbers, x.isFinite := by
  have hshape := ShapeRanges.valid_of_validate (spawnShape_of_validate h).1
  simp only [ShapeRanges.numbers, List.forall_mem_cons]
  exact ⟨hwidth, hheight, hshape.minSize, hshape.maxSize, hshape.maxSpeed, hshape.minMass,
    hshape.maxMass, List.forall_mem_nil _⟩

end SimConfig

/-! ### Loading -/

theorem Reader.Finds.whole {α : Type} {read : Reader α} {t : Bytes} {result : Except JsonError α}
    (h : read.Finds t result) : Json.whole read t = result := by
  have hread := h [] [] Json.blank_nil (fun b hb => by simp at hb)
  rw [List.nil_append, List.append_nil] at hread
  rw [Json.whole, hread]
  cases result with
  | error e => rfl
  | ok a => rfl

namespace Service

/-- What is loaded from a text for which a reader has an answer. -/
def loaded {α : Type} : Except JsonError α → Except StorageError (Option α)
  | .ok a => .ok (some a)
  | .error e => .error (.json e)

theorem decode_of_finds {α : Type} {read : Reader α} {data : ByteArray} {result : Except JsonError α}
    (h : read.Finds data.toList result) (hne : data.toList ≠ []) :
    decode read (.ok data) = loaded result := by
  have hempty : data.isEmpty = false := by
    rw [Json.toList_eq_data] at hne
    have hsize : data.size ≠ 0 := fun h => hne (List.length_eq_zero_iff.mp h)
    exact beq_eq_false_iff_ne.mpr hsize
  simp only [decode, hempty, h.whole, Bool.false_eq_true, if_false]
  cases result with
  | error e => rfl
  | ok a => rfl

variable {σ : Type} {store : Store (StateM σ)}

theorem run_load {α : Type} (read : Reader α) {key : String} {s s' : σ}
    {answer : Except StorageError ByteArray} (h : (store.load key).run s = (answer, s')) :
    (load store read key).run s = (decode read answer, s') := by
  rw [load, StateT.run_bind, h]
  rfl

theorem run_loadSim {s s' : σ} {answer : Except StorageError ByteArray}
    (h : (store.load simKey).run s = (answer, s')) :
    (loadSim store).run s = (checked (decode SimConfig.schema.read answer), s') := by
  rw [loadSim, StateT.run_bind, run_load SimConfig.schema.read h]
  rfl

end Service

/-! ### Settings of any kind -/

/-- The kinds of settings. -/
inductive SettingKind where
  | sim
  | harness
  | shape
  | grid
deriving DecidableEq, Repr

namespace SettingKind

/-- The settings of a kind. -/
def Value : SettingKind → Type
  | sim => SimConfig
  | harness => HarnessConfig
  | shape => ShapeRanges
  | grid => GridConfig

/-- The JSON form of the settings of a kind. -/
def schema : (kind : SettingKind) → Schema kind.Value
  | sim => SimConfig.schema
  | harness => HarnessConfig.schema
  | shape => ShapeRanges.schema
  | grid => GridConfig.schema

/-- The binary64 numbers that settings hold. -/
def numbers : (kind : SettingKind) → kind.Value → List Float
  | sim => SimConfig.numbers
  | harness => HarnessConfig.numbers
  | shape => ShapeRanges.numbers
  | grid => GridConfig.numbers

/-- Settings of every kind are read back from their document. -/
theorem finds_written (kind : SettingKind) {v : kind.Value} (h : ∀ x ∈ kind.numbers v, Recovered x)
    (depth : Nat) : kind.schema.read.Finds (bytes ((kind.schema.write v).prettyAt depth)) (.ok v) := by
  cases kind with
  | sim => exact SimConfig.lawful.finds_written (SimConfig.returns h) depth
  | harness =>
    exact HarnessConfig.lawful.finds_written (HarnessConfig.returns h) depth
  | shape => exact ShapeRanges.lawful.finds_written (ShapeRanges.returns h) depth
  | grid => exact GridConfig.lawful.finds_written (GridConfig.returns h) depth

end SettingKind

/-- Settings of some kind. -/
structure Setting where
  kind : SettingKind
  value : kind.Value

namespace Setting

/-- The document that is saved. -/
def document (v : Setting) : Json := v.kind.schema.write v.value

/-- The binary64 numbers in the settings. -/
def numbers (v : Setting) : List Float := v.kind.numbers v.value

end Setting

theorem Json.pretty_write_ne_nil {ρ : Type} (s : Schema ρ) (v : ρ) : bytes (s.write v).pretty ≠ [] := by
  obtain ⟨body, -, hbody⟩ := objectText_obj 0 (s.fields.map fun f => (f.name, f.write v))
  have htext : bytes (s.write v).pretty = Byte.openBrace :: (body ++ [Byte.closeBrace]) := hbody
  rw [htext]
  exact List.cons_ne_nil _ _

namespace Service

/-- What is loaded after a record was saved. -/
theorem decode_written {ρ : Type} (s : Schema ρ) (v : ρ) {result : Except JsonError ρ}
    (h : s.read.Finds (bytes (s.write v).pretty) result) :
    decode s.read (.ok (s.write v).pretty.toUTF8) = loaded result := by
  apply decode_of_finds
  · rw [Json.toList_toUTF8]
    exact h
  · rw [Json.toList_toUTF8]
    exact Json.pretty_write_ne_nil s v

/-! ### Runs of saves -/

/-- In a store that starts in the state `s`, any run of saves under the given keys succeeds.  After it
each key is loaded as what was saved there last, at the kind of that, and an absent key that was not
saved is loaded as absent at every kind. -/
def Restores {σ : Type} (store : Store (StateM σ)) (keys absent : String → Prop) (s : σ) : Prop :=
  ∀ saves : List (String × Setting), (∀ p ∈ saves, keys p.1) →
    ∃ s', (saves.mapM fun p => save store p.1 p.2.document).run s = (saves.map fun _ => .ok (), s') ∧
      ∀ key, keys key →
        (∀ v : Setting, saves.reverse.lookup key = some v → (∀ x ∈ v.numbers, Recovered x) →
          (load store v.kind.schema.read key).run s' = (.ok (some v.value), s')) ∧
        (saves.reverse.lookup key = none → absent key →
          ∀ kind : SettingKind, (load store kind.schema.read key).run s' = (.ok none, s'))

variable {σ : Type} {store : Store (StateM σ)} {keys : String → Prop}

theorem restores (M : store.Maps keys) {s : σ} (hs : M.Good s) :
    Restores store keys (fun k => M.held s k = none) s := by
  intro saves hkeys
  obtain ⟨s', hrun, hgood, hheld⟩ := M.run_saves (fun v : Setting => v.document.pretty.toUTF8) hkeys hs
  refine ⟨s', hrun, ?_⟩
  intro key hkey
  have hload := M.load s' key hgood hkey
  rw [hheld key hkey] at hload
  constructor
  · intro v hlast hnumbers
    rw [hlast] at hload
    rw [run_load v.kind.schema.read hload]
    have hdecode := decode_written v.kind.schema v.value (v.kind.finds_written hnumbers 0)
    exact congrArg (·, s') hdecode
  · intro hnever habsent kind
    rw [hnever, habsent] at hload
    rw [run_load kind.schema.read hload]
    rfl

/-- Settings are loaded as they were saved last, from memory and from a directory that acts as a map
from file names to bytes. -/
theorem load_last_saved :
    (∀ held : Memory, Restores Store.memory (fun _ => True) (fun key => held[key]? = none) held) ∧
    ∀ {σ : Type} {fs : FileSystem (StateM σ)} {base : String} {names : String → Prop}
      (dir : fs.Maps base names) (s : σ), dir.Good s →
      Restores (Store.directory fs base) (fun key => names (key ++ ".json"))
        (fun key => dir.files s (key ++ ".json") = none) s :=
  ⟨fun _ => restores Store.memoryMaps trivial,
    fun dir _ hs => restores (Store.directoryMaps dir) hs⟩

/-- Settings with the largest words, a negative zero and numbers that need an exponent. -/
def extremeSettings : SimConfig where
  objectCount := 18446744073709551615
  seed := 18446744073709551615
  motion := { gravity := -9.81, damping := 0.995 }
  referenceHeight? := some (-0.0)
  grid := { enabled := false, cellSize := 1e-7 }
  shape := { maxSpeed := 1e300 }

theorem load_last_saved_overwritten :
    let saves : List (String × Setting) := [("sim", ⟨.sim, ({} : SimConfig)⟩),
      ("bench", ⟨.harness, ({} : HarnessConfig)⟩), ("sim", ⟨.sim, extremeSettings⟩)]
    let files := Store.directory FileTree.fileSystem "cfg"
    (∃ held, (saves.mapM fun p => save Store.memory p.1 p.2.document).run ∅ =
        ([.ok (), .ok (), .ok ()], held) ∧
      (load Store.memory SimConfig.schema.read "sim").run held = (.ok (some extremeSettings), held)) ∧
    ∃ t, (saves.mapM fun p => save files p.1 p.2.document).run { root := .dir [("cfg", .dir [])] } =
        ([.ok (), .ok (), .ok ()], t) ∧
      (load files SimConfig.schema.read "sim").run t = (.ok (some extremeSettings), t) ∧
      (load files GridConfig.schema.read "grid").run t = (.ok none, t) := by
  intro saves files
  have hnumbers : ∀ x ∈ extremeSettings.numbers, Recovered x := by decide +kernel
  have hname {n : String} (h : n ∈ ["cfg", "sim.json", "bench.json", "grid.json"]) :
      FileTree.IsName n := by
    fin_cases h <;> exact ⟨by decide, by decide, by decide, by decide, by decide⟩
  have htree : (FileTree.directoryMaps "cfg" (hname (by decide))).Good { root := .dir [("cfg", .dir [])] } :=
    ⟨[("cfg", .dir [])], [], rfl, rfl, rfl, fun n node h => nomatch h⟩
  have hkeys : ∀ p ∈ saves, FileTree.IsName (p.1 ++ ".json") := by
    simp only [saves, List.forall_mem_cons]
    exact ⟨hname (by decide), hname (by decide), hname (by decide), fun p hp => nomatch hp⟩
  constructor
  · obtain ⟨held, hrun, hload⟩ := load_last_saved.1 ∅ saves (fun _ _ => trivial)
    exact ⟨held, hrun, (hload "sim" trivial).1 ⟨.sim, extremeSettings⟩ rfl hnumbers⟩
  · obtain ⟨t, hrun, hload⟩ := load_last_saved.2 _ _ htree saves hkeys
    refine ⟨t, hrun, ?_, ?_⟩
    · exact (hload "sim" (hname (by decide))).1 ⟨.sim, extremeSettings⟩ rfl hnumbers
    · exact (hload "grid" (hname (by decide))).2 rfl rfl .grid

/-! ### Valid settings -/

/-- What is loaded as the settings of the simulation after they were saved. -/
theorem run_save_loadSim (M : store.Maps keys) (hkey : keys simKey) {s : σ} (hs : M.Good s)
    {c : SimConfig} {result : Except JsonError SimConfig}
    (h : SimConfig.schema.read.Finds (bytes (SimConfig.schema.write c).pretty) result) :
    ∃ s', (save store simKey (SimConfig.schema.write c)).run s = (.ok (), s') ∧
      (loadSim store).run s' = (checked (loaded result), s') := by
  obtain ⟨s', hsave, hgood, hheld⟩ :=
    M.save s simKey (SimConfig.schema.write c).pretty.toUTF8 hs hkey
  have hload := M.load s' simKey hgood hkey
  rw [hheld simKey hkey, if_pos rfl] at hload
  refine ⟨s', hsave, ?_⟩
  rw [run_loadSim hload]
  exact congrArg (fun r => (checked r, s')) (decode_written SimConfig.schema c h)

theorem checked_ok {c : SimConfig} (h : c.validate = .ok ()) : checked (.ok (some c)) = .ok c := by
  simp only [checked, Json.ok_bind, Option.getD_some, h]
  rfl

/-- Valid settings can be saved and loaded again exactly if the arena of their shape ranges is finite. -/
theorem loadSim_valid (M : store.Maps keys) (hkey : keys simKey) {s : σ} (hs : M.Good s)
    {c : SimConfig} (hvalid : c.validate = .ok ()) (hnumbers : ∀ x ∈ c.numbers, x.isFinite → Recovered x) :
    ∃ s', (save store simKey (SimConfig.schema.write c)).run s = (.ok (), s') ∧
      (loadSim store).run s' =
        (if c.shape.arenaWidth.isFinite ∧ c.shape.arenaHeight.isFinite then .ok c
         else .error (.json (.wrongKind .null "f64")), s') := by
  have houter (x : Float) (hx : x ∈ c.outerNumbers) : Recovered x :=
    hnumbers x (List.mem_append_left _ hx) (SimConfig.isFinite_outer hvalid x hx)
  have hshape (x : Float) (hx : x ∈ c.shape.numbers) : x.isFinite → Recovered x :=
    hnumbers x (List.mem_append_right _ hx)
  split_ifs with harena
  · have hall (x : Float) (hx : x ∈ c.numbers) : Recovered x := by
      rcases List.mem_append.mp hx with hx | hx
      · exact houter x hx
      · exact hshape x hx (SimConfig.isFinite_shape hvalid harena.1 harena.2 x hx)
    have hread := SimConfig.lawful.finds_written (SimConfig.returns hall) 0
    have hrun := run_save_loadSim M hkey hs hread
    rwa [loaded, checked_ok hvalid] at hrun
  · exact run_save_loadSim M hkey hs (SimConfig.finds_written_refused houter hshape harena 0)

theorem loadSim_valid_extreme :
    extremeSettings.validate = .ok () ∧
    ∃ held, (save Store.memory simKey (SimConfig.schema.write extremeSettings)).run ∅ = (.ok (), held) ∧
      (loadSim Store.memory).run held = (.ok extremeSettings, held) := by
  have hvalid : extremeSettings.validate = .ok () := by decide +kernel
  have harena : extremeSettings.shape.arenaWidth.isFinite ∧ extremeSettings.shape.arenaHeight.isFinite := by
    decide +kernel
  have hloaded := loadSim_valid Store.memoryMaps trivial (s := ∅) trivial hvalid (by decide +kernel)
  rw [if_pos harena] at hloaded
  exact ⟨hvalid, hloaded⟩

/-- Settings whose shape ranges have an unbounded arena. -/
def unboundedArena : SimConfig := { shape := { arenaWidth := 1 / 0 } }

/-- Valid settings that can be saved and then not be loaded. -/
theorem loadSim_unboundedArena :
    unboundedArena.validate = .ok () ∧ (∀ x ∈ unboundedArena.numbers, x.isFinite → Recovered x) ∧
    ∃ held, (save Store.memory simKey (SimConfig.schema.write unboundedArena)).run ∅ = (.ok (), held) ∧
      (loadSim Store.memory).run held = (.error (.json (.wrongKind .null "f64")), held) := by
  refine ⟨by decide +kernel, by decide +kernel, ?_⟩
  have hread := SimConfig.finds_written_refused (c := unboundedArena) (by decide +kernel)
    (by decide +kernel) (by decide +kernel) 0
  exact run_save_loadSim Store.memoryMaps trivial trivial hread

end Service

end Broadphase
