import Broadphase.Proofs.Binary64.Ranges
import Broadphase.Proofs.Grid.History
import Broadphase.Proofs.Simulation.Phase
import Broadphase.Simulation.Session

/-! # What one tick does

A tick applies the kept edits, moves the bodies and settles the result of a detection.  With valid
settings it fails exactly when its length is not a finite number from zero on (`step_of_valid`,
`step_of_invalid`), and it needs no bucket that cannot be had (`Loop.Sound.exists_step`).  The length
of a tick between two clock readings is always such a number (`valid_elapsed`). -/

namespace Broadphase

/-! ### Valid settings -/

/-- The checks that moving bodies repeats at every step. -/
structure SimConfig.Valid (c : SimConfig) : Prop where
  bounds : c.bounds.validate = .ok ()
  motion : c.motion.validate = .ok ()
  grid : c.grid.validate = .ok ()

/-- The grid, where it is used, can set aside its buckets. -/
def SimConfig.Allocatable (c : SimConfig) : Prop := c.grid.enabled → c.grid.allocatable

theorem SimConfig.liftGeometry_eq_ok {α : Type} {x : Except GeometryError α} {a : α}
    (h : SimConfig.liftGeometry x = .ok a) : x = .ok a := by
  cases x with
  | error e => cases h
  | ok b =>
      cases h
      rfl

theorem SimConfig.valid_of_validate {c : SimConfig} (h : c.validate = .ok ()) : c.Valid := by
  unfold SimConfig.validate at h
  obtain ⟨⟨⟩, hb, h⟩ := bind_eq_ok_iff.mp h
  obtain ⟨⟨⟩, hm, h⟩ := bind_eq_ok_iff.mp h
  obtain ⟨⟨⟩, hg, -⟩ := bind_eq_ok_iff.mp h
  exact ⟨hb, hm, liftGeometry_eq_ok hg⟩

namespace Motion

/-- The lengths that a step may have. -/
def ValidStep (dt : Float) : Prop := dt.isFinite ∧ dt ≥ 0

theorem integrate_of_valid {c : SimConfig} (hc : c.Valid) {dt : Float} (h : ValidStep dt)
    (bodies : List Body) :
    integrate dt c.bounds c.motion bodies =
      .ok (bodies.map (advance dt (c.motion.kept dt) c.motion.gravity c.bounds)) := by
  have hcheck : check dt c.bounds c.motion = .ok () := by
    unfold ValidStep at h
    simp only [check, if_pos h, hc.bounds, hc.motion]
    rfl
  unfold integrate
  rw [hcheck]
  rfl

theorem integrate_of_invalid {dt : Float} (h : ¬ ValidStep dt) (bounds : Bounds)
    (params : MotionParams) (bodies : List Body) :
    integrate dt bounds params bodies = .error (.deltaTime dt) := by
  have hcheck : check dt bounds params = .error (.deltaTime dt) := by
    unfold ValidStep at h
    simp only [check, if_neg h]
    rfl
  unfold integrate
  rw [hcheck]
  rfl

end Motion

namespace Loop

/-! ### The parts of a tick -/

/-- What the work of a tick comes to. -/
def result (l : Loop) (dt : Float) : Allocated (Except SimulationError Draft) :=
  match Motion.integrate dt l.config.bounds l.config.motion l.applyEdits.bodies with
  | .error e => .ok (.error e)
  | .ok moved => (l.draft dt moved).map .ok

/-- Besides that the work of a tick only applies the edits. -/
theorem work_eq (l : Loop) (dt : Float) :
    l.work dt = (l.result dt).map fun r => (l.applyEdits, r) := by
  have happly : l.applyEdits.config = l.config := rfl
  unfold work result
  dsimp only
  rw [happly]
  cases Motion.integrate dt l.config.bounds l.config.motion l.applyEdits.bodies with
  | error e => rfl
  | ok moved =>
      show (l.draft dt moved >>= _) = ((l.draft dt moved).map Except.ok).map _
      cases l.draft dt moved with
      | error e => rfl
      | ok d => rfl

theorem step_eq (l : Loop) (dt : Float) (time : WorkTime) :
    l.step dt time = (l.result dt).map fun r =>
      match r with
      | .ok d => ((l.applyEdits.complete d time).1, .ok (l.applyEdits.complete d time).2)
      | .error e => (l.applyEdits, .error e) := by
  unfold step
  rw [work_eq]
  cases l.result dt with
  | error e => rfl
  | ok r =>
      cases r with
      | error e => rfl
      | ok d => rfl

theorem dt_of_result {l : Loop} {dt : Float} {d : Draft} (h : l.result dt = .ok (.ok d)) : d.dt = dt := by
  unfold result at h
  split at h
  · cases h
  · obtain ⟨d', hdraft, hd⟩ := map_eq_ok_iff.mp h
    cases hd
    obtain ⟨r, -, hr⟩ := bind_eq_ok_iff.mp hdraft
    cases hr
    rfl

/-- What a tick makes of a detection among the moved bodies. -/
def settle (l : Loop) (dt : Float) (moved : List Body) (grid : Grid) (found : Detection)
    (time : WorkTime) : Loop × Tick :=
  let bodies := (Contacts.reconcile moved found.pairs).1
  let energy := Energy.total l.config.motion.gravity l.config.referenceHeight bodies
  l.complete { dt, grid, bodies, found, energy } time

/-- The bodies after the edits and one step of motion. -/
def moved (l : Loop) (dt : Float) : List Body :=
  l.applyEdits.bodies.map
    (Motion.advance dt (l.config.motion.kept dt) l.config.motion.gravity l.config.bounds)

theorem step_of_valid {l : Loop} (hc : l.config.Valid) {dt : Float} (h : Motion.ValidStep dt)
    (time : WorkTime) :
    l.step dt time = (l.detect (l.moved dt)).map fun r =>
      ((l.applyEdits.settle dt (l.moved dt) r.1 r.2 time).1,
        .ok (l.applyEdits.settle dt (l.moved dt) r.1 r.2 time).2) := by
  have hresult : l.result dt = (l.draft dt (l.moved dt)).map .ok := by
    unfold result
    rw [Motion.integrate_of_valid hc h]
    rfl
  rw [step_eq, hresult]
  unfold draft
  cases l.detect (l.moved dt) with
  | error e => rfl
  | ok r => rfl

theorem step_of_detect {l : Loop} (hc : l.config.Valid) {dt : Float} (h : Motion.ValidStep dt)
    {grid : Grid} {found : Detection} (hd : l.detect (l.moved dt) = .ok (grid, found))
    (time : WorkTime) :
    l.step dt time = .ok ((l.applyEdits.settle dt (l.moved dt) grid found time).1,
      .ok (l.applyEdits.settle dt (l.moved dt) grid found time).2) := by
  rw [step_of_valid hc h, hd]
  rfl

theorem step_of_invalid (l : Loop) {dt : Float} (h : ¬ Motion.ValidStep dt) (time : WorkTime) :
    l.step dt time = .ok (l.applyEdits, .error (.deltaTime dt)) := by
  rw [step_eq]
  unfold result
  rw [Motion.integrate_of_invalid h]
  rfl

/-- Everything that a tick of a loop with valid settings can do. -/
theorem step_cases {l l' : Loop} (hc : l.config.Valid) {dt : Float} {time : WorkTime}
    {r : Except SimulationError Tick} (h : l.step dt time = .ok (l', r)) :
    (¬ Motion.ValidStep dt ∧ l' = l.applyEdits ∧ r = .error (.deltaTime dt)) ∨
    (Motion.ValidStep dt ∧ ∃ grid found tick, l.detect (l.moved dt) = .ok (grid, found) ∧
      l.applyEdits.settle dt (l.moved dt) grid found time = (l', tick) ∧ r = .ok tick) := by
  by_cases hdt : Motion.ValidStep dt
  · rw [step_of_valid hc hdt] at h
    obtain ⟨⟨grid, found⟩, hd, hsettle⟩ := map_eq_ok_iff.mp h
    cases hsettle
    exact .inr ⟨hdt, grid, found, _, hd, rfl, rfl⟩
  · rw [step_of_invalid l hdt] at h
    cases h
    exact .inl ⟨hdt, rfl, rfl⟩

/-! ### The loops that can be reached -/

/-- The loops that a fresh one with the given settings can become. -/
structure Sound (config : SimConfig) (l : Loop) : Prop where
  config_eq : l.config = config
  kept : l.grid.Kept config.grid
  coherent : l.Coherent

theorem make_eq_ok {config : SimConfig} {bodies : List Body} {l : Loop}
    (h : make config bodies = .ok l) :
    config.Valid ∧ l = { config, bodies, grid := { config := config.grid } } := by
  unfold make at h
  obtain ⟨⟨⟩, hv, h⟩ := bind_eq_ok_iff.mp h
  obtain ⟨grid, hg, h⟩ := bind_eq_ok_iff.mp h
  obtain ⟨-, rfl⟩ := Grid.make_eq_ok (SimConfig.liftGeometry_eq_ok hg)
  cases h
  exact ⟨SimConfig.valid_of_validate hv, rfl⟩

theorem sound_make {config : SimConfig} {bodies : List Body} {l : Loop}
    (h : make config bodies = .ok l) : Sound config l := by
  obtain ⟨-, rfl⟩ := make_eq_ok h
  exact ⟨rfl, Grid.kept_empty config.grid, rfl, rfl, rfl⟩

variable {config : SimConfig} {l : Loop}

/-- With the grid or without it, a detection finds the pairs that testing every pair finds, and
makes at most as many tests. -/
theorem Sound.detect_eq_ok (h : Sound config l) (hc : config.Valid) {bodies : List Body}
    {grid : Grid} {found : Detection} (hd : l.detect bodies = .ok (grid, found)) :
    let all := Detection.exhaustive (Contacts.dynamicRects bodies)
    grid.Kept config.grid ∧ found.pairs = all.pairs ∧ found.checks ≤ all.checks ∧
      (¬ config.grid.enabled → found = all) := by
  intro all
  unfold detect at hd
  split_ifs at hd with henabled
  · rw [h.config_eq] at henabled
    obtain ⟨built, hbuilt, hcollect⟩ := Grid.detect_eq_ok hd
    obtain ⟨hk, hh⟩ := h.kept.of_rebuild hbuilt
    cases hcollect
    refine ⟨hk.remarked _, ?_, hh.filed.collect_checks_le hh.size.symm, fun hne => absurd henabled hne⟩
    exact (hh.collect_listsOverlaps (hk.config_eq ▸ hc.grid)).unique
      (Detection.exhaustive_listsOverlaps _)
  · cases hd
    exact ⟨h.kept, rfl, le_rfl, fun _ => rfl⟩

theorem Sound.exists_detect (h : Sound config l) (halloc : config.Allocatable)
    (bodies : List Body) : ∃ grid found, l.detect bodies = .ok (grid, found) := by
  unfold detect
  split_ifs with henabled
  · have halloc' := halloc (h.config_eq ▸ henabled)
    obtain ⟨g, hg, -⟩ := h.kept.rebuild halloc' (Contacts.dynamicRects bodies)
    exact ⟨_, _, Grid.detect_of_rebuild hg⟩
  · exact ⟨_, _, rfl⟩

theorem Sound.applyEdits (h : Sound config l) : Sound config l.applyEdits :=
  ⟨h.config_eq, h.kept, h.coherent.of_eq rfl rfl rfl⟩

theorem Sound.withPhase (h : Sound config l) (p : Phase) : Sound config (l.withPhase p) :=
  ⟨h.config_eq, h.kept, (inPhase_withPhase l p).coherent⟩

theorem Sound.step (h : Sound config l) (hc : config.Valid) {dt : Float} {time : WorkTime} {l' : Loop}
    {r : Except SimulationError Tick} (hs : l.step dt time = .ok (l', r)) :
    Sound config l' ∧ l'.phase = l.phase := by
  have hc' : l.config.Valid := h.config_eq ▸ hc
  obtain ⟨-, rfl, -⟩ | ⟨-, grid, found, tick, hd, hl, -⟩ := step_cases hc' hs
  · exact ⟨h.applyEdits, rfl⟩
  · cases hl
    exact ⟨⟨h.config_eq, (h.detect_eq_ok hc hd).1, h.coherent.of_eq rfl rfl rfl⟩, rfl⟩

theorem Sound.exists_step (h : Sound config l) (hc : config.Valid) (halloc : config.Allocatable)
    (dt : Float) (time : WorkTime) :
    ∃ l' r, l.step dt time = .ok (l', r) ∧ (Motion.ValidStep dt → ∃ tick, r = .ok tick) := by
  have hc' : l.config.Valid := h.config_eq ▸ hc
  by_cases hdt : Motion.ValidStep dt
  · obtain ⟨grid, found, hd⟩ := h.exists_detect halloc (l.moved dt)
    exact ⟨_, _, step_of_detect hc' hdt hd time, fun _ => ⟨_, rfl⟩⟩
  · exact ⟨_, _, step_of_invalid l hdt time, fun h => absurd h hdt⟩

end Loop

/-! ### The length of a frame -/

open Binary64

/-- The end of the clock: its seconds have 64 bits. -/
def Instant.limit : ℕ := 2 ^ 64 * 10 ^ 9

theorem valid_elapsed (since : ℕ) {now : ℕ} (h : now < Instant.limit) :
    Motion.ValidStep (deltaTimeUnits (Clock.elapsedMs since now)) := by
  unfold Instant.limit at h
  have hseconds : Within 64 (Float.ofNat ((now - since) / 10 ^ 9)) :=
    within_ofNat (by omega) (by omega)
  have hrest : Within 64 (Float.ofNat ((now - since) % 10 ^ 9) / 1e9) :=
    (within_ofNat (by omega) (by omega)).div (by omega) (by decide) (by decide)
  have hthousand : Within 10 1000 := within_ofNat (n := 1000) (by omega) (by omega)
  have hunits : Within 75 (deltaTimeUnits (Clock.elapsedMs since now)) :=
    ((hseconds.add hrest (by omega)).mul hthousand (by omega)).div (by omega) (by decide) (by decide)
  exact ⟨hunits.isFinite, hunits.nonneg⟩

end Broadphase
