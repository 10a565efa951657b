import Broadphase.Proofs.Grid.Freshness
import Broadphase.Proofs.Simulation.FrameProtocol
import Broadphase.Proofs.Simulation.Reachable

/-! # The choice of the detector does not show

Two sessions over the same bodies whose settings differ in the grid only go through the same states
and give the same answers, operation by operation.  What may differ is the grid itself, and of the
counters the number of tests and the time that the work took: `Loop.withDetector` replaces exactly these.
Every operation commutes with it, whatever the clock shows around the work (`perform_withDetector`), so
every run does (`detector_choice`). -/

namespace Broadphase

/-! ### What may differ -/

/-- The counters of a tick that tell how it was worked out and not what came of it. -/
structure Effort where
  checks : ℕ
  lastFrameMs : Float

/-- The same counters with another effort. -/
def Stats.withEffort (s : Stats) (e : Effort) : Stats :=
  { s with checks := e.checks, lastFrameMs := e.lastFrameMs }

/-- The same loop with another grid and another effort in its counters. -/
def Loop.withDetector (l : Loop) (settings : GridConfig) (grid : Grid) (e : Effort) : Loop :=
  { l with config := { l.config with grid := settings }, grid, stats := l.stats.withEffort e }

/-- The same session with another grid and another effort in the counters of its loop. -/
def Session.withDetector (s : Session) (settings : GridConfig) (grid : Grid) (e : Effort) : Session :=
  { s with loop := s.loop.withDetector settings grid e }

/-- The same tick with another effort in its counters. -/
def Tick.withEffort (t : Tick) (e : Effort) : Tick where
  stats := t.stats.withEffort e
  report? := t.report?.map fun r => { r with stats := r.stats.withEffort e }

/-- The same outcome with another effort in the counters of its tick. -/
def SessionOutcome.withEffort (o : SessionOutcome) (e : Effort) : SessionOutcome :=
  match o with
  | .ticked t => .ticked (t.withEffort e)
  | o => o

/-- The same operation with other clock readings around its work. -/
def SessionOp.retimed (op : SessionOp) (time : WorkTime) : SessionOp :=
  match op with
  | .frame handle now _ => .frame handle now time
  | .step dt _ => .step dt time
  | op => op

/-- Operations that differ in the clock readings around their work at most. -/
def SessionOp.Retimes (op op' : SessionOp) : Prop := ∃ time, op' = op.retimed time

/-- A grid makes at most as many tests as there are without one. -/
def TestOrder (a b : GridConfig) (n m : ℕ) : Prop :=
  (a.enabled → ¬ b.enabled → n ≤ m) ∧ (b.enabled → ¬ a.enabled → m ≤ n)

/-- Outcomes that differ in the effort at most, and in the number of tests as the grids do. -/
def SessionOutcome.Matches (a b : GridConfig) (o o' : SessionOutcome) : Prop :=
  ∃ e, o' = o.withEffort e ∧ ∀ t, o = .ticked t → TestOrder a b t.stats.checks e.checks

/-- Settings with the given grid are as fit for a simulation as those with their own. -/
structure Alternatives (config : SimConfig) (settings : GridConfig) : Prop where
  valid : config.Valid
  valid' : SimConfig.Valid { config with grid := settings }
  allocatable : config.Allocatable
  allocatable' : SimConfig.Allocatable { config with grid := settings }

/-- The loop and its twin with another grid are both sound, and their counters compare. -/
structure Twins (config : SimConfig) (settings : GridConfig) (l : Loop) (g : Grid) (e : Effort) :
    Prop where
  sound : l.Sound config
  sound' : (l.withDetector settings g e).Sound { config with grid := settings }
  tests : TestOrder config.grid settings l.stats.checks e.checks

theorem Twins.congr {config : SimConfig} {settings : GridConfig} {l l₁ : Loop} {g : Grid} {e : Effort}
    (h : Twins config settings l g e) (hl : l₁.Coherent) (hc : l₁.config = l.config)
    (hg : l₁.grid = l.grid) (hn : l₁.stats.checks = l.stats.checks) : Twins config settings l₁ g e where
  sound := ⟨hc.trans h.sound.config_eq, hg ▸ h.sound.kept, hl⟩
  sound' := by
    refine ⟨?_, h.sound'.kept, hl.of_eq rfl rfl rfl⟩
    show { l₁.config with grid := settings } = _
    rw [hc]
    exact h.sound'.config_eq
  tests := hn ▸ h.tests

/-! ### One tick -/

namespace Loop

variable {config : SimConfig} {settings : GridConfig} {l : Loop} {g : Grid} {e : Effort}

theorem detect_agree {config' : SimConfig} {l' : Loop} (hs : l.Sound config) (hc : config.Valid)
    (hs' : l'.Sound config') (hc' : config'.Valid) {bodies : List Body} {grid grid' : Grid}
    {found found' : Detection} (hd : l.detect bodies = .ok (grid, found))
    (hd' : l'.detect bodies = .ok (grid', found')) :
    found'.pairs = found.pairs ∧ TestOrder config.grid config'.grid found.checks found'.checks := by
  obtain ⟨-, hpairs, hle, hall⟩ := hs.detect_eq_ok hc hd
  obtain ⟨-, hpairs', hle', hall'⟩ := hs'.detect_eq_ok hc' hd'
  refine ⟨hpairs'.trans hpairs.symm, ?_, ?_⟩
  · intro _ hdisabled
    rw [hall' hdisabled]
    exact hle
  · intro _ hdisabled
    rw [hall hdisabled]
    exact hle'

theorem settle_withDetector (l : Loop) (settings : GridConfig) (g : Grid) (e : Effort) (dt : Float)
    (moved : List Body) (grid grid' : Grid) {found found' : Detection} (time time' : WorkTime)
    (h : found'.pairs = found.pairs) :
    let e' : Effort := ⟨found'.checks, Clock.elapsedMs time'.began time'.ended⟩
    (l.withDetector settings g e).settle dt moved grid' found' time' =
      ((l.settle dt moved grid found time).1.withDetector settings grid' e',
        (l.settle dt moved grid found time).2.withEffort e') := by
  obtain ⟨found, checks⟩ := found
  obtain ⟨found', checks'⟩ := found'
  obtain rfl : found' = found := h
  obtain ⟨config, bodies, _, state, awaited?, since?, pairs, edits, rate, stats, ticks, observer?⟩ := l
  cases observer? with
  | none => rfl
  | some o => rfl

/-- With a grid the candidates are tested, whatever the grid has been used for. -/
theorem Sound.checks_of_detect (h : l.Sound config) (halloc : config.Allocatable)
    (henabled : config.grid.enabled) {bodies : List Body} {grid : Grid} {found : Detection}
    (hd : l.detect bodies = .ok (grid, found)) :
    found.checks = (Grid.candidatePairs config.grid (Contacts.dynamicRects bodies)).length := by
  obtain ⟨g, hg⟩ := h.kept.exists_detect (halloc henabled) (Contacts.dynamicRects bodies)
  unfold detect at hd
  rw [if_pos (h.config_eq ▸ henabled)] at hd
  cases hg.symm.trans hd
  rfl

/-- A tick of the twin is the twin of the tick, however long the work took. -/
theorem step_withDetector (ha : Alternatives config settings) (h : Twins config settings l g e)
    (dt : Float) (time time' : WorkTime) :
    ∃ l₁ r g₁ e₁, l.step dt time = .ok (l₁, r) ∧
      (l.withDetector settings g e).step dt time' =
        .ok (l₁.withDetector settings g₁ e₁, r.map (Tick.withEffort · e₁)) ∧
      Twins config settings l₁ g₁ e₁ ∧ ∀ t, r = .ok t → t.stats.checks = l₁.stats.checks := by
  have hc : l.config.Valid := h.sound.config_eq ▸ ha.valid
  have hc' : (l.withDetector settings g e).config.Valid := h.sound'.config_eq ▸ ha.valid'
  by_cases hdt : Motion.ValidStep dt
  · obtain ⟨grid, found, hd⟩ := h.sound.exists_detect ha.allocatable (l.moved dt)
    obtain ⟨grid', found', hd'⟩ := h.sound'.exists_detect ha.allocatable' (l.moved dt)
    obtain ⟨hpairs, htests⟩ := detect_agree h.sound ha.valid h.sound' ha.valid' hd hd'
    have hstep := step_of_detect hc hdt hd time
    have hstep' : (l.withDetector settings g e).step dt time' =
        .ok (((l.applyEdits.withDetector settings g e).settle dt (l.moved dt) grid' found' time').1,
          .ok ((l.applyEdits.withDetector settings g e).settle dt (l.moved dt) grid' found' time').2) :=
      step_of_detect hc' hdt hd' time'
    rw [settle_withDetector l.applyEdits settings g e dt (l.moved dt) grid grid' time time' hpairs]
      at hstep'
    refine ⟨_, _, grid', _, hstep, hstep', ?_, ?_⟩
    · exact ⟨(h.sound.step ha.valid hstep).1, (h.sound'.step ha.valid' hstep').1, htests⟩
    · rintro t ht
      cases ht
      rfl
  · refine ⟨_, _, g, e, step_of_invalid l hdt time, step_of_invalid _ hdt time', ?_, ?_⟩
    · exact ⟨h.sound.applyEdits, h.sound'.applyEdits, h.tests⟩
    · rintro t ht
      cases ht

end Loop

namespace Session

variable {config : SimConfig} {settings : GridConfig} {s : Session} {g : Grid} {e : Effort}

/-! ### One operation -/

/-- The same was done with a session and with its twin: the results are twins again. -/
def Parallel (config : SimConfig) (settings : GridConfig)
    (x x' : Allocated (Session × SessionOutcome)) : Prop :=
  ∃ s o g e, x = .ok (s, o) ∧ x' = .ok (s.withDetector settings g e, o.withEffort e) ∧
    Twins config settings s.loop g e ∧ ∀ t, o = .ticked t → t.stats.checks = s.loop.stats.checks

theorem frame_withDetector (ha : Alternatives config settings)
    (h : Twins config settings s.loop g e) (handle : FrameHandle) (now : Instant)
    (time time' : WorkTime) :
    Parallel config settings (s.frame handle now time)
      ((s.withDetector settings g e).frame handle now time') := by
  by_cases hawaits : s.loop.awaits handle
  · obtain ⟨l₁, r, g₁, e₁, hstep, hstep', htwins, hchecks⟩ :=
      Loop.step_withDetector ha h (s.loop.frameLength now) time time'
    have hframe := frame_of_awaits hawaits now time
    have hframe' := frame_of_awaits (s := s.withDetector settings g e) hawaits now time'
    have hlength : (s.withDetector settings g e).loop.frameLength now = s.loop.frameLength now := rfl
    rw [hstep] at hframe
    rw [hlength, show (s.withDetector settings g e).loop.step _ time' = _ from hstep'] at hframe'
    cases r with
    | ok tick =>
        refine ⟨_, _, g₁, e₁, hframe, hframe', ?_, ?_⟩
        · exact htwins.congr (Loop.inPhase_withPhase _ _).coherent rfl rfl rfl
        · intro t ht
          cases ht
          exact hchecks tick rfl
    | error err =>
        refine ⟨_, _, g₁, e₁, hframe, hframe', ?_, nofun⟩
        exact htwins.congr (Loop.inPhase_withPhase _ _).coherent rfl rfl rfl
  · exact ⟨s, .ignored, g, e, frame_of_not_awaits hawaits now time,
      frame_of_not_awaits (s := s.withDetector settings g e) hawaits now time', h, nofun⟩

/-- What does not run a tick leaves the grid and the counters alone. -/
theorem parallel_of_quiet {s₁ : Session} {o : SessionOutcome} (h : Twins config settings s.loop g e)
    (hl : s₁.loop.Coherent) (hc : s₁.loop.config = s.loop.config) (hg : s₁.loop.grid = s.loop.grid)
    (hn : s₁.loop.stats = s.loop.stats) (ho : ∀ t, o ≠ .ticked t) :
    Parallel config settings (.ok (s₁, o)) (.ok (s₁.withDetector settings g e, o)) := by
  have ho' : o.withEffort e = o := by
    cases o with
    | ticked t => exact absurd rfl (ho t)
    | _ => rfl
  refine ⟨s₁, o, g, e, rfl, ?_, h.congr hl hc hg (by rw [hn]), fun t ht => absurd ht (ho t)⟩
  rw [ho']

/-- Every operation on the twin is the twin of the operation, however long the work took. -/
theorem perform_withDetector (ha : Alternatives config settings)
    (h : Twins config settings s.loop g e) {op op' : SessionOp} (hop : op.Retimes op') :
    Parallel config settings (s.perform op) ((s.withDetector settings g e).perform op') := by
  obtain ⟨time', rfl⟩ := hop
  have hco : s.loop.Coherent := h.sound.coherent
  have hco' : (s.withDetector settings g e).loop.Coherent := h.sound'.coherent
  cases op with
  | start now =>
      show Parallel config settings (s.perform (.start now))
        ((s.withDetector settings g e).perform (.start now))
      rw [perform_start, perform_start]
      cases hp : s.loop.phase with
      | stopped =>
          rw [Loop.start_of_stopped (hco.inPhase hp), Loop.start_of_stopped (hco'.inPhase hp)]
          exact parallel_of_quiet h (Loop.inPhase_withPhase _ _).coherent rfl rfl rfl nofun
      | running handle t =>
          rw [Loop.start_of_running (hco.inPhase hp), Loop.start_of_running (hco'.inPhase hp)]
          exact parallel_of_quiet h hco rfl rfl rfl nofun
  | stop =>
      show Parallel config settings (s.perform .stop) ((s.withDetector settings g e).perform .stop)
      rw [perform_stop, perform_stop]
      cases hp : s.loop.phase with
      | stopped =>
          rw [Loop.stop_of_stopped (hco.inPhase hp), Loop.stop_of_stopped (hco'.inPhase hp)]
          exact parallel_of_quiet h hco rfl rfl rfl nofun
      | running handle t =>
          rw [Loop.stop_of_running (hco.inPhase hp), Loop.stop_of_running (hco'.inPhase hp)]
          exact parallel_of_quiet h (Loop.inPhase_withPhase _ _).coherent rfl rfl rfl nofun
  | frame handle now time => exact frame_withDetector ha h handle now time time'
  | step dt time =>
      obtain ⟨l₁, r, g₁, e₁, hstep, hstep', htwins, hchecks⟩ :=
        Loop.step_withDetector ha h dt time time'
      show Parallel config settings (s.loop.step dt time >>= _)
        ((s.loop.withDetector settings g e).step dt time' >>= _)
      rw [hstep, hstep']
      cases r with
      | ok tick =>
          refine ⟨{ s with loop := l₁ }, .ticked tick, g₁, e₁, rfl, rfl, htwins, ?_⟩
          intro t ht
          cases ht
          exact hchecks tick rfl
      | error err => exact ⟨{ s with loop := l₁ }, .failed err, g₁, e₁, rfl, rfl, htwins, nofun⟩
  | enqueue edit => exact parallel_of_quiet h (hco.of_eq rfl rfl rfl) rfl rfl rfl nofun
  | observe o => exact parallel_of_quiet h (hco.of_eq rfl rfl rfl) rfl rfl rfl nofun
  | request => exact parallel_of_quiet h hco rfl rfl rfl nofun
  | cancel handle => exact parallel_of_quiet h hco rfl rfl rfl nofun
  | takeDue => exact parallel_of_quiet h hco rfl rfl rfl nofun

/-! ### Whole runs -/

theorem run_withDetector (ha : Alternatives config settings)
    (h : Twins config settings s.loop g e) {ops ops' : List SessionOp}
    (hops : List.Forall₂ SessionOp.Retimes ops ops') :
    ∃ s' outcomes outcomes' g' e', s.run ops = .ok (s', outcomes) ∧
      (s.withDetector settings g e).run ops' = .ok (s'.withDetector settings g' e', outcomes') ∧
      Twins config settings s'.loop g' e' ∧
      List.Forall₂ (SessionOutcome.Matches config.grid settings) outcomes outcomes' := by
  induction hops generalizing s g e with
  | nil => exact ⟨s, [], [], g, e, rfl, rfl, h, .nil⟩
  | cons hop _ ih =>
      obtain ⟨s₁, o, g₁, e₁, h₁, h₁', htwins, hchecks⟩ := perform_withDetector ha h hop
      obtain ⟨s₂, os, os', g₂, e₂, h₂, h₂', htwins', hmatch⟩ := ih htwins
      refine ⟨s₂, o :: os, o.withEffort e₁ :: os', g₂, e₂, ?_, ?_, htwins', .cons ?_ hmatch⟩
      · exact bind_eq_ok_iff.mpr ⟨_, h₁, bind_eq_ok_iff.mpr ⟨_, h₂, rfl⟩⟩
      · exact bind_eq_ok_iff.mpr ⟨_, h₁', bind_eq_ok_iff.mpr ⟨_, h₂', rfl⟩⟩
      · exact ⟨e₁, rfl, fun t ht => hchecks t ht ▸ htwins.tests⟩

/-- **The choice of the detector does not show.**  Loops over the same bodies whose settings differ in
the grid only, driven by the same operations, end in the same state with the same outcomes, but for
the grid, the number of tests and the time that the work took, which the clock tells for each loop on its
own; and on every tick a loop with a grid makes at most as many tests as one without. -/
theorem detector_choice {bodies : List Body} {loop loop' : Loop}
    (hmake : Loop.make config bodies = .ok loop)
    (hmake' : Loop.make { config with grid := settings } bodies = .ok loop')
    (halloc : config.Allocatable)
    (halloc' : SimConfig.Allocatable { config with grid := settings }) {ops ops' : List SessionOp}
    (hops : List.Forall₂ SessionOp.Retimes ops ops') :
    ∃ s outcomes outcomes' g e, Session.run { loop } ops = .ok (s, outcomes) ∧
      Session.run { loop := loop' } ops' =
        .ok ({ s with loop := s.loop.withDetector settings g e }, outcomes') ∧
      TestOrder config.grid settings s.loop.stats.checks e.checks ∧
      List.Forall₂ (SessionOutcome.Matches config.grid settings) outcomes outcomes' := by
  obtain ⟨hc, rfl⟩ := Loop.make_eq_ok hmake
  obtain ⟨hc', rfl⟩ := Loop.make_eq_ok hmake'
  have htwins : Twins config settings { config, bodies, grid := { config := config.grid } }
      { config := settings } ⟨0, 0⟩ :=
    ⟨Loop.sound_make hmake, Loop.sound_make hmake', fun _ _ => le_rfl, fun _ _ => le_rfl⟩
  obtain ⟨s, outcomes, outcomes', g, e, hrun, hrun', h, hmatch⟩ :=
    run_withDetector (s := { loop := _ }) ⟨hc, hc', halloc, halloc'⟩ htwins hops
  exact ⟨s, outcomes, outcomes', g, e, hrun, hrun', h.tests, hmatch⟩

/-- The number of tests that a completed tick of a loop with a grid shows. -/
theorem checks_of_ticked (hs : s.loop.Sound config) (hc : config.Valid) (halloc : config.Allocatable)
    (henabled : config.grid.enabled) {s' : Session} {op : SessionOp} {tick : Tick}
    (h : s.perform op = .ok (s', .ticked tick)) :
    ∃ dt, s.tickLength? op = some dt ∧ s'.loop.stats.checks =
      (Grid.candidatePairs config.grid (Contacts.dynamicRects (s.loop.moved dt))).length := by
  obtain ⟨dt, l, hdt, hstep, hloop⟩ := perform_ticked h
  have hc' : s.loop.config.Valid := hs.config_eq ▸ hc
  obtain ⟨-, -, hr⟩ | ⟨-, grid, found, t, hd, hsettle, -⟩ := Loop.step_cases hc' hstep
  · cases hr
  · refine ⟨dt, hdt, ?_⟩
    cases hsettle
    rw [hloop]
    exact hs.checks_of_detect halloc henabled hd

/-- Two bodies that overlap and a third one far away. -/
def strangerAndPair : List Body :=
  [⟨1, ⟨0, 0, 10, 10, by decide⟩, 1, 0, 1, false, false, by decide⟩,
    ⟨2, ⟨5, 5, 10, 10, by decide⟩, 0, 1, 1, false, false, by decide⟩,
    ⟨3, ⟨400, 300, 10, 10, by decide⟩, 0, 0, 1, false, false, by decide⟩]

/-- A loop with the standard grid and one without a grid, on clocks that do not agree: both find the
pair, with one test and with three. -/
theorem detector_choice_disabled :
    ∃ loop loop' s s' outcomes outcomes', Loop.make {} strangerAndPair = .ok loop ∧
      Loop.make { grid := { enabled := false } } strangerAndPair = .ok loop' ∧
      Session.run { loop } [.start 0, .frame 1 16670000 ⟨0, 3000000⟩] = .ok (s, outcomes) ∧
      Session.run { loop := loop' } [.start 0, .frame 1 16670000 ⟨0, 8000000⟩] = .ok (s', outcomes') ∧
      s'.loop.bodies = s.loop.bodies ∧ s.loop.ticks = 1 ∧
      s.loop.pairs = [⟨0, 1, by decide⟩] ∧ s'.loop.pairs = [⟨0, 1, by decide⟩] ∧
      s.loop.stats.collisions = 1 ∧ s'.loop.stats.collisions = 1 ∧
      s.loop.stats.checks = 1 ∧ s'.loop.stats.checks = 3 := by
  have hmake : Loop.make {} strangerAndPair =
      .ok { config := {}, bodies := strangerAndPair, grid := { config := {} } } := rfl
  have hmake' : Loop.make { grid := { enabled := false } } strangerAndPair =
      .ok { config := { grid := { enabled := false } }, bodies := strangerAndPair,
            grid := { config := { enabled := false } } } := rfl
  have halloc : SimConfig.Allocatable {} := fun _ => by decide
  have hops : List.Forall₂ SessionOp.Retimes [.start 0, .frame 1 16670000 ⟨0, 3000000⟩]
      [.start 0, .frame 1 16670000 ⟨0, 8000000⟩] :=
    .cons ⟨{}, rfl⟩ (.cons ⟨⟨0, 8000000⟩, rfl⟩ .nil)
  obtain ⟨s, outcomes, outcomes', g, e, hrun, hrun', -, -⟩ :=
    detector_choice hmake hmake' halloc (fun _ => by decide) hops
  -- the loop without a grid can be run here, and but for its effort the other one ends as it does
  have hplain : (Session.run
      { loop :=
        { config := { grid := { enabled := false } }
          bodies := strangerAndPair
          grid := { config := { enabled := false } } } }
      [.start 0, .frame 1 16670000 ⟨0, 8000000⟩]).toOption.map
        (fun r => (r.1.loop.ticks, r.1.loop.pairs, r.1.loop.stats.collisions, r.1.loop.stats.checks)) =
      some (1, [⟨0, 1, by decide⟩], 1, 3) := by decide +kernel
  rw [hrun'] at hplain
  simp only [Except.toOption, Option.map_some, Option.some.injEq, Prod.mk.injEq] at hplain
  obtain ⟨hticks, hpairs, hcollisions, htests⟩ := hplain
  -- with the grid the frame after the start runs the only tick
  have hstart : Session.run
      { loop := { config := {}, bodies := strangerAndPair, grid := { config := {} } } } [.start 0] =
      .ok (_, [.done]) := rfl
  have hc : SimConfig.Valid {} := (Loop.make_eq_ok hmake).1
  have hstarted := run_sound hc (Loop.sound_make hmake) hstart
  have hnow : 16670000 < Instant.limit := by decide
  obtain ⟨s₂, tick, hframe, -⟩ := (ticked_of_awaited (h := 1) hc hstarted ⟨0, rfl⟩ hnow
    ⟨0, 3000000⟩).resolve_right fun h => h.1 halloc
  have hticked : Session.perform _ (.frame 1 16670000 ⟨0, 3000000⟩) = .ok (s₂, .ticked tick) := hframe
  have hrun₂ := run_concat hstart _ hticked
  obtain ⟨rfl, rfl⟩ := Prod.mk.inj (Except.ok.inj (hrun₂.symm.trans hrun))
  obtain ⟨dt, hdt, hchecks⟩ := checks_of_ticked hstarted hc halloc rfl hticked
  cases hdt
  exact ⟨_, _, _, _, _, _, hmake, hmake', hrun, hrun', rfl, hticks, hpairs, hpairs, hcollisions,
    hcollisions, hchecks.trans (by decide +kernel), htests⟩

end Session

end Broadphase
