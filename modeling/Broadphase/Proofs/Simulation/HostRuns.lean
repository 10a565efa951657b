import Broadphase.Proofs.Simulation.FrameProtocol
import Broadphase.Proofs.Simulation.Reachable
import Broadphase.Proofs.World
import Broadphase.Simulation.Host

/-! # Runs of a host

While a host runs its loop, the queue holds the frame that the loop waits for and no other
(`Session.Ready`).  Hence a delivery hands over one frame, which runs one tick and leaves the next frame
in the queue (`deliver_of_ready`), and the host takes one turn for each tick, however many turns it is
allowed (`exists_turns`, `runFrames_of_turns`).  A run ends as it began, with a stopped loop and an empty
queue, so it can be repeated (`Serving.resting`). -/

namespace Broadphase

theorem FrameQueue.pending_request {q : FrameQueue} (h : q.pending = []) :
    q.request.2.pending = [q.last + 1] := by
  show q.pending ++ [q.last + 1] = [q.last + 1]
  rw [h, List.nil_append]

theorem Protocol.next_of_ticked {p p' : Phase} {q q' : FrameQueue} {h : FrameHandle} {now : Instant}
    {time : WorkTime} {tick : Tick} (hp : Protocol p q (.frame h now time) (.ticked tick) p' q') :
    p' = .running (q.last + 1) now ∧ q' = q.request.2 := by
  cases hp with
  | tick => exact ⟨rfl, rfl⟩

namespace Session

/-- The loop waits for a frame, and that is the one frame in the queue. -/
structure Ready (config : SimConfig) (s : Session) : Prop where
  sound : s.loop.Sound config
  awaits : ∃ handle, s.loop.phase.Awaits handle ∧ s.queue.pending = [handle]

variable {config : SimConfig} {s : Session}

/-- The awaited frame, taken from the queue as its only one, runs a tick and leaves the next one
there. -/
theorem ready_of_awaited (hs : s.loop.Sound config) (hc : config.Valid) (halloc : config.Allocatable)
    {handle : FrameHandle} (hawaits : s.loop.phase.Awaits handle) (hempty : s.queue.pending = [])
    {now : Instant} (hnow : now < Instant.limit) (time : WorkTime) :
    ∃ s' tick, s.frame handle now time = .ok (s', .ticked tick) ∧ Ready config s' ∧
      s'.loop.ticks = s.loop.ticks + 1 := by
  obtain ⟨s', tick, hframe, hticks⟩ :=
    (ticked_of_awaited hc hs hawaits hnow time).resolve_right fun h => h.1 halloc
  have hperform : s.perform (.frame handle now time) = .ok (s', .ticked tick) := hframe
  obtain ⟨hs', hp⟩ := perform_protocol hs hc hperform
  obtain ⟨hphase, hqueue⟩ := hp.next_of_ticked
  refine ⟨s', tick, hframe, ⟨hs', _, ⟨now, hphase⟩, ?_⟩, hticks⟩
  rw [hqueue]
  exact FrameQueue.pending_request hempty

end Session

/-- No clock reading of a frame is later than a clock can show. -/
def Pacer.Timely {σ : Type} (pacer : Pacer (StateM σ)) : Prop :=
  ∀ interval w, ((pacer.nextFrame interval).run w).1 < Instant.limit

namespace Host

variable {σ : Type} {config : SimConfig} {pacer : Pacer (StateM σ)} {interval target n : ℕ}
  {s s' : Session} {w w' : σ}

/-! ### Turns of the loop of a host -/

/-- The host takes `n` turns.  In each of them there are frames to run, the queue delivers one frame,
and this frame runs a tick. -/
inductive Turns (pacer : Pacer (StateM σ)) (interval target : ℕ) :
    ℕ → Session → σ → Session → σ → Prop
  | none (s : Session) (w : σ) : Turns pacer interval target 0 s w s w
  | turn {n : ℕ} {s s₁ s' : Session} {w w₁ w' : σ} (handle : FrameHandle) (tick : Tick) :
      isActive target s = true → s.queue.takeDue.1 = [handle] →
      Completes (frame pacer interval s) w (s₁, [.ticked tick]) w₁ →
      s₁.loop.ticks = s.loop.ticks + 1 →
      Turns pacer interval target n s₁ w₁ s' w' → Turns pacer interval target (n + 1) s w s' w'

theorem isActive_of_ready (h : s.Ready config) (target : ℕ) :
    isActive target s = decide (s.loop.ticks < target) := by
  obtain ⟨handle, hawaits, -⟩ := h.awaits
  unfold isActive
  rw [h.sound.coherent.isRunning_iff.2.2.mpr ⟨handle, hawaits⟩, Bool.true_and]

/-- Handing over the awaited frame is the frame of the session, with the two clock readings that the
host makes around its work. -/
theorem handOver_of_awaits (pacer : Pacer (StateM σ)) {handle : FrameHandle}
    (hawaits : s.loop.awaits handle) (now : Instant) (w : σ) :
    ∃ time w', ∀ s' o, s.frame handle now time = .ok (s', o) →
      Completes (handOver pacer now s handle) w (s', o) w' := by
  refine ⟨⟨(pacer.now.run w).1, (pacer.now.run (pacer.now.run w).2).1⟩,
    (pacer.now.run (pacer.now.run w).2).2, ?_⟩
  intro s' o hframe
  unfold Session.frame at hframe
  unfold handOver
  rw [if_pos hawaits] at hframe ⊢
  obtain ⟨⟨loop, result⟩, hbegin, hend⟩ := bind_eq_ok_iff.mp hframe
  cases hend
  have hwork : Completes (ExceptT.mk (pure (s.loop.beginFrame now))) (pacer.now.run w).2 (loop, result)
      (pacer.now.run w).2 := by
    rw [hbegin]
    exact completes_mk _ _
  exact (completes_lift _ w).bind
    (hwork.bind ((completes_lift pacer.now _).bind (completes_pure _ _)))

/-- A delivery hands over one frame, which runs a tick. -/
theorem deliver_of_ready (h : s.Ready config) (hc : config.Valid) (halloc : config.Allocatable)
    {now : Instant} (hnow : now < Instant.limit) (w : σ) :
    ∃ s' tick w', Completes (deliver pacer now s) w (s', [.ticked tick]) w' ∧ s'.Ready config ∧
      s'.loop.ticks = s.loop.ticks + 1 := by
  obtain ⟨hs, handle, hp, hpending⟩ := h
  have hawaits : s.loop.awaits handle := (hs.coherent.awaits_iff handle).mpr hp
  -- the frame runs when it is no longer in the queue
  obtain ⟨time, w', hover⟩ := handOver_of_awaits pacer
    (s := { s with queue := s.queue.takeDue.2 }) hawaits now w
  obtain ⟨s', tick, hframe, hready, hticks⟩ := Session.ready_of_awaited
    (s := { s with queue := s.queue.takeDue.2 }) hs hc halloc hp rfl hnow time
  refine ⟨s', tick, w', ?_, hready, hticks⟩
  show Completes (handOverAll pacer now s.queue.pending _) w _ w'
  rw [hpending]
  exact (hover s' _ hframe).bind ((completes_pure _ _).bind (completes_pure _ _))

/-- One turn: a session that is ready runs one tick and is ready again. -/
theorem frame_of_ready (h : s.Ready config) (hc : config.Valid) (halloc : config.Allocatable)
    (htimely : pacer.Timely) (interval : ℕ) (w : σ) :
    ∃ s' tick w', Completes (frame pacer interval s) w (s', [.ticked tick]) w' ∧ s'.Ready config ∧
      s'.loop.ticks = s.loop.ticks + 1 := by
  obtain ⟨s', tick, w', hdeliver, hready, hticks⟩ := deliver_of_ready h hc halloc (htimely interval w)
    ((pacer.nextFrame interval).run w).2
  exact ⟨s', tick, w', (completes_lift _ w).bind hdeliver, hready, hticks⟩

/-- From a session that is ready, the host takes as many turns as ticks are missing. -/
theorem exists_turns (hc : config.Valid) (halloc : config.Allocatable) (htimely : pacer.Timely)
    (interval n : ℕ) (h : s.Ready config) (w : σ) :
    ∃ s' w', Turns pacer interval (s.loop.ticks + n) n s w s' w' ∧ s'.Ready config ∧
      s'.loop.ticks = s.loop.ticks + n := by
  induction n generalizing s w with
  | zero => exact ⟨s, w, .none s w, h, rfl⟩
  | succ n ih =>
      obtain ⟨s₁, tick, w₁, hframe, h₁, hticks⟩ := frame_of_ready h hc halloc htimely interval w
      obtain ⟨s', w', hturns, h', hticks'⟩ := ih h₁ w₁
      obtain ⟨handle, -, hpending⟩ := h.awaits
      -- the target stays where it is while the ticks come nearer
      have htarget : s₁.loop.ticks + n = s.loop.ticks + (n + 1) := by omega
      rw [htarget] at hturns hticks'
      refine ⟨s', w', .turn handle tick ?_ hpending hframe hticks hturns, h', hticks'⟩
      rw [isActive_of_ready h, decide_eq_true_eq]
      omega

theorem runFrames_of_not_active (h : isActive target s = false) (n : ℕ) (w : σ) :
    Completes (runFrames pacer interval target n s) w (s, none) w := by
  cases n with
  | zero => exact completes_pure _ w
  | succ n =>
      unfold runFrames
      rw [h]
      exact completes_pure _ w

/-- The loop of the host takes just these turns if no frames are left to run after them, also if it is
allowed more. -/
theorem runFrames_of_turns (h : Turns pacer interval target n s w s' w')
    (hend : isActive target s' = false) (extra : ℕ) :
    Completes (runFrames pacer interval target (n + extra) s) w (s', none) w' := by
  induction h with
  | none s w => exact runFrames_of_not_active hend _ w
  | @turn n s s₁ s' w w₁ w' handle tick hactive _ hframe _ _ ih =>
      rw [Nat.add_right_comm]
      unfold runFrames
      rw [hactive]
      exact hframe.bind (ih hend)

/-! ### Whole runs -/

/-- The session with which a run begins. -/
def started (h : Host) (l : Loop) (now : Instant) : Session :=
  ⟨(l.start now h.queue).1, (l.start now h.queue).2⟩

/-- A host and its loop between two runs: the loop is stopped and no frame is pending. -/
structure Resting (config : SimConfig) (h : Host) (l : Loop) : Prop where
  sound : l.Sound config
  stopped : l.InPhase .stopped
  idle : h.queue.pending = []

variable {h : Host} {l : Loop}

theorem Resting.started (hr : Resting config h l) (now : Instant) :
    (h.started l now).Ready config ∧ (h.started l now).loop.ticks = l.ticks ∧
      (h.started l now).loop.stats = l.stats := by
  unfold Host.started
  rw [Loop.start_of_stopped hr.stopped]
  refine ⟨⟨⟨hr.sound.config_eq, hr.sound.kept, (Loop.inPhase_withPhase _ _).coherent⟩, _, ⟨now, rfl⟩, ?_⟩,
    rfl, rfl⟩
  exact FrameQueue.pending_request hr.idle

/-- Stopping a session that is ready empties its queue. -/
theorem resting_of_ready (hs : s.Ready config) (interval : ℕ) :
    Resting config ⟨interval, (s.loop.stop s.queue).2⟩ (s.loop.stop s.queue).1 ∧
      (s.loop.stop s.queue).1.ticks = s.loop.ticks ∧
      (s.loop.stop s.queue).1.stats = s.loop.stats := by
  obtain ⟨handle, ⟨since, hphase⟩, hpending⟩ := hs.awaits
  rw [Loop.stop_of_running (hs.sound.coherent.inPhase hphase)]
  refine ⟨⟨hs.sound.withPhase .stopped, Loop.inPhase_withPhase _ _, ?_⟩, rfl, rfl⟩
  show s.queue.pending.filter (· ≠ handle) = []
  rw [hpending]
  simp

theorem run_of_turns {l : Loop} (hturns : Turns pacer h.interval (l.ticks + n) n
    (h.started l (pacer.now.run w).1) (pacer.now.run w).2 s w')
    (hend : isActive (l.ticks + n) s = false) :
    Completes (h.run pacer l n) w
      (({ h with queue := (s.loop.stop s.queue).2 }, (s.loop.stop s.queue).1),
        .ok (s.loop.stop s.queue).1.stats) w' :=
  (completes_lift pacer.now w).bind
    ((runFrames_of_turns hturns hend 0).bind (completes_pure _ w'))

theorem Resting.exists_run (hr : Resting config h l) (hc : config.Valid)
    (halloc : config.Allocatable) (htimely : pacer.Timely) (n : ℕ) (w : σ) :
    ∃ s w', Turns pacer h.interval (l.ticks + n) n (h.started l (pacer.now.run w).1)
        (pacer.now.run w).2 s w' ∧
      isActive (l.ticks + n) s = false ∧ s.Ready config ∧ s.loop.ticks = l.ticks + n := by
  obtain ⟨hready, hticks, -⟩ := hr.started (pacer.now.run w).1
  obtain ⟨s, w', hturns, hs, hs'⟩ :=
    exists_turns hc halloc htimely h.interval n hready (pacer.now.run w).2
  rw [hticks] at hturns hs'
  refine ⟨s, w', hturns, ?_, hs, hs'⟩
  rw [isActive_of_ready hs, hs', decide_eq_false_iff_not]
  exact Nat.lt_irrefl _

/-! ### Run after run -/

/-- A host and its loop after any runs.  The loop is stopped when the host is first given it; between
the runs anything may be done to it that leaves it stopped, with any queue. -/
inductive Serving (config : SimConfig) : Host → Loop → Prop
  | begun {s : Session} (interval : ℕ) :
      s.Reachable config → s.loop.state = .stopped → Serving config { interval } s.loop
  | used {h : Host} {l : Loop} {s : Session} {os : List SessionOutcome} (queue : FrameQueue)
      (ops : List SessionOp) :
      Serving config h l → Session.run ⟨l, queue⟩ ops = .ok (s, os) → s.loop.state = .stopped →
      Serving config h s.loop
  | ran {h h' : Host} {l l' : Loop} {σ : Type} {pacer : Pacer (StateM σ)} {n : ℕ} {w w' : σ}
      {r : Except SimulationError Stats} :
      Serving config h l → pacer.Timely → Completes (h.run pacer l n) w ((h', l'), r) w' →
      Serving config h' l'

theorem Serving.resting (hserving : Serving config h l) (halloc : config.Allocatable) :
    config.Valid ∧ Resting config h l := by
  induction hserving with
  | begun interval hs hstopped =>
      obtain ⟨hc, hsound⟩ := hs.sound
      exact ⟨hc, hsound, hsound.coherent.inPhase_stopped hstopped, rfl⟩
  | used queue ops _ hrun hstopped ih =>
      obtain ⟨hc, hr⟩ := ih
      have hsound := Session.run_sound hc hr.sound hrun
      exact ⟨hc, hsound, hsound.coherent.inPhase_stopped hstopped, hr.idle⟩
  | ran _ htimely hrun ih =>
      obtain ⟨hc, hr⟩ := ih
      obtain ⟨s, w₁, hturns, hend, hs, -⟩ := hr.exists_run hc halloc htimely _ _
      -- there is only one way to run, so the run that was made is the one that is known to exist
      obtain ⟨heq, -⟩ := hrun.unique (run_of_turns hturns hend)
      cases heq
      exact ⟨hc, (resting_of_ready hs _).1⟩

/-- **Runs of a host.**  However often the host has run the loop and whatever was done to the loop in
between, a run of `n` ticks takes exactly `n` turns of one frame and one tick each.  It ends because
nothing is left to run and not because the turns are counted: if it is allowed more of them, it takes no
other.  Afterwards the loop has done `n` more ticks and is stopped, no frame is pending, and the host has
returned the counters of the loop, which are the former ones if there were no ticks to run. -/
theorem run_after_any_runs (hserving : Serving config h l) (halloc : config.Allocatable)
    (htimely : pacer.Timely) (n : ℕ) (w : σ) :
    ∃ s h' l' w',
      Turns pacer h.interval (l.ticks + n) n (h.started l (pacer.now.run w).1) (pacer.now.run w).2
        s w' ∧
      isActive (l.ticks + n) s = false ∧
      (∀ extra, Completes (runFrames pacer h.interval (l.ticks + n) (n + extra)
        (h.started l (pacer.now.run w).1)) (pacer.now.run w).2 (s, none) w') ∧
      Completes (h.run pacer l n) w ((h', l'), .ok l'.stats) w' ∧
      l'.ticks = l.ticks + n ∧ l'.InPhase .stopped ∧ h'.queue.pending = [] ∧
      (n = 0 → l'.stats = l.stats) := by
  obtain ⟨hc, hr⟩ := hserving.resting halloc
  obtain ⟨s, w', hturns, hend, hs, hticks⟩ := hr.exists_run hc halloc htimely n w
  obtain ⟨hrest, hsame, hstats⟩ := resting_of_ready hs h.interval
  refine ⟨s, _, _, w', hturns, hend, runFrames_of_turns hturns hend, run_of_turns hturns hend,
    hsame.trans hticks, hrest.stopped, hrest.idle, ?_⟩
  -- without a turn the session is stopped as it was started
  rintro rfl
  cases hturns with
  | none => exact hstats.trans (hr.started _).2.2

/-- A clock that goes back to zero every hundred readings. -/
def wrappingPacer : Pacer (StateM ℕ) where
  now := fun w => (w % 100, w + 1)
  nextFrame := fun interval w => (w % 100, w + interval)

/-- A run of two ticks with an edit kept before it, and then one of none: it returns the counters of the
first. -/
theorem run_after_any_runs_twice :
    ∃ loop h₁ l₁ w₁ h₂ l₂ w₂, Loop.make {} [] = .ok loop ∧
      Completes ((every 0).run wrappingPacer (loop.enqueue (.remove 7)) 2) 0
        ((h₁, l₁), .ok l₁.stats) w₁ ∧
      l₁.ticks = 2 ∧
      Completes (h₁.run wrappingPacer l₁ 0) w₁ ((h₂, l₂), .ok l₁.stats) w₂ ∧
      l₂.ticks = 2 ∧ l₂.InPhase .stopped ∧ h₂.queue.pending = [] := by
  have htimely : wrappingPacer.Timely := fun interval w =>
    (Nat.mod_lt w (by decide)).trans (by decide)
  have halloc : ({} : SimConfig).Allocatable := fun _ => by decide
  have hmake : Loop.make {} [] = .ok { config := {}, bodies := [], grid := { config := {} } } := rfl
  have hbegun : Serving {} (every 0) _ := .begun minInterval (.made {} hmake) rfl
  have hkept := hbegun.used {} [.enqueue (.remove 7)] rfl rfl
  obtain ⟨-, h₁, l₁, w₁, -, -, -, hrun₁, hticks₁, -⟩ := run_after_any_runs hkept halloc htimely 2 0
  obtain ⟨-, h₂, l₂, w₂, -, -, -, hrun₂, hticks₂, hstopped, hidle, hstats⟩ :=
    run_after_any_runs (hkept.ran htimely hrun₁) halloc htimely 0 w₁
  rw [hstats rfl] at hrun₂
  exact ⟨_, h₁, l₁, w₁, h₂, l₂, w₂, hmake, hrun₁, hticks₁, hrun₂, hticks₂.trans hticks₁,
    hstopped, hidle⟩

end Host

end Broadphase
