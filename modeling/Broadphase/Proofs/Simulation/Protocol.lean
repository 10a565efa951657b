import Broadphase.Proofs.Simulation.Tick

/-! # Operations on a session

A session is a loop and a frame queue that the host uses as well.  `Protocol` says what each operation
can do to the phase of the loop and to the queue (`perform_protocol`), and `run_induction` carries a
property over the operations of a run; the fields of the loop are those of a phase all along.  No
operation fails while the buckets of the grid can be set aside (`exists_run`). -/

namespace Broadphase

/-! ### One operation -/

/-- What an operation and its outcome do to the phase of the loop and to the queue. -/
inductive Protocol : Phase → FrameQueue → SessionOp → SessionOutcome → Phase → FrameQueue → Prop
  | start (q now) :
      Protocol .stopped q (.start now) .done (.running (q.last + 1) now) q.request.2
  | alreadyRunning (h t q now) :
      Protocol (.running h t) q (.start now) .done (.running h t) q
  | stop (h t q) : Protocol (.running h t) q .stop .done .stopped (q.cancel h)
  | alreadyStopped (q) : Protocol .stopped q .stop .done .stopped q
  | tick (h t q now time tick) :
      Protocol (.running h t) q (.frame h now time) (.ticked tick) (.running (q.last + 1) now)
        q.request.2
  | fail (h t q now time e) : Protocol (.running h t) q (.frame h now time) (.failed e) .stopped q
  | ignore (p q h now time) : ¬ p.Awaits h → Protocol p q (.frame h now time) .ignored p q
  | step (p q dt time o) : Protocol p q (.step dt time) o p q
  | enqueue (p q e) : Protocol p q (.enqueue e) .done p q
  | observe (p q o) : Protocol p q (.observe o) .done p q
  | request (p q) : Protocol p q .request (.requested (q.last + 1)) p q.request.2
  | cancel (p q h) : Protocol p q (.cancel h) .done p (q.cancel h)
  | takeDue (p q) : Protocol p q .takeDue (.due q.pending) p q.takeDue.2

namespace Session

variable {config : SimConfig} {s s' : Session} {h : FrameHandle}

theorem frame_of_not_awaits (hne : ¬ s.loop.awaits h) (now : Instant) (time : WorkTime) :
    s.frame h now time = .ok (s, .ignored) := if_neg hne

/-- The awaited frame runs a tick and the next frame is requested; a failed tick stops the loop. -/
theorem frame_of_awaits (hawaits : s.loop.awaits h) (now : Instant) (time : WorkTime) :
    s.frame h now time = (s.loop.step (s.loop.frameLength now) time).map fun r =>
      match r.2 with
      | .ok tick =>
        (⟨r.1.withPhase (.running (s.queue.last + 1) now), s.queue.request.2⟩, .ticked tick)
      | .error e => (⟨r.1.withPhase .stopped, s.queue⟩, .failed e) := by
  have hstate : (Phase.running (s.queue.last + 1) now).state = s.loop.state :=
    (of_decide_eq_true (Bool.and_eq_true_iff.mp hawaits).1).symm
  unfold frame
  rw [if_pos hawaits, Loop.step_eq]
  unfold Loop.beginFrame
  rw [Loop.work_eq]
  show ((s.loop.result (s.loop.frameLength now)).map _ >>= _) = _
  cases s.loop.result (s.loop.frameLength now) with
  | error e => rfl
  | ok r =>
      cases r with
      | error e => rfl
      | ok d =>
          unfold Loop.withPhase
          rw [hstate]
          rfl

theorem perform_start (s : Session) (now : Instant) :
    s.perform (.start now) =
      .ok (⟨(s.loop.start now s.queue).1, (s.loop.start now s.queue).2⟩, .done) := rfl

theorem perform_stop (s : Session) :
    s.perform .stop = .ok (⟨(s.loop.stop s.queue).1, (s.loop.stop s.queue).2⟩, .done) := rfl

theorem perform_protocol {op : SessionOp} {o : SessionOutcome} (hs : s.loop.Sound config)
    (hc : config.Valid) (h : s.perform op = .ok (s', o)) :
    s'.loop.Sound config ∧ Protocol s.loop.phase s.queue op o s'.loop.phase s'.queue := by
  cases op with
  | start now =>
      rw [perform_start] at h
      cases hp : s.loop.phase with
      | stopped =>
          rw [Loop.start_of_stopped (hs.coherent.inPhase hp)] at h
          cases h
          have hreset : Loop.Sound config { s.loop with rate := s.loop.rate.reset } :=
            ⟨hs.config_eq, hs.kept, hs.coherent.of_eq rfl rfl rfl⟩
          exact ⟨hreset.withPhase _, .start s.queue now⟩
      | running handle t =>
          rw [Loop.start_of_running (hs.coherent.inPhase hp)] at h
          cases h
          exact ⟨hs, hp ▸ .alreadyRunning handle t s.queue now⟩
  | stop =>
      rw [perform_stop] at h
      cases hp : s.loop.phase with
      | stopped =>
          rw [Loop.stop_of_stopped (hs.coherent.inPhase hp)] at h
          cases h
          exact ⟨hs, hp ▸ .alreadyStopped s.queue⟩
      | running handle t =>
          rw [Loop.stop_of_running (hs.coherent.inPhase hp)] at h
          cases h
          exact ⟨hs.withPhase .stopped, .stop handle t s.queue⟩
  | frame handle now time =>
      have h : s.frame handle now time = .ok (s', o) := h
      by_cases hawaits : s.loop.awaits handle
      · obtain ⟨t, hp⟩ := (hs.coherent.awaits_iff handle).mp hawaits
        rw [frame_of_awaits hawaits] at h
        obtain ⟨⟨l, r⟩, hstep, hend⟩ := map_eq_ok_iff.mp h
        have hl := (hs.step hc hstep).1
        cases r with
        | ok tick =>
            cases hend
            exact ⟨hl.withPhase _, hp ▸ .tick handle t s.queue now time tick⟩
        | error e =>
            cases hend
            exact ⟨hl.withPhase .stopped, hp ▸ .fail handle t s.queue now time e⟩
      · rw [frame_of_not_awaits hawaits] at h
        cases h
        exact ⟨hs, .ignore _ _ handle now time (mt (hs.coherent.awaits_iff handle).mpr hawaits)⟩
  | step dt time =>
      obtain ⟨⟨l, r⟩, hstep, h⟩ := bind_eq_ok_iff.mp h
      cases h
      obtain ⟨hl, hphase⟩ := hs.step hc hstep
      refine ⟨hl, ?_⟩
      show Protocol _ _ _ _ l.phase _
      rw [hphase]
      exact .step _ _ dt time _
  | enqueue e =>
      cases h
      exact ⟨⟨hs.config_eq, hs.kept, hs.coherent.of_eq rfl rfl rfl⟩, .enqueue _ _ e⟩
  | observe o =>
      cases h
      exact ⟨⟨hs.config_eq, hs.kept, hs.coherent.of_eq rfl rfl rfl⟩, .observe _ _ o⟩
  | request =>
      cases h
      exact ⟨hs, .request _ _⟩
  | cancel handle =>
      cases h
      exact ⟨hs, .cancel _ _ handle⟩
  | takeDue =>
      cases h
      exact ⟨hs, .takeDue _ _⟩

theorem exists_perform (hs : s.loop.Sound config) (hc : config.Valid) (halloc : config.Allocatable)
    (op : SessionOp) : ∃ s' o, s.perform op = .ok (s', o) := by
  cases op with
  | frame handle now time =>
      show ∃ s' o, s.frame handle now time = .ok (s', o)
      by_cases hawaits : s.loop.awaits handle
      · obtain ⟨l, r, hstep, -⟩ := hs.exists_step hc halloc (s.loop.frameLength now) time
        rw [frame_of_awaits hawaits, hstep]
        exact ⟨_, _, rfl⟩
      · exact ⟨_, _, frame_of_not_awaits hawaits now time⟩
  | step dt time =>
      obtain ⟨l, r, hstep, -⟩ := hs.exists_step hc halloc dt time
      exact ⟨_, _, bind_eq_ok_iff.mpr ⟨_, hstep, rfl⟩⟩
  | _ => exact ⟨_, _, rfl⟩

/-! ### Whole runs -/

/-- To prove something of every run it is enough to prove it of the empty one and to carry it over
an operation in front. -/
theorem run_induction {motive : Session → List SessionOp → List SessionOutcome → Session → Prop}
    (hc : config.Valid) (nil : ∀ s, s.loop.Sound config → motive s [] [] s)
    (cons : ∀ s op o s₁ ops os s', s.loop.Sound config → s₁.loop.Sound config →
      s.perform op = .ok (s₁, o) → Protocol s.loop.phase s.queue op o s₁.loop.phase s₁.queue →
      motive s₁ ops os s' → motive s (op :: ops) (o :: os) s')
    {ops : List SessionOp} {os : List SessionOutcome} (hs : s.loop.Sound config)
    (h : s.run ops = .ok (s', os)) : motive s ops os s' := by
  induction ops generalizing s os with
  | nil =>
      cases h
      exact nil _ hs
  | cons op ops ih =>
      obtain ⟨⟨s₁, o⟩, h₁, h⟩ := bind_eq_ok_iff.mp h
      obtain ⟨⟨s₂, rest⟩, h₂, h⟩ := bind_eq_ok_iff.mp h
      cases h
      obtain ⟨hs₁, hp⟩ := perform_protocol hs hc h₁
      exact cons s op o s₁ ops rest _ hs hs₁ h₁ hp (ih hs₁ h₂)

theorem run_sound (hc : config.Valid) (hs : s.loop.Sound config) {ops : List SessionOp}
    {os : List SessionOutcome} (h : s.run ops = .ok (s', os)) : s'.loop.Sound config :=
  run_induction (motive := fun _ _ _ s' => s'.loop.Sound config) hc (fun _ hs => hs)
    (fun _ _ _ _ _ _ _ _ _ _ _ ih => ih) hs h

theorem run_concat {s'' : Session} {ops : List SessionOp} {os : List SessionOutcome}
    {o : SessionOutcome} (h : s.run ops = .ok (s', os)) (op : SessionOp)
    (h' : s'.perform op = .ok (s'', o)) : s.run (ops ++ [op]) = .ok (s'', os ++ [o]) := by
  induction ops generalizing s os with
  | nil =>
      cases h
      exact bind_eq_ok_iff.mpr ⟨_, h', rfl⟩
  | cons op' ops ih =>
      obtain ⟨⟨s₁, o₁⟩, h₁, h⟩ := bind_eq_ok_iff.mp h
      obtain ⟨⟨s₂, rest⟩, h₂, h⟩ := bind_eq_ok_iff.mp h
      cases h
      exact bind_eq_ok_iff.mpr ⟨_, h₁, bind_eq_ok_iff.mpr ⟨_, ih h₂, rfl⟩⟩

theorem exists_run (hs : s.loop.Sound config) (hc : config.Valid) (halloc : config.Allocatable)
    (ops : List SessionOp) : ∃ s' os, s.run ops = .ok (s', os) := by
  induction ops generalizing s with
  | nil => exact ⟨s, [], rfl⟩
  | cons op ops ih =>
      obtain ⟨s₁, o, h₁⟩ := exists_perform hs hc halloc op
      obtain ⟨s₂, os, h₂⟩ := ih (perform_protocol hs hc h₁).1
      exact ⟨s₂, o :: os, bind_eq_ok_iff.mpr ⟨_, h₁, bind_eq_ok_iff.mpr ⟨_, h₂, rfl⟩⟩⟩

end Session

end Broadphase
