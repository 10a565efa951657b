import Broadphase.Proofs.Simulation.Protocol

/-! # The frame protocol

Of a run only the phase of the loop and the queue matter here, so everything is read off `Protocol`.  By
induction over the operations the fields of the loop are those of a phase, a running loop waits for the
frame that it requested last (`awaits_latest`), no frame runs two ticks (`ticked_nodup`), and no frame
runs a tick while the loop is stopped (`ticked_of_stopped`).  `frame_protocol` puts them together. -/

namespace Broadphase

/-! ### The frame that the loop requested last -/

namespace Session

/-- The frame that the loop itself requested in the course of an operation: the queue gave out a
handle, and not to the host. -/
def ownRequest? (before : FrameQueue) (op : SessionOp) (after : FrameQueue) : Option FrameHandle :=
  match op with
  | .request => none
  | _ => if before.last < after.last then some after.last else none

/-- The frames that the loop itself requests in the course of the operations, in order. -/
def ownRequests (s : Session) : List SessionOp → List FrameHandle
  | [] => []
  | op :: ops =>
    match s.perform op with
    | .ok (s', _) => (ownRequest? s.queue op s'.queue).toList ++ s'.ownRequests ops
    | .error _ => []

end Session

open Session

theorem Protocol.awaits_own {p p' : Phase} {q q' : FrameQueue} {op : SessionOp} {o : SessionOutcome}
    (h : Protocol p q op o p' q') {x : FrameHandle} (hx : p'.Awaits x) :
    ownRequest? q op q' = some x ∨ ownRequest? q op q' = none ∧ p.Awaits x := by
  cases h with
  | start | tick =>
      obtain rfl := Phase.awaits_running.mp hx
      exact .inl (if_pos (Nat.lt_succ_self _))
  | stop | fail => exact absurd hx (Phase.not_awaits_stopped x)
  | request => exact .inr ⟨rfl, hx⟩
  | _ => exact .inr ⟨if_neg (Nat.lt_irrefl _), hx⟩

/-- A loop that runs at the end waits for the frame that it requested last, if it requested any. -/
theorem Session.awaits_latest {config : SimConfig} {s s' : Session} {ops : List SessionOp}
    {os : List SessionOutcome} (hc : config.Valid) (hs : s.loop.Sound config)
    (h : s.run ops = .ok (s', os)) {x : FrameHandle} (hx : s'.loop.phase.Awaits x) :
    (s.ownRequests ops).getLast? = some x ∨ s.ownRequests ops = [] ∧ s.loop.phase.Awaits x := by
  revert hx
  refine run_induction (motive := fun s ops _ s' => s'.loop.phase.Awaits x →
    (s.ownRequests ops).getLast? = some x ∨ s.ownRequests ops = [] ∧ s.loop.phase.Awaits x)
    hc ?_ ?_ hs h
  · intro s _ hx
    exact .inr ⟨rfl, hx⟩
  · intro s op o s₁ ops os s' _ _ h₁ hp ih hx
    simp only [ownRequests, h₁]
    rcases ih hx with hlast | ⟨hnone, hx₁⟩
    · exact .inl (by rw [List.getLast?_append, hlast]; rfl)
    · rw [hnone, List.append_nil]
      rcases hp.awaits_own hx₁ with hown | ⟨hown, hx₀⟩
      · exact .inl (by rw [hown]; rfl)
      · exact .inr ⟨by rw [hown]; rfl, hx₀⟩

/-! ### Frames that run a tick -/

/-- The frames of a run that ran a tick, in order. -/
def tickedFrames (ops : List SessionOp) (outcomes : List SessionOutcome) : List FrameHandle :=
  (ops.zip outcomes).filterMap fun
    | (.frame h _ _, .ticked _) => some h
    | _ => none

/-- A handle that the loop may still turn into a tick: the awaited one, or one to be given out. -/
def Open (p : Phase) (q : FrameQueue) (x : FrameHandle) : Prop := p.Awaits x ∨ q.last < x

/-- The queue has given out the awaited handle. -/
def Issued (p : Phase) (q : FrameQueue) : Prop := ∀ x, p.Awaits x → x ≤ q.last

namespace Protocol

variable {p p' : Phase} {q q' : FrameQueue} {op : SessionOp} {o : SessionOutcome}

theorem issued (h : Protocol p q op o p' q') (hi : Issued p q) : Issued p' q' := by
  intro x hx
  cases h with
  | start | tick => exact (Phase.awaits_running.mp hx).le
  | stop | fail => exact absurd hx (Phase.not_awaits_stopped x)
  | request => exact (hi x hx).trans (Nat.le_succ _)
  | _ => exact hi x hx

/-- No handle becomes open again. -/
theorem open_of_open (h : Protocol p q op o p' q') {x : FrameHandle} (hx : Open p' q' x) :
    Open p q x := by
  cases h with
  | start | tick =>
      right
      rcases hx with hx | hx
      · exact (Nat.lt_succ_self _).trans_eq (Phase.awaits_running.mp hx).symm
      · exact (Nat.lt_succ_self _).trans hx
  | stop | fail => exact .inr (hx.resolve_left (Phase.not_awaits_stopped x))
  | request => exact hx.imp_right (Nat.lt_succ_self _).trans
  | _ => exact hx

/-- A frame that runs a tick was awaited, and afterwards no handle given out so far is open. -/
theorem of_ticked {h : FrameHandle} {now : Instant} {time : WorkTime} {tick : Tick}
    (hp : Protocol p q (.frame h now time) (.ticked tick) p' q') :
    p.Awaits h ∧ ∀ x, Open p' q' x → q.last < x := by
  cases hp with
  | tick h t q now time tick =>
      refine ⟨⟨t, rfl⟩, ?_⟩
      rintro x (hx | hx)
      · exact (Nat.lt_succ_self _).trans_eq (Phase.awaits_running.mp hx).symm
      · exact (Nat.lt_succ_self _).trans hx

theorem of_stop (h : Protocol p q .stop o p' q') : p' = .stopped := by
  cases h with
  | stop => rfl
  | alreadyStopped => rfl

/-- A stopped loop stays stopped until it is started. -/
theorem of_stopped (h : Protocol .stopped q op o p' q') (hop : ∀ now, op ≠ .start now) :
    p' = .stopped := by
  cases h with
  | start q now => exact absurd rfl (hop now)
  | _ => rfl

end Protocol

theorem tickedFrames_cons (op : SessionOp) (o : SessionOutcome) (ops : List SessionOp)
    (os : List SessionOutcome) :
    tickedFrames (op :: ops) (o :: os) = tickedFrames ops os ∨
      ∃ h now time tick, op = .frame h now time ∧ o = .ticked tick ∧
        tickedFrames (op :: ops) (o :: os) = h :: tickedFrames ops os := by
  unfold tickedFrames
  cases op with
  | frame h now time =>
      cases o with
      | ticked tick => exact .inr ⟨h, now, time, tick, rfl, rfl, rfl⟩
      | _ => exact .inl rfl
  | _ => exact .inl rfl

namespace Session

variable {config : SimConfig} {s s' : Session} {ops : List SessionOp} {os : List SessionOutcome}

/-- No frame runs two ticks. -/
theorem ticked_nodup (hc : config.Valid) (hs : s.loop.Sound config) (h : s.run ops = .ok (s', os))
    (hi : Issued s.loop.phase s.queue) :
    (tickedFrames ops os).Nodup ∧ ∀ x ∈ tickedFrames ops os, Open s.loop.phase s.queue x := by
  revert hi
  refine run_induction (motive := fun s ops os _ => Issued s.loop.phase s.queue →
    (tickedFrames ops os).Nodup ∧ ∀ x ∈ tickedFrames ops os, Open s.loop.phase s.queue x)
    hc ?_ ?_ hs h
  · intro s _ hi
    exact ⟨List.nodup_nil, fun x hx => absurd hx List.not_mem_nil⟩
  · intro s op o s₁ ops os s' _ _ h₁ hp ih hi
    obtain ⟨hnodup, hopen⟩ := ih (hp.issued hi)
    rcases tickedFrames_cons op o ops os with heq | ⟨x, now, time, tick, rfl, rfl, heq⟩
    · rw [heq]
      exact ⟨hnodup, fun x hx => hp.open_of_open (hopen x hx)⟩
    · obtain ⟨hx, hlater⟩ := hp.of_ticked
      rw [heq]
      refine ⟨List.nodup_cons.mpr ⟨?_, hnodup⟩, ?_⟩
      · intro hmem
        exact (hi x hx).not_gt (hlater x (hopen x hmem))
      · rintro y hy
        rcases List.mem_cons.mp hy with rfl | hy
        · exact .inl hx
        · exact hp.open_of_open (hopen y hy)

/-- While the loop is stopped, no frame runs a tick. -/
theorem ticked_of_stopped (hc : config.Valid) (hs : s.loop.Sound config)
    (h : s.run ops = .ok (s', os)) (hstopped : s.loop.phase = .stopped)
    (hops : ∀ now, .start now ∉ ops) : tickedFrames ops os = [] := by
  revert hstopped hops
  refine run_induction (motive := fun s ops os _ => s.loop.phase = .stopped →
    (∀ now, .start now ∉ ops) → tickedFrames ops os = []) hc ?_ ?_ hs h
  · intro s _ _ _
    rfl
  · intro s op o s₁ ops os s' _ _ h₁ hp ih hstopped hops
    rw [hstopped] at hp
    have hstart (now : Instant) : op ≠ .start now := fun h => hops now (h ▸ List.mem_cons_self)
    have hrest := ih (hp.of_stopped hstart) fun now hmem => hops now (List.mem_cons_of_mem op hmem)
    rcases tickedFrames_cons op o ops os with heq | ⟨x, now, time, tick, rfl, rfl, heq⟩
    · rw [heq, hrest]
    · exact absurd hp.of_ticked.1 (Phase.not_awaits_stopped x)

theorem ticked_after_stop (hc : config.Valid) (hs : s.loop.Sound config)
    (h : s.run (.stop :: ops) = .ok (s', os)) (hops : ∀ now, .start now ∉ ops) :
    tickedFrames (.stop :: ops) os = [] := by
  obtain ⟨⟨s₁, o⟩, h₁, h⟩ := bind_eq_ok_iff.mp h
  obtain ⟨⟨s₂, rest⟩, h₂, h⟩ := bind_eq_ok_iff.mp h
  cases h
  obtain ⟨hs₁, hp⟩ := perform_protocol hs hc h₁
  show tickedFrames ops rest = []
  exact ticked_of_stopped hc hs₁ h₂ hp.of_stop hops

/-! ### The protocol of a fresh session -/

/-- An awaited frame runs a tick unless a bucket cannot be set aside. -/
theorem ticked_of_awaited (hc : config.Valid) (hs : s.loop.Sound config) {h : FrameHandle}
    (hp : s.loop.phase.Awaits h) {now : Instant} (hnow : now < Instant.limit) (time : WorkTime) :
    (∃ s' t, s.frame h now time = .ok (s', .ticked t) ∧ s'.loop.ticks = s.loop.ticks + 1) ∨
      ¬ config.Allocatable ∧ ∃ e, s.frame h now time = .error e := by
  obtain ⟨t, hp⟩ := hp
  rw [frame_of_awaits ((hs.coherent.awaits_iff h).mpr ⟨t, hp⟩),
    Loop.frameLength_of_running (hs.coherent.inPhase hp)]
  cases hstep : s.loop.step (deltaTimeUnits (Clock.elapsedMs t now)) time with
  | error e =>
      refine .inr ⟨?_, e, rfl⟩
      intro halloc
      obtain ⟨l, r, hok, -⟩ := hs.exists_step hc halloc (deltaTimeUnits (Clock.elapsedMs t now)) time
      rw [hok] at hstep
      cases hstep
  | ok r =>
      have hc' : s.loop.config.Valid := hs.config_eq ▸ hc
      obtain ⟨l, r⟩ := r
      obtain ⟨hdt, -⟩ | ⟨-, grid, found, tick, -, hsettle, rfl⟩ := Loop.step_cases hc' hstep
      · exact absurd (valid_elapsed t hnow) hdt
      · cases hsettle
        exact .inl ⟨_, _, rfl, rfl⟩

/-- **The frame protocol.**  After any operations on a fresh loop and its queue: the loop runs exactly
while it holds a frame that it waits for and the time of the last one, and it is stopped exactly while it
holds neither; a frame runs a tick exactly if the loop runs and requested that frame itself, and after
that no other one; no frame has run two ticks; and from a stop to the next start no frame runs a tick,
whenever it was delivered.  Only a bucket that cannot be set aside keeps an awaited frame from its
tick. -/
theorem frame_protocol {bodies : List Body} {loop : Loop} {ops : List SessionOp} {s : Session}
    {outcomes : List SessionOutcome} (hmake : Loop.make config bodies = .ok loop)
    (hrun : Session.run { loop } ops = .ok (s, outcomes)) :
    (s.loop.isRunning ↔ s.loop.awaited?.isSome ∧ s.loop.since?.isSome) ∧
    (¬ s.loop.isRunning ↔ s.loop.awaited? = none ∧ s.loop.since? = none) ∧
    (∀ h now time, ¬ (s.loop.isRunning ∧ (ownRequests { loop } ops).getLast? = some h) →
      s.frame h now time = .ok (s, .ignored)) ∧
    (∀ h now time, s.loop.isRunning → (ownRequests { loop } ops).getLast? = some h →
      now < Instant.limit →
      (∃ s' t, s.frame h now time = .ok (s', .ticked t) ∧ s'.loop.ticks = s.loop.ticks + 1) ∨
        ¬ config.Allocatable ∧ ∃ e, s.frame h now time = .error e) ∧
    (tickedFrames ops outcomes).Nodup ∧
    (∀ between s' outcomes', (∀ now, .start now ∉ between) →
      s.run (.stop :: between) = .ok (s', outcomes') →
      tickedFrames (.stop :: between) outcomes' = []) ∧
    (config.Allocatable → ∀ more, ∃ s' outcomes', s.run more = .ok (s', outcomes')) := by
  obtain ⟨hc, hloop⟩ := Loop.make_eq_ok hmake
  have hfresh : loop.Sound config := Loop.sound_make hmake
  have hstopped (x : FrameHandle) : ¬ loop.phase.Awaits x :=
    hloop ▸ Phase.not_awaits_stopped x
  have hs : s.loop.Sound config := run_sound hc hfresh hrun
  have hlatest {x : FrameHandle} (hx : s.loop.phase.Awaits x) :
      (ownRequests { loop } ops).getLast? = some x :=
    (awaits_latest hc hfresh hrun hx).resolve_right fun h => hstopped x h.2
  obtain ⟨hawaited, hsince, hphase⟩ := hs.coherent.isRunning_iff
  refine ⟨?_, ?_, ?_, ?_, ?_, ?_, ?_⟩
  · rw [← hawaited, ← hsince, and_self]
  · rw [← Option.not_isSome_iff_eq_none, ← Option.not_isSome_iff_eq_none, ← hawaited, ← hsince, and_self]
  · intro h now time hne
    refine frame_of_not_awaits (fun hx => hne ?_) now time
    have hx := (hs.coherent.awaits_iff h).mp hx
    exact ⟨hphase.mpr ⟨h, hx⟩, hlatest hx⟩
  · intro h now time hrunning hown hnow
    obtain ⟨x, hx⟩ := hphase.mp hrunning
    obtain rfl : x = h := Option.some.inj ((hlatest hx).symm.trans hown)
    exact ticked_of_awaited hc hs hx hnow time
  · exact (ticked_nodup hc hfresh hrun fun x hx => absurd hx (hstopped x)).1
  · intro between s' outcomes' hbetween h
    exact ticked_after_stop hc hs h hbetween
  · intro halloc more
    exact exists_run hs hc halloc more

/-- A frame that was delivered before the loop was stopped and started again is ignored; the one
requested by the second start runs a tick. -/
theorem frame_protocol_restarted :
    ∃ loop s outcomes s' t, Loop.make {} [] = .ok loop ∧
      Session.run { loop } [.start 0, .takeDue, .stop, .start 5] = .ok (s, outcomes) ∧
      s.loop.awaited? = some 2 ∧ s.loop.since? = some 5 ∧ s.frame 1 16670005 {} = .ok (s, .ignored) ∧
      s.frame 2 16670005 {} = .ok (s', .ticked t) ∧ s'.loop.ticks = 1 := by
  have hmake : Loop.make {} [] = .ok { config := {}, bodies := [], grid := { config := {} } } := by
    rfl
  have hrun : Session.run { loop := { config := {}, bodies := [], grid := { config := {} } } }
      [.start 0, .takeDue, .stop, .start 5] = .ok (_, _) := rfl
  obtain ⟨-, -, hignored, hticked, -⟩ := frame_protocol hmake hrun
  obtain ⟨s', t, h, hticks⟩ | ⟨h, -⟩ := hticked 2 16670005 {} rfl rfl (by decide)
  · exact ⟨_, _, _, s', t, hmake, hrun, rfl, rfl, hignored 1 16670005 {} (by decide), h, hticks⟩
  · exact absurd (fun _ => by decide) h

end Session

end Broadphase
