import Broadphase.Proofs.Simulation.FrameProtocol
import Broadphase.Proofs.Simulation.Reachable

/-! # Where the time goes

A running loop counts the time of a tick from the frame before.  What that frame was can be told from
the operations and their outcomes alone: `runningPeriod` finds the running period at the end of a run,
with the clock readings of its start and of its accepted frames.  `periodTimes` collects the times that the
loop itself has counted in that period.  The two agree frame by frame, so the counted times add up
to the length of the period (`time_accounting`). -/

namespace Broadphase

/-! ### Times between readings -/

/-- The times between successive clock readings, the first one counted from `since`. -/
def gaps (since : ℕ) : List ℕ → List ℕ
  | [] => []
  | now :: later => (now - since) :: gaps now later

theorem gaps_concat (since : ℕ) (readings : List ℕ) (now : ℕ) :
    gaps since (readings ++ [now]) = gaps since readings ++ [now - readings.getLastD since] := by
  induction readings generalizing since with
  | nil => rfl
  | cons t readings ih =>
      rw [List.cons_append, gaps, gaps, ih, List.getLastD_cons, List.cons_append]

/-- On a clock that does not go back the times between readings add up. -/
theorem sum_gaps {since : ℕ} {readings : List ℕ}
    (h : (since :: readings).Pairwise (· ≤ ·)) :
    since + (gaps since readings).sum = readings.getLastD since := by
  induction readings generalizing since with
  | nil => rfl
  | cons t readings ih =>
      obtain ⟨hle, hrest⟩ := List.pairwise_cons.mp h
      have hsince : since ≤ t := hle t List.mem_cons_self
      have hsum := ih hrest
      rw [gaps, List.sum_cons, List.getLastD_cons]
      omega

/-! ### Running periods -/

/-- A running period: the clock readings of the start that opened it and of the frames that ran a tick
in it, in order. -/
structure Period where
  opened : Instant
  frames : List Instant := []

/-- The reading of the last frame of a period, or of its start if there was no frame. -/
def Period.last (p : Period) : Instant := p.frames.getLastD p.opened

/-- All readings of a period, if there is one. -/
def Period.readings (p? : Option Period) : List Instant :=
  match p? with
  | some p => p.opened :: p.frames
  | none => []

/-- The running period after an operation.  A start opens one if there is none, and a stop or a failed
frame ends it. -/
def Period.after (p? : Option Period) : SessionOp → SessionOutcome → Option Period
  | .start now, _ => some (p?.getD { opened := now })
  | .stop, _ => none
  | .frame _ now _, .ticked _ => p?.map fun p => { p with frames := p.frames ++ [now] }
  | .frame _ _ _, .failed _ => none
  | _, _ => p?

/-- The running period after a run, as its operations and their outcomes tell it; `p?` is the one
before. -/
def Period.afterRun (p? : Option Period) (ops : List SessionOp) (outcomes : List SessionOutcome) :
    Option Period :=
  (ops.zip outcomes).foldl (fun p? e => after p? e.1 e.2) p?

/-- The running period after a run that begins with a loop at rest. -/
def runningPeriod (ops : List SessionOp) (outcomes : List SessionOutcome) : Option Period :=
  Period.afterRun none ops outcomes

/-- The clock reading that an operation brings. -/
def SessionOp.reading? : SessionOp → Option Instant
  | .start now => some now
  | .frame _ now _ => some now
  | _ => none

/-- The clock readings of a run, in order. -/
def clockReadings (ops : List SessionOp) : List Instant := ops.filterMap SessionOp.reading?

theorem Period.readings_after (p? : Option Period) (op : SessionOp) (o : SessionOutcome) :
    (readings (after p? op o)).Sublist (readings p? ++ op.reading?.toList) := by
  cases op with
  | start now =>
      cases p? with
      | none => exact List.Sublist.refl _
      | some p => exact List.sublist_append_left _ _
  | stop => exact List.nil_sublist _
  | frame h now time =>
      cases o with
      | ticked t =>
          cases p? with
          | none => exact List.nil_sublist _
          | some p => exact List.Sublist.refl _
      | failed e => exact List.nil_sublist _
      | _ => exact List.sublist_append_left _ _
  | _ => exact List.sublist_append_left _ _

theorem clockReadings_cons (op : SessionOp) (ops : List SessionOp) :
    clockReadings (op :: ops) = op.reading?.toList ++ clockReadings ops := by
  unfold clockReadings
  rw [List.filterMap_cons]
  cases op.reading? <;> rfl

/-- The readings of the running period are among those before and those of the run, in their order. -/
theorem Period.readings_afterRun (p? : Option Period) (ops : List SessionOp)
    (outcomes : List SessionOutcome) :
    (readings (afterRun p? ops outcomes)).Sublist (readings p? ++ clockReadings ops) := by
  induction ops generalizing p? outcomes with
  | nil => exact List.sublist_append_left _ _
  | cons op ops ih =>
      cases outcomes with
      | nil => exact List.sublist_append_left _ _
      | cons o outcomes =>
          rw [clockReadings_cons, ← List.append_assoc]
          exact (ih (after p? op o) outcomes).trans ((readings_after p? op o).append_right _)

/-! ### The times that the loop counts -/

/-- The nanoseconds that the tick of a frame lasts, if the loop waits for the frame. -/
def Loop.elapsed? (l : Loop) : SessionOp → Option ℕ
  | .frame handle now _ => if l.awaits handle then l.since?.map (now - ·) else none
  | _ => none

/-- The times counted since the loop was started, after an operation that makes of it the loop `l'`. -/
def Loop.timesAfter (l : Loop) (op : SessionOp) (l' : Loop) (times : List ℕ) : List ℕ :=
  if l.isRunning ∧ l'.isRunning then times ++ (l.elapsed? op).toList else []

/-- The times that the loop counts in the running period at the end of the operations, if it has
counted `times` before them. -/
def Session.periodTimes (s : Session) (times : List ℕ) : List SessionOp → List ℕ
  | [] => times
  | op :: ops =>
    match s.perform op with
    | .ok (s', _) => s'.periodTimes (s.loop.timesAfter op s'.loop times) ops
    | .error _ => times

/-- The length of the tick of a frame is made of the milliseconds of the counted time. -/
theorem Session.tickLength?_frame {s : Session} {since : Instant} (h : s.loop.since? = some since)
    (handle : FrameHandle) (now : Instant) (time : WorkTime) :
    s.tickLength? (.frame handle now time) =
      (s.loop.elapsed? (.frame handle now time)).map fun d => deltaTimeUnits (Clock.milliseconds d) := by
  unfold tickLength? Loop.elapsed? Loop.frameLength
  rw [h]
  dsimp only
  split_ifs <;> rfl

/-- The counted times are those of the running period, and the loop counts from its last reading. -/
structure Tracks (l : Loop) (times : List ℕ) (p? : Option Period) : Prop where
  since : l.since? = p?.map Period.last
  times : ∀ period, p? = some period → times = gaps period.opened period.frames

section

variable {l l' : Loop} {p p' : Phase} {op : SessionOp} {times : List ℕ} {p? : Option Period}

theorem tracks_stopped (h : l.InPhase .stopped) (times : List ℕ) : Tracks l times none :=
  ⟨h.since, nofun⟩

theorem Tracks.none_of_stopped (ht : Tracks l times p?) (h : l.InPhase .stopped) : p? = none :=
  Option.map_eq_none_iff.mp (ht.since.symm.trans h.since)

theorem Tracks.some_of_running {h : FrameHandle} {t : Instant} (ht : Tracks l times p?)
    (hl : l.InPhase (.running h t)) : ∃ period, p? = some period ∧ period.last = t :=
  Option.map_eq_some_iff.mp (ht.since.symm.trans hl.since)

theorem timesAfter_of_running {h h' : FrameHandle} {t t' : Instant} (hl : l.InPhase (.running h t))
    (hl' : l'.InPhase (.running h' t')) : l.timesAfter op l' times = times ++ (l.elapsed? op).toList :=
  if_pos ⟨hl.isRunning_iff.mpr rfl, hl'.isRunning_iff.mpr rfl⟩

/-- An operation that keeps the phase and for which no time is counted keeps the times. -/
theorem Tracks.unchanged (ht : Tracks l times p?) (hl : l.InPhase p) (hl' : l'.InPhase p)
    (h : l.elapsed? op = none) : Tracks l' (l.timesAfter op l' times) p? := by
  cases p with
  | stopped =>
      obtain rfl := ht.none_of_stopped hl
      exact tracks_stopped hl' _
  | running handle t =>
      rw [timesAfter_of_running hl hl', h, Option.toList_none, List.append_nil]
      exact ⟨hl'.since.trans (hl.since.symm.trans ht.since), ht.times⟩

theorem Protocol.tracks {q q' : FrameQueue} {o : SessionOutcome} (h : Protocol p q op o p' q')
    (hl : l.InPhase p) (hl' : l'.InPhase p') (ht : Tracks l times p?) :
    Tracks l' (l.timesAfter op l' times) (Period.after p? op o) := by
  cases h with
  | start q now =>
      obtain rfl := ht.none_of_stopped hl
      have hbefore : ¬ l.isRunning := mt hl.isRunning_iff.mp nofun
      refine ⟨hl'.since, ?_⟩
      intro period hperiod
      cases hperiod
      exact if_neg fun hboth => hbefore hboth.1
  | alreadyRunning h t q now =>
      obtain ⟨period, rfl, -⟩ := ht.some_of_running hl
      exact ht.unchanged hl hl' rfl
  | stop => exact tracks_stopped hl' _
  | alreadyStopped => exact tracks_stopped hl' _
  | tick h t q now time tick =>
      obtain ⟨period, rfl, hlast⟩ := ht.some_of_running hl
      have helapsed : l.elapsed? (.frame h now time) = some (now - period.last) := by
        show (if l.awaits h then l.since?.map (now - ·) else none) = _
        rw [if_pos ((hl.awaits_iff h).mpr ⟨t, rfl⟩), hl.since, hlast]
        rfl
      refine ⟨?_, ?_⟩
      · rw [hl'.since]
        simp [Phase.since?, Period.after, Period.last]
      · intro period' hperiod
        cases hperiod
        rw [timesAfter_of_running hl hl', helapsed, ht.times period rfl]
        exact (gaps_concat period.opened period.frames now).symm
  | fail => exact tracks_stopped hl' _
  | ignore p q h now time hne => exact ht.unchanged hl hl' (if_neg (mt (hl.awaits_iff h).mp hne))
  | step => exact ht.unchanged hl hl' rfl
  | enqueue => exact ht.unchanged hl hl' rfl
  | observe => exact ht.unchanged hl hl' rfl
  | request => exact ht.unchanged hl hl' rfl
  | cancel => exact ht.unchanged hl hl' rfl
  | takeDue => exact ht.unchanged hl hl' rfl

end

namespace Session

variable {config : SimConfig} {s s' : Session} {ops : List SessionOp} {outcomes : List SessionOutcome}

/-- Over a whole run the counted times are those of the running period. -/
theorem run_tracks (hc : config.Valid) (hs : s.loop.Sound config)
    (h : s.run ops = .ok (s', outcomes)) {times : List ℕ} {p? : Option Period}
    (ht : Tracks s.loop times p?) :
    Tracks s'.loop (s.periodTimes times ops) (Period.afterRun p? ops outcomes) := by
  revert times p?
  refine run_induction (motive := fun s ops outcomes s' => ∀ {times : List ℕ} {p? : Option Period},
    Tracks s.loop times p? → Tracks s'.loop (s.periodTimes times ops)
      (Period.afterRun p? ops outcomes)) hc ?_ ?_ hs h
  · intro s _ times p? ht
    exact ht
  · intro s op o s₁ ops outcomes s' hs hs₁ h₁ hp ih times p? ht
    simp only [periodTimes, h₁]
    exact ih (hp.tracks hs.coherent hs₁.coherent ht)

/-- **Where the time goes.**  After any run on a clock that does not go back, the loop runs exactly if the
operations and outcomes tell of a running period.  The times that the loop has counted in it are those
from each accepted frame to the next, the first one counted from the start, and they add up to the
time from the start to the last accepted frame.  The tick of the next accepted frame lasts from there
on, and its length is made of the milliseconds of that time.  So stopped time, ignored frames, further
starts and steps count for nothing. -/
theorem time_accounting {bodies : List Body} {loop : Loop} {queue : FrameQueue}
    (hmake : Loop.make config bodies = .ok loop)
    (hrun : Session.run { loop, queue } ops = .ok (s, outcomes))
    (hclock : (clockReadings ops).Pairwise (· ≤ ·)) :
    (s.loop.isRunning ↔ (runningPeriod ops outcomes).isSome) ∧
    ∀ p, runningPeriod ops outcomes = some p →
      periodTimes { loop, queue } [] ops = gaps p.opened p.frames ∧
      p.opened + (periodTimes { loop, queue } [] ops).sum = p.last ∧
      ∀ handle now time s' tick, (∀ t ∈ clockReadings ops, t ≤ now) →
        s.perform (.frame handle now time) = .ok (s', .ticked tick) →
        ∃ d l, s.loop.elapsed? (.frame handle now time) = some d ∧ p.last + d = now ∧
          s.loop.step (deltaTimeUnits (Clock.milliseconds d)) time = .ok (l, .ok tick) ∧
          s'.loop = l.pacedAs s'.loop := by
  obtain ⟨hc, hloop⟩ := Loop.make_eq_ok hmake
  have hfresh : loop.Sound config := Loop.sound_make hmake
  have hs : s.loop.Sound config := run_sound hc hfresh hrun
  have hstopped : loop.InPhase .stopped := hfresh.coherent.inPhase (hloop ▸ rfl)
  have htracks : Tracks s.loop (periodTimes { loop, queue } [] ops) (runningPeriod ops outcomes) :=
    run_tracks hc hfresh hrun (tracks_stopped hstopped [])
  refine ⟨?_, ?_⟩
  · rw [hs.coherent.isRunning_iff.2.1, htracks.since, Option.isSome_map]
  · intro p hp
    have hreadings : (p.opened :: p.frames).Sublist (clockReadings ops) := by
      have hsub := Period.readings_afterRun none ops outcomes
      rwa [show Period.afterRun none ops outcomes = some p from hp] at hsub
    have htimes := htracks.times p hp
    refine ⟨htimes, ?_, ?_⟩
    · rw [htimes]
      exact sum_gaps (hclock.sublist hreadings)
    · intro handle now time s' tick hnow hop
      have hsince : s.loop.since? = some p.last := by
        rw [htracks.since, hp]
        rfl
      obtain ⟨dt, l, hdt, hstep, hloop'⟩ := perform_ticked hop
      rw [tickLength?_frame hsince] at hdt
      obtain ⟨d, hd, rfl⟩ := Option.map_eq_some_iff.mp hdt
      have hle : p.last ≤ now := hnow _ (hreadings.subset List.getLastD_mem_cons)
      refine ⟨d, l, hd, ?_, hstep, hloop'⟩
      simp only [Loop.elapsed?, hsince, Option.map_some] at hd
      split_ifs at hd
      cases hd
      exact Nat.add_sub_of_le hle

/-- A loop is stopped and started again, and then meets a frame that it does not wait for, a further
start and a step: only the time from the second start to the awaited frame counts. -/
theorem time_accounting_restarted :
    ∃ loop s s' tick outcomes, Loop.make {} [] = .ok loop ∧
      Session.run { loop } [.start 1, .stop, .start 5, .frame 9 6, .start 7, .step (-1)] =
        .ok (s, outcomes) ∧
      s.perform (.frame 2 8) = .ok (s', .ticked tick) ∧
      s.loop.elapsed? (.frame 2 8) = some 3 ∧ s'.loop.isRunning ∧
      periodTimes { loop } [] [.start 1, .stop, .start 5, .frame 9 6, .start 7, .step (-1), .frame 2 8] =
        [3] := by
  have hmake : Loop.make {} [] = .ok { config := {}, bodies := [], grid := { config := {} } } := rfl
  have hbefore : Session.run { loop := { config := {}, bodies := [], grid := { config := {} } } }
      [.start 1, .stop, .start 5, .frame 9 6, .start 7, .step (-1)] = .ok (_, _) := rfl
  have hc : SimConfig.Valid {} := (Loop.make_eq_ok hmake).1
  have hs := run_sound hc (Loop.sound_make hmake) hbefore
  have hnow : 8 < Instant.limit := by decide
  obtain ⟨s', tick, hframe, -⟩ | ⟨halloc, -⟩ :=
    ticked_of_awaited (h := 2) hc hs ⟨5, rfl⟩ hnow {}
  · obtain ⟨-, hperiod⟩ := time_accounting hmake hbefore (by decide)
    obtain ⟨-, -, hnext⟩ := hperiod ⟨5, []⟩ rfl
    obtain ⟨d, -, hd, hsum, -⟩ := hnext 2 8 {} s' tick (by decide) hframe
    obtain rfl : d = 3 := Nat.add_left_cancel (n := 5) hsum
    have hrun := run_concat hbefore (.frame 2 8) hframe
    obtain ⟨hrunning, hperiod'⟩ := time_accounting hmake hrun (by decide)
    obtain ⟨htimes, -, -⟩ := hperiod' ⟨5, [8]⟩ rfl
    exact ⟨_, _, s', tick, _, hmake, hbefore, hframe, hd, hrunning.mpr rfl, htimes⟩
  · exact absurd (fun _ => by decide) halloc

end Session

end Broadphase
