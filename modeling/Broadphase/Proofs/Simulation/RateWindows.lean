import Broadphase.Proofs.Simulation.Reachable

/-! # Windows of the frame rate

Between two cuts, which are resets and reports, a counter holds the number of its ticks and their total
length, added up from the left (`count`).  So every history of a counter falls into windows, one after the
other, and an open rest (`run_windows`); `Window.Sound` says what such a window may look like.

A loop records the ticks that it completes and resets its counter when it is started (`Session.rateOps`).  It
does nothing else to the counter, and the frame rate in its figures is the last report (`run_rate`).
`fps_windows` puts both together. -/

namespace Broadphase

namespace FrameRate

/-! ### Histories of a counter -/

/-- What can be done with a counter. -/
inductive Op where
  | record (dt : Float)
  | reset
deriving DecidableEq, Repr

/-- Does one operation; a reset reports nothing. -/
def perform (r : FrameRate) : Op → Option Float × FrameRate
  | .record dt => r.record dt
  | .reset => (none, r.reset)

/-- Does operations in order and notes with each one what it reports. -/
def run (r : FrameRate) : List Op → List (Op × Option Float) × FrameRate
  | [] => ([], r)
  | op :: ops =>
    let (fps?, r) := r.perform op
    let (log, r) := r.run ops
    ((op, fps?) :: log, r)

theorem run_append (r : FrameRate) (ops ops' : List Op) :
    r.run (ops ++ ops') =
      ((r.run ops).1 ++ ((r.run ops).2.run ops').1, ((r.run ops).2.run ops').2) := by
  induction ops generalizing r with
  | nil => rfl
  | cons op ops ih => simp only [List.cons_append, run, ih]

/-- The last report of a history, or the given figure if nothing was reported. -/
def lastReport (log : List (Op × Option Float)) (fps : Float) : Float :=
  (log.filterMap Prod.snd).getLastD fps

theorem lastReport_append (log log' : List (Op × Option Float)) (fps : Float) :
    lastReport (log ++ log') fps = lastReport log' (lastReport log fps) := by
  simp only [lastReport, List.filterMap_append, List.getLastD_eq_getLast?, List.getLast?_append]
  cases (log'.filterMap Prod.snd).getLast? <;> rfl

theorem lastReport_singleton (op : Op) (fps? : Option Float) (fps : Float) :
    lastReport [(op, fps?)] fps = fps?.getD fps := by
  cases fps? <;> rfl

/-! ### Windows -/

/-- The total length of ticks, added up from the left. -/
def total (lengths : List Float) : Float := lengths.foldl (· + ·) 0

/-- The ticks do not fill a window, and neither did any of them when it came. -/
def Below (lengths : List Float) : Prop := ∀ front, front <+: lengths → total front < window

/-- What ends a window: a reset, or the tick that fills it and is answered by a report. -/
inductive Cut where
  | reset
  | report (dt fps : Float)

/-- A window: the ticks for which nothing was reported, and its end. -/
structure Window where
  quiet : List Float
  cut : Cut

/-- A tick for which nothing was reported. -/
def quietTick (dt : Float) : Op × Option Float := (.record dt, none)

namespace Window

/-- The part of a history that makes up the window. -/
def log (w : Window) : List (Op × Option Float) :=
  w.quiet.map quietTick ++ [match w.cut with
    | .reset => (.reset, none)
    | .report dt fps => (.record dt, some fps)]

/-- What was reported at the end of the window. -/
def report? (w : Window) : Option Float :=
  match w.cut with
  | .reset => none
  | .report _ fps => some fps

/-- A window is closed by the first tick that fills it, with the number of its ticks per window length; no
window is filled before its end. -/
structure Sound (w : Window) : Prop where
  below : Below w.quiet
  filled : ∀ dt fps, w.cut = .report dt fps → ¬ total (w.quiet ++ [dt]) < window ∧
    fps = Float.ofNat (w.quiet ++ [dt]).length * window / total (w.quiet ++ [dt])

theorem filterMap_log (w : Window) : w.log.filterMap Prod.snd = w.report?.toList := by
  have hquiet : (w.quiet.map quietTick).filterMap Prod.snd = [] := by
    simp [List.filterMap_map, quietTick]
  unfold log report?
  rw [List.filterMap_append, hquiet]
  cases w.cut <;> rfl

end Window

/-- A history falls into closed windows and the ticks of the open one. -/
structure Partitions (log : List (Op × Option Float)) (closed : List Window) (rest : List Float) :
    Prop where
  log_eq : log = closed.flatMap Window.log ++ rest.map quietTick
  sound : ∀ w ∈ closed, w.Sound
  below : Below rest

theorem Partitions.lastReport_eq {log : List (Op × Option Float)} {closed : List Window}
    {rest : List Float} (h : Partitions log closed rest) (fps : Float) :
    lastReport log fps = (closed.filterMap Window.report?).getLastD fps := by
  have hrest : (rest.map quietTick).filterMap Prod.snd = [] := by
    simp [List.filterMap_map, quietTick]
  have hclosed : (closed.flatMap Window.log).filterMap Prod.snd = closed.filterMap Window.report? := by
    rw [List.filterMap_flatMap, List.filterMap_eq_flatMap_toList]
    simp only [Window.filterMap_log]
  unfold lastReport
  rw [h.log_eq, List.filterMap_append, hrest, List.append_nil, hclosed]

theorem Partitions.cons {log : List (Op × Option Float)} {closed : List Window} {rest : List Float}
    {w : Window} (hw : w.Sound) (h : Partitions log closed rest) :
    Partitions (w.log ++ log) (w :: closed) rest where
  log_eq := by rw [h.log_eq, List.flatMap_cons, List.append_assoc]
  sound := List.forall_mem_cons.mpr ⟨hw, h.sound⟩
  below := h.below

/-! ### What a counter holds -/

/-- The counter of an open window with the given ticks. -/
def count (lengths : List Float) : FrameRate := { ticks := lengths.length, accumulated := total lengths }

theorem total_concat (lengths : List Float) (dt : Float) : total (lengths ++ [dt]) = total lengths + dt := by
  simp [total]

theorem below_nil : Below [] := by
  intro front h
  rw [List.prefix_nil.mp h]
  decide

theorem Below.concat {lengths : List Float} {dt : Float} (h : Below lengths)
    (hlt : total (lengths ++ [dt]) < window) : Below (lengths ++ [dt]) := by
  intro front hfront
  rcases List.prefix_concat_iff.mp hfront with rfl | hfront
  · exact hlt
  · exact h front hfront

theorem count_concat (lengths : List Float) (dt : Float) :
    count (lengths ++ [dt]) = { ticks := lengths.length + 1, accumulated := total lengths + dt } := by
  simp only [count, total_concat, List.length_append, List.length_singleton]

theorem record_count (lengths : List Float) (dt : Float) :
    (count lengths).record dt =
      if total (lengths ++ [dt]) < window then (none, count (lengths ++ [dt]))
      else (some (Float.ofNat (lengths ++ [dt]).length * window / total (lengths ++ [dt])), count []) := by
  rw [count_concat, total_concat, List.length_append]
  rfl

/-- The operations that follow the ticks of an open window lengthen it or end it. -/
theorem run_count {lengths : List Float} (h : Below lengths) (ops : List Op) :
    ∃ closed rest, Partitions (lengths.map quietTick ++ ((count lengths).run ops).1) closed rest ∧
      ((count lengths).run ops).2 = count rest := by
  induction ops generalizing lengths with
  | nil => exact ⟨[], lengths, ⟨List.append_nil _, nofun, h⟩, rfl⟩
  | cons op ops ih =>
      -- after a cut the counter is empty again
      have hcut {w : Window} {entry : Op × Option Float} (hw : w.Sound)
          (hlog : w.log = lengths.map quietTick ++ [entry]) :
          ∃ closed rest, Partitions (lengths.map quietTick ++ entry :: ((count []).run ops).1) closed rest ∧
            ((count []).run ops).2 = count rest := by
        obtain ⟨closed, rest, hparts, hcount⟩ := ih below_nil
        refine ⟨w :: closed, rest, ?_, hcount⟩
        rw [List.append_cons, ← hlog]
        exact hparts.cons hw
      cases op with
      | reset => exact hcut (w := ⟨lengths, .reset⟩) ⟨h, nofun⟩ rfl
      | record dt =>
          simp only [run, perform, record_count]
          by_cases hlt : total (lengths ++ [dt]) < window
          · rw [if_pos hlt]
            obtain ⟨closed, rest, hparts, hcount⟩ := ih (h.concat hlt)
            refine ⟨closed, rest, ?_, hcount⟩
            rwa [List.map_append, List.append_assoc] at hparts
          · rw [if_neg hlt]
            refine hcut (w := ⟨lengths, .report dt _⟩) ⟨h, ?_⟩ rfl
            intro dt' fps hend
            cases hend
            exact ⟨hlt, rfl⟩

theorem run_windows (ops : List Op) :
    ∃ closed rest, Partitions (run {} ops).1 closed rest ∧ (run {} ops).2 = count rest :=
  run_count below_nil ops

end FrameRate

open FrameRate (Partitions Window count lastReport)

/-! ### The counter of a loop -/

/-- A completed tick is recorded after the observer was told of it. -/
theorem Loop.step_completed {l l' : Loop} {dt : Float} {time : WorkTime} {tick : Tick}
    (h : l.step dt time = .ok (l', .ok tick)) :
    l'.rate = (l.rate.record dt).2 ∧ l'.stats.fps = (l.rate.record dt).1.getD l.stats.fps ∧
      ∀ report ∈ tick.report?, report.stats.fps = l.stats.fps := by
  rw [step_eq] at h
  obtain ⟨r, hresult, hr⟩ := map_eq_ok_iff.mp h
  cases r with
  | error e => cases hr
  | ok d =>
      obtain rfl := dt_of_result hresult
      cases hr
      refine ⟨rfl, rfl, ?_⟩
      intro report hreport
      obtain ⟨observer, -, rfl⟩ := Option.map_eq_some_iff.mp hreport
      rfl

theorem Loop.step_refused {l l' : Loop} {dt : Float} {time : WorkTime} {e : SimulationError}
    (h : l.step dt time = .ok (l', .error e)) : l' = l.applyEdits := by
  rw [step_eq] at h
  obtain ⟨r, -, hr⟩ := map_eq_ok_iff.mp h
  cases r with
  | error e => cases hr; rfl
  | ok d => cases hr

namespace Session

/-- What an operation and its outcome do to the counter: a start of a stopped loop resets it, and a
completed tick is recorded. -/
def rateOp? (s : Session) (op : SessionOp) (o : SessionOutcome) : Option FrameRate.Op :=
  match op, o with
  | .start _, _ => if s.loop.isRunning then none else some .reset
  | _, .ticked _ => (s.tickLength? op).map .record
  | _, _ => none

/-- What a run does to the counter. -/
def rateOps (s : Session) : List SessionOp → List FrameRate.Op
  | [] => []
  | op :: ops =>
    match s.perform op with
    | .ok (s', o) => (s.rateOp? op o).toList ++ s'.rateOps ops
    | .error _ => []

variable {s s' : Session} {op : SessionOp} {o : SessionOutcome}

/-- The counter and the shown frame rate of a session come from those of another one by the given
operations on the counter. -/
structure RateAfter (ops : List FrameRate.Op) (s s' : Session) : Prop where
  rate : s'.loop.rate = (s.loop.rate.run ops).2
  fps : s'.loop.stats.fps = lastReport (s.loop.rate.run ops).1 s.loop.stats.fps

theorem RateAfter.of_eq (hrate : s'.loop.rate = s.loop.rate) (hfps : s'.loop.stats.fps = s.loop.stats.fps) :
    RateAfter [] s s' := ⟨hrate, hfps⟩

theorem RateAfter.trans {ops ops' : List FrameRate.Op} {s₁ : Session} (h : RateAfter ops s s₁)
    (h' : RateAfter ops' s₁ s') : RateAfter (ops ++ ops') s s' where
  rate := by rw [h'.rate, h.rate, FrameRate.run_append]
  fps := by rw [h'.fps, h.fps, h.rate, FrameRate.run_append, FrameRate.lastReport_append]

theorem perform_start_rate {now : Instant} (h : s.perform (.start now) = .ok (s', o)) :
    s'.loop.stats.fps = s.loop.stats.fps ∧
      s'.loop.rate = if s.loop.isRunning then s.loop.rate else {} := by
  rw [perform_start] at h
  unfold Loop.start at h
  by_cases hrunning : s.loop.isRunning
  · rw [if_pos hrunning] at h
    cases h
    exact ⟨rfl, (if_pos hrunning).symm⟩
  · rw [if_neg hrunning] at h
    cases h
    exact ⟨rfl, (if_neg hrunning).symm⟩

theorem perform_ticked_rate {tick : Tick} (h : s.perform op = .ok (s', .ticked tick)) :
    RateAfter (s.rateOp? op (.ticked tick)).toList s s' ∧
      ∀ report ∈ tick.report?, report.stats.fps = s.loop.stats.fps := by
  obtain ⟨dt, l, hdt, hstep, hloop⟩ := perform_ticked h
  obtain ⟨hrate, hfps, hreport⟩ := Loop.step_completed hstep
  have hop : s.rateOp? op (.ticked tick) = some (.record dt) := by
    cases op with
    | start now => cases hdt
    | _ => simp only [rateOp?, hdt, Option.map_some]
  refine ⟨?_, hreport⟩
  rw [hop]
  constructor
  · rw [hloop]
    exact hrate
  · rw [hloop]
    exact hfps.trans (FrameRate.lastReport_singleton _ _ _).symm

theorem frame_rate {handle : FrameHandle} {now : Instant} {time : WorkTime}
    (h : s.perform (.frame handle now time) = .ok (s', o)) (ho : ∀ tick, o ≠ .ticked tick) :
    RateAfter [] s s' := by
  have h : s.frame handle now time = .ok (s', o) := h
  by_cases hawaits : s.loop.awaits handle
  · rw [frame_of_awaits hawaits] at h
    obtain ⟨⟨l, r⟩, hstep, hs'⟩ := map_eq_ok_iff.mp h
    cases r with
    | ok tick =>
        cases hs'
        exact absurd rfl (ho tick)
    | error e =>
        cases hs'
        rw [Loop.step_refused hstep]
        exact .of_eq rfl rfl
  · rw [frame_of_not_awaits hawaits] at h
    cases h
    exact .of_eq rfl rfl

/-- What an operation does to the counter of a loop. -/
theorem perform_rate (h : s.perform op = .ok (s', o)) : RateAfter (s.rateOp? op o).toList s s' := by
  cases op with
  | start now =>
      obtain ⟨hfps, hrate⟩ := perform_start_rate h
      simp only [rateOp?]
      split_ifs at hrate ⊢
      · exact .of_eq hrate hfps
      · exact ⟨hrate, hfps⟩
  | stop =>
      cases h
      exact .of_eq rfl rfl
  | frame handle now time =>
      cases o with
      | ticked tick => exact (perform_ticked_rate h).1
      | _ => exact frame_rate h nofun
  | step dt time =>
      obtain ⟨⟨l, r⟩, hstep, hs'⟩ := bind_eq_ok_iff.mp h
      cases r with
      | ok tick =>
          cases hs'
          exact (perform_ticked_rate h).1
      | error e =>
          cases hs'
          rw [Loop.step_refused hstep]
          exact .of_eq rfl rfl
  | _ =>
      cases h
      exact .of_eq rfl rfl

theorem run_rate {ops : List SessionOp} {outcomes : List SessionOutcome}
    (h : s.run ops = .ok (s', outcomes)) : RateAfter (s.rateOps ops) s s' := by
  induction ops generalizing s outcomes with
  | nil =>
      cases h
      exact .of_eq rfl rfl
  | cons op ops ih =>
      obtain ⟨⟨s₁, o⟩, h₁, h⟩ := bind_eq_ok_iff.mp h
      obtain ⟨⟨s₂, rest⟩, h₂, h⟩ := bind_eq_ok_iff.mp h
      cases h
      simp only [rateOps, h₁]
      exact (perform_rate h₁).trans (ih h₂)

/-- **Windows of the frame rate.**  Every history of a counter is cut into windows by its resets and its
reports: a tick is answered by a report exactly if it fills the window, and the report is the number of
ticks since the last cut, times the length of a window, over their total length.  The counter holds the ticks
of the open window and is never full.

After any operations on a fresh loop its counter has this form for the ticks that the loop completed, cut
besides where it was started, and the frame rate in its figures is the last report.  A start drops the open
window and keeps the frame rate, and an observer is told the frame rate from before the tick. -/
theorem fps_windows :
    (∀ ops : List FrameRate.Op, ∃ closed rest, Partitions (FrameRate.run {} ops).1 closed rest ∧
      (FrameRate.run {} ops).2 = count rest ∧
      (FrameRate.run {} ops).2.accumulated < FrameRate.window) ∧
    ∀ config bodies loop queue ops s outcomes, Loop.make config bodies = .ok loop →
      Session.run { loop, queue } ops = .ok (s, outcomes) →
      (∃ closed rest, Partitions (FrameRate.run {} (rateOps { loop, queue } ops)).1 closed rest ∧
        s.loop.rate = count rest ∧
        s.loop.stats.fps = (closed.filterMap Window.report?).getLastD 0) ∧
      (∀ now s' o, s.perform (.start now) = .ok (s', o) → s'.loop.stats.fps = s.loop.stats.fps ∧
        s'.loop.rate = if s.loop.isRunning then s.loop.rate else {}) ∧
      ∀ op s' tick, s.perform op = .ok (s', .ticked tick) →
        ∀ report ∈ tick.report?, report.stats.fps = s.loop.stats.fps := by
  refine ⟨?_, ?_⟩
  · intro ops
    obtain ⟨closed, rest, hparts, hcount⟩ := FrameRate.run_windows ops
    refine ⟨closed, rest, hparts, hcount, ?_⟩
    rw [hcount]
    exact hparts.below rest (List.prefix_refl rest)
  · intro config bodies loop queue ops s outcomes hmake hrun
    refine ⟨?_, fun now s' o h => perform_start_rate h, fun op s' tick h => (perform_ticked_rate h).2⟩
    obtain ⟨-, rfl⟩ := Loop.make_eq_ok hmake
    obtain ⟨hrate, hfps⟩ := run_rate hrun
    obtain ⟨closed, rest, hparts, hcount⟩ := FrameRate.run_windows (rateOps _ ops)
    exact ⟨closed, rest, hparts, hrate.trans hcount, hfps.trans (hparts.lastReport_eq 0)⟩

/-- Two ticks fill a window, a third one is dropped by a start and a failed step is not recorded; a tick after the
start is in the open window.  The tick that fills this window too is reported with the old frame rate. -/
theorem fps_windows_restarted :
    ∃ loop s s' tick report outcomes closed rest,
      Loop.make { grid := { enabled := false } } [] = .ok loop ∧
      Session.run { loop } [.observe {}, .step 40, .step 35, .step 7, .start 5, .step (-1), .step 10] =
        .ok (s, outcomes) ∧
      Partitions [(.record 40, none), (.record 35, some 1.6), (.record 7, none), (.reset, none),
        (.record 10, none)] closed rest ∧
      s.loop.rate = count rest ∧ s.loop.stats.fps = 1.6 ∧
      s.perform (.step 50) = .ok (s', .ticked tick) ∧ tick.report? = some report ∧
      report.stats.fps = 1.6 ∧ s'.loop.stats.fps = 2 := by
  have hmake : Loop.make { grid := { enabled := false } } [] = .ok _ := rfl
  have hrun : Session.run { loop := {
        config := { grid := { enabled := false } }
        bodies := []
        grid := { config := { enabled := false } } } }
      [.observe {}, .step 40, .step 35, .step 7, .start 5, .step (-1), .step 10] = .ok (_, _) := rfl
  obtain ⟨⟨closed, rest, hparts, hrate, -⟩, -, hreport⟩ := fps_windows.2 _ _ _ _ _ _ _ hmake hrun
  rw [show (FrameRate.run {} _).1 = [(.record 40, none), (.record 35, some 1.6), (.record 7, none),
    (.reset, none), (.record 10, none)] by decide +kernel] at hparts
  exact ⟨_, _, _, _, _, _, closed, rest, hmake, hrun, hparts, hrate, by decide +kernel, rfl, rfl,
    (hreport (.step 50) _ _ rfl _ rfl).trans (by decide +kernel), by decide +kernel⟩

end Session

end Broadphase
