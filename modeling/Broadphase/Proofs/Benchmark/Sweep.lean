import Broadphase.Benchmark.Harness
import Broadphase.Proofs.World

/-! # What a sweep reports

A comparison runs each detector once, then several times between two readings of the clock, and it ends
at the first failure.  `Harness.verdict` says what it comes to on one size, without the repetitions and
the clock: the number of pairs that both detectors find, or the first failure.  A detector that answers once
gives the same answer again, so nothing can fail after the clock was read but the comparison of the two
counts (`runBenchmark_of_ok`).

A sweep reports the verdict on every size in order, and its listener hears every entry once and in that
order, whatever the clock shows and whatever the listener does (`sweep_isolates_failures`). -/

namespace Broadphase

/-- What a detector computes that never needs a bucket which cannot be set aside. -/
abbrev Finder := Array Rect → Except GeometryError Detection

def Detector.Computes (d : Detector) (find : Finder) : Prop :=
  ∀ rects, d.detect rects = .ok (find rects)

namespace Harness

/-- What a comparison on `n` rectangles comes to: the number of pairs, or the first failure. -/
def verdict (config : HarnessConfig) (baseline accelerated : Finder) (n : UInt64) :
    Except BenchmarkError ℕ :=
  match config.shape.rects n.toNat (config.seed ^^^ n) with
  | .error e => .error (.geometry e)
  | .ok rects =>
    match baseline rects, accelerated rects with
    | .error e, _ => .error (.geometry e)
    | .ok _, .error e => .error (.geometry e)
    | .ok b, .ok a =>
      if b.pairs.length = a.pairs.length then .ok b.pairs.length
      else .error (.countMismatch n b.pairs.length a.pairs.length)

/-! ### One comparison -/

section comparison

variable {m : Type → Type} [Monad m] [LawfulMonad m]

theorem countPairs_of_ok {d : Detector} {rects : Array Rect} {found : Detection}
    (h : d.detect rects = .ok (.ok found)) :
    countPairs (m := m) d rects = pure found.pairs.length := by
  unfold countPairs
  rw [h]
  simp [require]

theorem countPairs_of_error {d : Detector} {rects : Array Rect} {e : GeometryError}
    (h : d.detect rects = .ok (.error e)) : countPairs (m := m) d rects = throw (.geometry e) := by
  unfold countPairs
  rw [h]
  simp [require]

/-- Every repetition counts what the first one counts. -/
theorem repeatCount_of_ok {d : Detector} {rects : Array Rect} {found : Detection}
    (h : d.detect rects = .ok (.ok found)) (n count : ℕ) :
    repeatCount (m := m) d rects (n + 1) count = pure found.pairs.length := by
  induction n generalizing count with
  | zero => simp [repeatCount, countPairs_of_ok h]
  | succ n ih => rw [repeatCount, countPairs_of_ok h, pure_bind, ih]

/-- The mean time of a run between two readings of the clock. -/
def meanMs (h : Harness) (started ended : Instant) : Float :=
  Binary64.larger (Clock.elapsedMs started ended / Float.ofNat h.config.iterations.toNat) minMeasuredMs

variable {h : Harness} {n : UInt64} {rects : Array Rect} (now : m Instant)

theorem measure_of_ok (hiter : h.config.iterations ≠ 0) {d : Detector} {found : Detection}
    (hd : d.detect rects = .ok (.ok found)) :
    h.measure now d rects = (do
      let started ← act now
      let ended ← act now
      return (h.meanMs started ended, found.pairs.length)) := by
  obtain ⟨k, hk⟩ : ∃ k, h.config.iterations.toNat = k + 1 :=
    Nat.exists_eq_succ_of_ne_zero (by simpa [← UInt32.toNat_inj] using hiter)
  unfold measure meanMs
  simp only [hk, repeatCount_of_ok hd, pure_bind]

theorem runBenchmark_of_rects_error {e : GeometryError} (hrects : h.rects n = .error e) :
    h.runBenchmark now n = throw (.geometry e) := by
  unfold runBenchmark
  rw [hrects]
  simp [require]

theorem runBenchmark_of_baseline_error {e : GeometryError} (hrects : h.rects n = .ok rects)
    (hb : h.baseline.detect rects = .ok (.error e)) :
    h.runBenchmark now n = throw (.geometry e) := by
  unfold runBenchmark
  rw [hrects]
  simp [require, countPairs_of_error hb]

theorem runBenchmark_of_accelerated_error {b : Detection} {e : GeometryError}
    (hrects : h.rects n = .ok rects) (hb : h.baseline.detect rects = .ok (.ok b))
    (ha : h.accelerated.detect rects = .ok (.error e)) :
    h.runBenchmark now n = throw (.geometry e) := by
  unfold runBenchmark
  rw [hrects]
  simp [require, countPairs_of_ok hb, countPairs_of_error ha]

/-- What is left of a comparison once both counts are known: four readings of the clock. -/
def timed (h : Harness) (n : UInt64) (b a : ℕ) : Run m BenchmarkResult := do
  let began ← act now
  let ended ← act now
  let began' ← act now
  let ended' ← act now
  if b ≠ a then throw (.countMismatch n b a)
  return {
    objectCount := n
    naiveTimeMs := h.meanMs began ended
    spatialTimeMs := h.meanMs began' ended'
    speedup := h.meanMs began ended / h.meanMs began' ended'
    collisionCount := b.toUInt64 }

theorem runBenchmark_of_ok (hiter : h.config.iterations ≠ 0) {b a : Detection}
    (hrects : h.rects n = .ok rects) (hb : h.baseline.detect rects = .ok (.ok b))
    (ha : h.accelerated.detect rects = .ok (.ok a)) :
    h.runBenchmark now n = timed now h n b.pairs.length a.pairs.length := by
  unfold runBenchmark timed
  rw [hrects]
  simp only [require, pure_bind, bind_assoc, countPairs_of_ok hb, countPairs_of_ok ha,
    measure_of_ok now hiter hb, measure_of_ok now hiter ha]

end comparison

/-! ### Comparisons in a world with a clock -/

/-- The outcome of a comparison, its times left open, agrees with a verdict. -/
def Concludes (n : UInt64) :
    Except BenchmarkError ℕ → Except BenchmarkError BenchmarkResult → Prop
  | .ok count, .ok r => r.objectCount = n ∧ r.collisionCount = count.toUInt64
  | .error cause, .error cause' => cause' = cause
  | _, _ => False

theorem Concludes.of_ok {n : UInt64} {count : ℕ} {outcome : Except BenchmarkError BenchmarkResult}
    (h : Concludes n (.ok count) outcome) :
    ∃ r, outcome = .ok r ∧ r.objectCount = n ∧ r.collisionCount = count.toUInt64 := by
  cases outcome with
  | ok r => exact ⟨r, rfl, h⟩
  | error e => exact h.elim

section world

variable {σ : Type} {P : σ → Prop} {clock : StateM σ Instant}

/-- Reading the clock changes nothing else about the world. -/
theorem timed_completes (hclock : ∀ w, P w → P (clock.run w).2) (h : Harness) (n : UInt64) (b a : ℕ)
    {w : σ} (hw : P w) :
    ∃ outcome w', Completes (timed clock h n b a).run w outcome w' ∧ P w' ∧
      Concludes n (if b = a then .ok b else .error (.countMismatch n b a)) outcome := by
  have hw' := hclock _ (hclock _ (hclock _ (hclock w hw)))
  unfold timed
  by_cases hba : b = a
  · simp only [ne_eq, hba, not_true_eq_false, if_false, if_true]
    exact ⟨_, _, rfl, hw', rfl, rfl⟩
  · simp only [ne_eq, hba, not_false_eq_true, if_true, if_false]
    exact ⟨_, _, rfl, hw', rfl⟩

variable {h : Harness} {baseline accelerated : Finder}

variable (clock) in
/-- A comparison ends with the verdict, whatever the clock shows. -/
theorem runBenchmark_completes (hclock : ∀ w, P w → P (clock.run w).2)
    (hiter : h.config.iterations ≠ 0) (hbase : h.baseline.Computes baseline)
    (hacc : h.accelerated.Computes accelerated) (n : UInt64) {w : σ} (hw : P w) :
    ∃ outcome w', Completes (h.runBenchmark clock n).run w outcome w' ∧ P w' ∧
      Concludes n (verdict h.config baseline accelerated n) outcome := by
  unfold verdict
  cases hrects : h.config.shape.rects n.toNat (h.config.seed ^^^ n) with
  | error e =>
      rw [runBenchmark_of_rects_error clock hrects]
      exact ⟨_, w, rfl, hw, rfl⟩
  | ok rects =>
      dsimp only
      have hb := hbase rects
      have ha := hacc rects
      cases hfound : baseline rects with
      | error e =>
          rw [runBenchmark_of_baseline_error clock hrects (hfound ▸ hb)]
          exact ⟨_, w, rfl, hw, rfl⟩
      | ok b =>
          cases hfound' : accelerated rects with
          | error e =>
              rw [runBenchmark_of_accelerated_error clock hrects (hfound ▸ hb) (hfound' ▸ ha)]
              exact ⟨_, w, rfl, hw, rfl⟩
          | ok a =>
              rw [runBenchmark_of_ok clock hiter hrects (hfound ▸ hb) (hfound' ▸ ha)]
              exact timed_completes hclock h n b.pairs.length a.pairs.length hw

end world

/-! ### Sweeps -/

/-- The entry, its times left open, reports a verdict. -/
def Reports (n : UInt64) (v : Except BenchmarkError ℕ) : SweepEntry → Prop
  | .measured r => r.objectCount = n ∧ ∃ count, v = .ok count ∧ r.collisionCount = count.toUInt64 ∧
      (count < 2 ^ 64 → r.collisionCount.toNat = count)
  | .failed n' reason => n' = n ∧ ∃ cause, v = .error cause ∧ reason = cause.message

/-- The entry for the outcome of a comparison. -/
def entryOf (n : UInt64) : Except BenchmarkError BenchmarkResult → SweepEntry
  | .ok r => .measured r
  | .error e => .failed n e.message

theorem Concludes.reports {n : UInt64} {v : Except BenchmarkError ℕ}
    {outcome : Except BenchmarkError BenchmarkResult} (h : Concludes n v outcome) :
    Reports n v (entryOf n outcome) := by
  cases v with
  | ok count =>
      cases outcome with
      | ok r =>
          obtain ⟨hn, hcount⟩ := h
          refine ⟨hn, count, rfl, hcount, fun hlt => ?_⟩
          rw [hcount]
          exact UInt64.toNat_ofNat_of_lt' hlt
      | error e => exact h.elim
  | error cause =>
      cases outcome with
      | ok r => exact h.elim
      | error e =>
          obtain rfl := h
          exact ⟨rfl, e, rfl, rfl⟩

theorem Reports.of_ok {n : UInt64} {count : ℕ} {e : SweepEntry} (h : Reports n (.ok count) e) :
    ∃ r, e = .measured r ∧ r.objectCount = n ∧ r.collisionCount = count.toUInt64 := by
  cases e with
  | measured r =>
      obtain ⟨hn, count', hcount, hword, -⟩ := h
      cases hcount
      exact ⟨r, rfl, hn, hword⟩
  | failed n' reason =>
      obtain ⟨-, cause, hcause, -⟩ := h
      cases hcause

theorem Reports.of_error {n : UInt64} {cause : BenchmarkError} {e : SweepEntry}
    (h : Reports n (.error cause) e) : e = .failed n cause.message := by
  cases e with
  | measured r =>
      obtain ⟨-, count, hcount, -⟩ := h
      cases hcount
  | failed n' reason =>
      obtain ⟨rfl, cause', hcause, rfl⟩ := h
      cases hcause
      rfl

variable {σ : Type}

/-- A clock in a world beside which a record is kept. -/
def beside (clock : StateM σ Instant) : StateM (σ × List SweepEntry) Instant :=
  fun w => ((clock.run w.1).1, (clock.run w.1).2, w.2)

/-- A listener and the record of what it hears. -/
def recorded (listener : SweepEntry → StateM σ Unit) (e : SweepEntry) :
    StateM (σ × List SweepEntry) Unit :=
  fun w => ((), ((listener e).run w.1).2, w.2 ++ [e])

variable {h : Harness} {baseline accelerated : Finder} (clock : StateM σ Instant)
  (listener : SweepEntry → StateM σ Unit)

theorem runSweep_cons {n : UInt64} {ns : List UInt64} {w w₁ w₂ : σ × List SweepEntry}
    {outcome : Except BenchmarkError BenchmarkResult} {entries : List SweepEntry}
    (hn : Completes (h.runBenchmark (beside clock) n).run w outcome w₁)
    (hns : Completes (h.runSweep (beside clock) (recorded listener) ns)
      ((recorded listener (entryOf n outcome)).run w₁).2 entries w₂) :
    Completes (h.runSweep (beside clock) (recorded listener) (n :: ns)) w
      (entryOf n outcome :: entries) w₂ := by
  rw [runSweep]
  refine hn.bind ((completes_lift _ w₁).bind ?_)
  exact hns.bind (completes_pure _ w₂)

/-- Every size adds the report of its verdict to the entries and to the record. -/
theorem runSweep_completes (hiter : h.config.iterations ≠ 0) (hbase : h.baseline.Computes baseline)
    (hacc : h.accelerated.Computes accelerated) (sizes : List UInt64) (w : σ)
    (heard : List SweepEntry) :
    ∃ entries w', Completes (h.runSweep (beside clock) (recorded listener) sizes) (w, heard) entries
        (w', heard ++ entries) ∧
      List.Forall₂ (fun n => Reports n (verdict h.config baseline accelerated n)) sizes entries := by
  induction sizes generalizing w heard with
  | nil =>
      refine ⟨[], w, ?_, .nil⟩
      rw [List.append_nil]
      exact completes_pure [] (w, heard)
  | cons n ns ih =>
      -- the clock leaves the record alone, and the listener adds the entry to it
      have hclock (w : σ × List SweepEntry) (hw : w.2 = heard) :
          ((beside clock).run w).2.2 = heard := hw
      obtain ⟨outcome, ⟨w₁, heard₁⟩, hn, hheard, hconcludes⟩ :=
        runBenchmark_completes (beside clock) hclock hiter hbase hacc n (w := (w, heard)) rfl
      obtain rfl : heard₁ = heard := hheard
      obtain ⟨entries, w₂, hns, hreports⟩ :=
        ih ((listener (entryOf n outcome)).run w₁).2 (heard₁ ++ [entryOf n outcome])
      rw [List.append_assoc] at hns
      exact ⟨entryOf n outcome :: entries, w₂, runSweep_cons clock listener hn hns,
        .cons hconcludes.reports hreports⟩

theorem withDetectors_eq_ok {config : HarnessConfig} {d d' : Detector}
    (hmake : withDetectors config d d' = .ok h) :
    config.iterations ≠ 0 ∧ config.shape.validate = .ok () ∧ h = ⟨config, d, d'⟩ := by
  unfold withDetectors at hmake
  split_ifs at hmake with hiter
  split at hmake
  next hshape =>
    cases hmake
    exact ⟨hiter, hshape, rfl⟩
  next => cases hmake

/-- **A sweep isolates failures.**  For any two detectors, any clock and any listener, a sweep returns
one entry for each size in order, and its listener hears these entries once each in this order.  Each
entry reports the verdict on its own size: a measurement with the number of pairs if both detectors succeed
with equal counts, and otherwise the text of the first failure. -/
theorem sweep_isolates_failures {config : HarnessConfig} {name name' : String}
    (hmake : withDetectors config (.ofFunction name baseline) (.ofFunction name' accelerated) = .ok h)
    (sizes : List UInt64) (w : σ) :
    ∃ entries w', Completes (h.runSweep (beside clock) (recorded listener) sizes) (w, []) entries
        (w', entries) ∧
      List.Forall₂ (fun n => Reports n (verdict config baseline accelerated n)) sizes entries := by
  obtain ⟨hiter, -, rfl⟩ := withDetectors_eq_ok hmake
  exact runSweep_completes clock listener hiter (fun _ => rfl) (fun _ => rfl) sizes w []

/-- A detector that refuses more than one rectangle fails on the first size and on no other one. -/
theorem sweep_isolates_failures_refusing :
    ∃ h r r' w', withDetectors {} (.ofFunction "all" fun rects => .ok (.exhaustive rects))
        (.ofFunction "one" fun rects =>
          if rects.size > 1 then .error (.cellSize 0) else .ok (.exhaustive rects)) = .ok h ∧
      Completes (h.runSweep (beside (modifyGet fun t => (t, t + 5))) (recorded fun _ => modify (· + 7))
          [2, 1, 0]) (0, [])
        [.failed 2 "invalid cell size 0: must be finite and greater than zero", .measured r,
          .measured r']
        (w', [.failed 2 "invalid cell size 0: must be finite and greater than zero", .measured r,
          .measured r']) ∧
      r.objectCount = 1 ∧ r.collisionCount = 0 ∧ r'.objectCount = 0 ∧ r'.collisionCount = 0 := by
  have hmake : withDetectors {} (.ofFunction "all" fun rects => .ok (.exhaustive rects))
      (.ofFunction "one" fun rects =>
        if rects.size > 1 then .error (.cellSize 0) else .ok (.exhaustive rects)) = .ok _ := rfl
  obtain ⟨entries, w', hrun, hreports⟩ := sweep_isolates_failures (modifyGet fun t => (t, t + 5))
    (fun _ => modify (· + 7)) hmake [2, 1, 0] (0 : ℕ)
  obtain ⟨⟩ | ⟨h₂, ⟨⟩ | ⟨h₁, ⟨⟩ | ⟨h₀, ⟨⟩⟩⟩⟩ := hreports
  rw [show verdict {} _ _ 2 = .error (.geometry (.cellSize 0)) by decide +kernel] at h₂
  rw [show verdict {} _ _ 1 = .ok 0 by decide +kernel] at h₁
  rw [show verdict {} _ _ 0 = .ok 0 by decide +kernel] at h₀
  obtain rfl := h₂.of_error
  obtain ⟨r, rfl, hn, hcount⟩ := h₁.of_ok
  obtain ⟨r', rfl, hn', hcount'⟩ := h₀.of_ok
  exact ⟨_, r, r', w', hmake, hrun, hn, hcount, hn', hcount'⟩

end Harness

end Broadphase
