import Broadphase.Proofs.Benchmark.Sweep
import Broadphase.Proofs.Sampling.Spawn

/-! # The built-in comparison never fails

`Harness.make` compares testing every pair with the grid.  Ranges that pass their check yield as many
rectangles as they are asked for, whatever the seed (`ShapeRanges.exists_rects`), and on any rectangles
both detectors list the overlapping pairs.  So nothing is left to fail: every comparison counts the
overlapping pairs of its rectangles, and every entry of a sweep is a measurement
(`builtIn_never_fails`). -/

namespace Broadphase

theorem ShapeRanges.exists_rects {d : ShapeRanges} (h : d.validate = .ok ()) (count : ℕ)
    (seed : UInt64) : ∃ rects, d.rects count seed = .ok rects ∧ rects.size = count := by
  have hdraw (k : ℕ) (g : Random) : ∃ r g', d.drawRect g = .ok (r, g') ∧ True := by
    obtain ⟨r, g', hr⟩ := (valid_of_validate h).drawRect g
    exact ⟨r, g', hr, trivial⟩
  have hempty : EachFits (fun _ _ => True) (#[] : Array Rect) := fun _ _ => trivial
  obtain ⟨rects, hrects, hsize, -⟩ := drawMany_ok hdraw count (.ofSeed seed) hempty
  rw [Array.size_empty, Nat.zero_add] at hsize
  refine ⟨rects, ?_, hsize⟩
  unfold ShapeRanges.rects
  rw [h]
  exact hrects

namespace Detection

theorem exists_hashed {config : GridConfig} (hconfig : config.validate = .ok ())
    (halloc : config.allocatable) (rects : Array Rect) :
    ∃ d, hashed config rects = .ok (.ok d) ∧ ListsOverlaps rects d.pairs := by
  obtain ⟨g, hg, hkept, hholds⟩ := (Grid.kept_empty config).rebuild halloc rects
  refine ⟨(g.collect rects).2, ?_, hholds.collect_listsOverlaps (hkept.config_eq ▸ hconfig)⟩
  rw [hashed_eq hconfig, Grid.detect_of_rebuild hg]
  rfl

/-- There are at most as many overlapping pairs as pairs. -/
theorem ncard_isOverlap_le (rects : Array Rect) :
    {p | IsOverlap rects p}.ncard ≤ rects.size * (rects.size - 1) / 2 := by
  have hlists := exhaustive_listsOverlaps rects
  rw [IndexPair.ncard_eq_length hlists.increasing hlists.mem_iff, exhaustive_eq, List.length_flatMap,
    ← sum_length_indicesAfter]
  exact List.sum_le_sum fun i _ => List.length_filterMap_le _ _

end Detection

namespace Harness

theorem make_eq_ok {config : HarnessConfig} {h : Harness} (hmake : make config = .ok h) :
    config.grid.validate = .ok () ∧ config.iterations ≠ 0 ∧ config.shape.validate = .ok () ∧
      h = ⟨config, .exhaustive, ⟨"spatial-hash", Detection.hashed config.grid⟩⟩ := by
  unfold make Detector.hashed at hmake
  cases hgrid : config.grid.validate with
  | error e =>
      rw [hgrid] at hmake
      cases hmake
  | ok u =>
      rw [hgrid] at hmake
      obtain ⟨hiter, hshape, rfl⟩ := withDetectors_eq_ok hmake
      exact ⟨rfl, hiter, hshape, rfl⟩

/-- Both detectors always answer, and list the overlapping pairs. -/
theorem exists_find_of_make {config : HarnessConfig} {h : Harness} (hmake : make config = .ok h)
    (halloc : config.grid.allocatable) :
    ∃ find : Array Rect → Detection, h.baseline.Computes (fun rects => .ok (.exhaustive rects)) ∧
      h.accelerated.Computes (fun rects => .ok (find rects)) ∧
      ∀ rects, Detection.ListsOverlaps rects (find rects).pairs := by
  obtain ⟨hgrid, -, -, rfl⟩ := make_eq_ok hmake
  choose find hhashed hlists using Detection.exists_hashed hgrid halloc
  exact ⟨find, fun _ => rfl, hhashed, hlists⟩

/-- The result counts the overlapping pairs of the `n` rectangles that the settings generate.  Up to a
size of `2 ^ 32` the count fits into its word. -/
def CountsOverlaps (config : HarnessConfig) (n : UInt64) (r : BenchmarkResult) : Prop :=
  ∃ rects, config.shape.rects n.toNat (config.seed ^^^ n) = .ok rects ∧ rects.size = n.toNat ∧
    r.objectCount = n ∧ r.collisionCount = {p | Detection.IsOverlap rects p}.ncard.toUInt64 ∧
    (n.toNat ≤ 2 ^ 32 → r.collisionCount.toNat = {p | Detection.IsOverlap rects p}.ncard)

theorem countsOverlaps_of_word {config : HarnessConfig} {n : UInt64} {r : BenchmarkResult}
    {rects : Array Rect} (hrects : config.shape.rects n.toNat (config.seed ^^^ n) = .ok rects)
    (hsize : rects.size = n.toNat) (hn : r.objectCount = n)
    (hword : r.collisionCount = {p | Detection.IsOverlap rects p}.ncard.toUInt64) :
    CountsOverlaps config n r := by
  refine ⟨rects, hrects, hsize, hn, hword, fun hle => ?_⟩
  have hpairs := Detection.ncard_isOverlap_le rects
  rw [← hsize] at hle
  have hprod : rects.size * (rects.size - 1) ≤ 2 ^ 32 * 2 ^ 32 := Nat.mul_le_mul hle (by omega)
  rw [hword]
  exact UInt64.toNat_ofNat_of_lt' (by rw [UInt64.size]; omega)

/-- Detectors that list the overlapping pairs agree on their number. -/
theorem verdict_of_listsOverlaps {config : HarnessConfig} {find find' : Array Rect → Detection}
    (hfind : ∀ rects, Detection.ListsOverlaps rects (find rects).pairs)
    (hfind' : ∀ rects, Detection.ListsOverlaps rects (find' rects).pairs) {n : UInt64}
    {rects : Array Rect} (hrects : config.shape.rects n.toNat (config.seed ^^^ n) = .ok rects) :
    verdict config (fun rects => .ok (find rects)) (fun rects => .ok (find' rects)) n =
      .ok {p | Detection.IsOverlap rects p}.ncard := by
  have hcount := IndexPair.ncard_eq_length (hfind rects).increasing (hfind rects).mem_iff
  have hequal := (hfind rects).unique (hfind' rects)
  unfold verdict
  simp only [hrects, hcount, hequal, if_true]

/-- **The built-in comparison never fails.**  With settings that pass their check and a bucket that can
be set aside, every comparison succeeds and counts the overlapping pairs of the generated rectangles,
whatever their number.  So every entry of a sweep is such a measurement. -/
theorem builtIn_never_fails {config : HarnessConfig} {h : Harness} (hmake : make config = .ok h)
    (halloc : config.grid.allocatable) {σ : Type} (clock : StateM σ Instant)
    (listener : SweepEntry → StateM σ Unit) :
    (∀ n w, ∃ r w', Completes (h.runBenchmark clock n).run w (.ok r) w' ∧ CountsOverlaps config n r) ∧
    ∀ sizes w, ∃ entries w',
      Completes (h.runSweep (beside clock) (recorded listener) sizes) (w, []) entries (w', entries) ∧
      List.Forall₂ (fun n e => ∃ r, e = .measured r ∧ CountsOverlaps config n r) sizes entries := by
  obtain ⟨find, hbase, hacc, hlists⟩ := exists_find_of_make hmake halloc
  obtain ⟨-, hiter, hshape, hh⟩ := make_eq_ok hmake
  obtain rfl : h.config = config := congrArg Harness.config hh
  have hverdict (n : UInt64) : ∃ rects, h.config.shape.rects n.toNat (h.config.seed ^^^ n) = .ok rects ∧
      rects.size = n.toNat ∧
      verdict h.config (fun rects => .ok (.exhaustive rects)) (fun rects => .ok (find rects)) n =
        .ok {p | Detection.IsOverlap rects p}.ncard := by
    obtain ⟨rects, hrects, hsize⟩ := ShapeRanges.exists_rects hshape n.toNat (h.config.seed ^^^ n)
    exact ⟨rects, hrects, hsize,
      verdict_of_listsOverlaps Detection.exhaustive_listsOverlaps hlists hrects⟩
  constructor
  · intro n w
    obtain ⟨rects, hrects, hsize, hn⟩ := hverdict n
    obtain ⟨outcome, w', hrun, -, hconcludes⟩ :=
      runBenchmark_completes clock (P := fun _ => True) (fun _ _ => trivial) hiter hbase hacc n
        (w := w) trivial
    rw [hn] at hconcludes
    obtain ⟨r, rfl, hcount, hword⟩ := hconcludes.of_ok
    exact ⟨r, w', hrun, countsOverlaps_of_word hrects hsize hcount hword⟩
  · intro sizes w
    obtain ⟨entries, w', hrun, hreports⟩ :=
      runSweep_completes clock listener hiter hbase hacc sizes w []
    refine ⟨entries, w', hrun, hreports.imp fun n e hreport => ?_⟩
    obtain ⟨rects, hrects, hsize, hn⟩ := hverdict n
    rw [hn] at hreport
    obtain ⟨r, rfl, hcount, hword⟩ := hreport.of_ok
    exact ⟨r, rfl, countsOverlaps_of_word hrects hsize hcount hword⟩

/-- Rectangles that fill their arena and are oversized for the grid: any two of them overlap. -/
theorem builtIn_never_fails_crowded :
    ∃ h, make { shape := { arenaWidth := 20, arenaHeight := 20, minSize := 20 }
                grid := { cellSize := 0.001 } } = .ok h ∧
      (∃ r w', Completes (h.runBenchmark (modifyGet fun t => (t, t + 5)) 3).run (0 : ℕ) (.ok r) w' ∧
        r.objectCount = 3 ∧ r.collisionCount = 3) ∧
      ∃ r r' w', Completes (h.runSweep (beside (modifyGet fun t => (t, t + 5)))
        (recorded fun _ => pure ()) [2, 0]) ((0 : ℕ), []) [.measured r, .measured r']
          (w', [.measured r, .measured r']) := by
  have hmake : make { shape := { arenaWidth := 20, arenaHeight := 20, minSize := 20 }
                      grid := { cellSize := 0.001 } } = .ok _ := rfl
  obtain ⟨hone, hmany⟩ :=
    builtIn_never_fails hmake (by decide) (modifyGet fun t : ℕ => (t, t + 5)) (fun _ => pure ())
  obtain ⟨r, w', hrun, rects, hrects, -, hn, hword, -⟩ := hone 3 0
  obtain ⟨entries, w'', hsweep, hmeasured⟩ := hmany [2, 0] 0
  obtain ⟨⟩ | ⟨⟨r₁, rfl, -⟩, ⟨⟩ | ⟨⟨r₂, rfl, -⟩, ⟨⟩⟩⟩ := hmeasured
  refine ⟨_, hmake, ⟨r, w', hrun, hn, ?_⟩, r₁, r₂, w'', hsweep⟩
  have hlists := Detection.exhaustive_listsOverlaps rects
  rw [hword, IndexPair.ncard_eq_length hlists.increasing hlists.mem_iff]
  cases hrects
  decide +kernel

end Harness

end Broadphase
