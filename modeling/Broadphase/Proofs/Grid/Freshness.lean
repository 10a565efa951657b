import Broadphase.Proofs.Grid.Occupancy

/-! # A used grid is as good as a fresh one

A grid keeps its buckets, its list of oversized rectangles and its marks from one operation to the next.
None of them matters to a build: recycled buckets are empty, the list begins anew, and a collection wipes
the marks.  So after any history a build has the occupancy of a fresh one, a detection finds what a
fresh grid finds with as many tests, and a query leaves nothing behind that a later operation could
show (`detect_after_any_history`). -/

namespace Broadphase

namespace Grid

variable {config : GridConfig} {g : Grid} {built : Array Rect}

/-- The occupancy of a build, as far as its rectangles tell. -/
def occupancy (config : GridConfig) (built : Array Rect) : GridStats where
  occupiedCells := (entries config built).dedup.length
  maxBucketLen := ((entries config built).dedup.map (crowd config built)).foldl max 0
  totalEntries := (entries config built).length
  oversized := built.toList.countP fun r => Oversized config built.size r

theorem Holds.stats_eq (h : g.Holds built) : g.stats = occupancy g.config built := by
  have hcells : g.stats.occupiedCells = (entries g.config built).dedup.length :=
    h.occupiedCells.trans (List.card_toFinset _)
  rw [occupancy, ← hcells, ← h.maxBucketLen_eq, ← h.totalEntries, ← h.oversized]

/-- A detection on a grid in whatever state tests the candidates and finds those that overlap. -/
theorem Kept.exists_detect (h : Kept config g) (halloc : config.allocatable) (rects : Array Rect) :
    ∃ g', g.detect rects = .ok (g',
      { pairs := (candidatePairs config rects).filter fun p =>
          Detection.overlapAt rects p.first p.second
        checks := (candidatePairs config rects).length }) := by
  obtain ⟨built, hbuilt, hk, hholds⟩ := h.rebuild halloc rects
  have hfound := hholds.collect_eq (rfl : rects.size = rects.size)
  rw [hk.config_eq] at hfound
  exact ⟨(built.collect rects).1, hfound ▸ detect_of_rebuild hbuilt⟩

/-- What hashing finds, as far as the rectangles tell. -/
theorem hashed_eq_candidatePairs (hconfig : config.validate = .ok ()) (halloc : config.allocatable)
    (rects : Array Rect) :
    Detection.hashed config rects = .ok (.ok
      { pairs := (candidatePairs config rects).filter fun p =>
          Detection.overlapAt rects p.first p.second
        checks := (candidatePairs config rects).length }) := by
  obtain ⟨g, hg⟩ := (kept_empty config).exists_detect halloc rects
  rw [Detection.hashed_eq hconfig, hg]
  rfl

/-- **A used grid is as good as a fresh one.**  After any operations a build leaves the occupancy of a
fresh grid.  A detection leaves it, too, and finds what a fresh grid finds with as many tests.  A query
changes neither the occupancy nor the answer to anything after it: the operations that follow end with
the same grid but for its marks. -/
theorem detect_after_any_history (config : GridConfig) (hconfig : config.validate = .ok ())
    (halloc : config.allocatable) (before : List GridOp) :
    ∃ fresh g answers, make config = .ok fresh ∧ fresh.run before = .ok (g, answers) ∧
      (∀ rects, ∃ built built' found d, fresh.rebuild rects = .ok built ∧
        g.rebuild rects = .ok built' ∧ built'.stats = built.stats ∧
        g.detect rects = .ok (found, d) ∧ found.stats = built.stats ∧
        Detection.hashed config rects = .ok (.ok d)) ∧
      ∀ asked after, ∃ g' a last seen rest,
        g.step (.query asked) = .ok (g', a) ∧ g'.stats = g.stats ∧
        fresh.run (before ++ after) = .ok (last, answers ++ rest) ∧
        fresh.run (before ++ .query asked :: after) =
          .ok ({ last with seen }, answers ++ (a, g.stats) :: rest) := by
  have hfresh : Kept config { config } := kept_empty config
  obtain ⟨g, answers, hrun, hg⟩ := hfresh.run halloc before
  refine ⟨{ config }, g, answers, exists_make hconfig, hrun, ?_, ?_⟩
  · intro rects
    obtain ⟨built, hbuilt, hk, hb⟩ := hfresh.rebuild halloc rects
    obtain ⟨built', hbuilt', hk', hb'⟩ := hg.rebuild halloc rects
    have hspans : built'.spans = built.spans :=
      hb'.spans_eq hb (hk'.config_eq.trans hk.config_eq.symm)
    have hstats : built'.stats = built.stats := stats_congr hb'.filed hb.filed hspans
    have hsame : (built.collect rects).2 = (built'.collect rects).2 :=
      collect_congr hb.filed hb'.filed hspans.symm hb.size.symm
    have hhashed : Detection.hashed config rects = .ok (.ok (built'.collect rects).2) := by
      rw [Detection.hashed_eq hconfig, detect_of_rebuild hbuilt, ← hsame]
      rfl
    exact ⟨built, built', (built'.collect rects).1, (built'.collect rects).2, hbuilt, hbuilt', hstats,
      detect_of_rebuild hbuilt', hstats, hhashed⟩
  · intro asked after
    obtain ⟨last, rest, hrest, -⟩ := hg.run halloc after
    obtain ⟨seen, hseen⟩ := run_remarked hrest (g.marks (.query asked))
    have hstep : g.step (.query asked) =
        .ok ({ g with seen := g.marks (.query asked) }, g.answer (.query asked)) :=
      step_eq_ok_iff.mpr ⟨g, rfl, rfl, rfl⟩
    have hquery := run_cons hstep hseen
    exact ⟨_, _, last, seen, rest, hstep, rfl, run_append hrun hrest, run_append hrun hquery⟩

/-- The history of a grid whose bucket at the origin is filled, emptied and filled again, while the one
at column five is dropped and made anew; it has a refused query, a copy and a query that is answered.
Then a detection of two rectangles that overlap and share two cells, one in column five, and an oversized
one: the pair is found with one test, and the oversized rectangle takes three. -/
theorem detect_after_any_history_mixed :
    ∃ g answers found d,
      run { config := { cellSize := 10 } } [.rebuild #[⟨0, 0, 4, 4, by decide⟩, ⟨50, 0, 4, 4, by decide⟩],
        .query #[], .copy, .detect #[⟨0, 0, 4, 4, by decide⟩], .query #[⟨90, 0, 4, 4, by decide⟩],
        .rebuild #[⟨90, 0, 4, 4, by decide⟩]] = .ok (g, answers) ∧
      g.detect #[⟨0, 0, 14, 4, by decide⟩, ⟨5, 2, 9, 4, by decide⟩, ⟨50, 0, 4, 4, by decide⟩,
        ⟨1000, 0, 5000, 5000, by decide⟩] = .ok (found, d) ∧
      d.pairs = [⟨0, 1, by decide⟩] ∧ d.checks = 4 ∧
      found.stats = { occupiedCells := 3, maxBucketLen := 2, totalEntries := 5, oversized := 1 } := by
  obtain ⟨fresh, g, answers, hfresh, hrun, hdetect, -⟩ :=
    detect_after_any_history { cellSize := 10 } (by decide) (by decide)
      [.rebuild #[⟨0, 0, 4, 4, by decide⟩, ⟨50, 0, 4, 4, by decide⟩],
        .query #[], .copy, .detect #[⟨0, 0, 4, 4, by decide⟩], .query #[⟨90, 0, 4, 4, by decide⟩],
        .rebuild #[⟨90, 0, 4, 4, by decide⟩]]
  obtain ⟨built, -, found, d, hbuilt, -, -, hd, hstats, hhashed⟩ :=
    hdetect #[⟨0, 0, 14, 4, by decide⟩, ⟨5, 2, 9, 4, by decide⟩, ⟨50, 0, 4, 4, by decide⟩,
      ⟨1000, 0, 5000, 5000, by decide⟩]
  obtain rfl := (make_eq_ok hfresh).2
  -- what a fresh grid finds and how it is filled can be computed from the rectangles
  have hfound := (hashed_eq_candidatePairs (by decide) (by decide) _).symm.trans hhashed
  simp only [Except.ok.injEq] at hfound
  subst hfound
  obtain ⟨hconfig, hholds⟩ := holds_of_rebuild hbuilt
  have hfilled := hholds.stats_eq
  rw [hconfig] at hfilled
  exact ⟨g, answers, found, _, hrun, hd, by decide +kernel, by decide +kernel,
    hstats.trans (hfilled.trans (by decide +kernel))⟩

end Grid

end Broadphase
