import Broadphase.Proofs.Grid.History

/-! # What a query finds

A query tests candidates of the last build on rectangles that are given anew, and these may have moved
since.  `Candidate` says which pairs a build makes candidates, in terms of the rectangles that it was made
from, and `candidatePairs` lists them.  A grid that holds these rectangles tests every candidate once and
nothing else (`Holds.tested_eq`).  What the given rectangles decide is only which of the candidates are
reported (`query_after_any_history`). -/

namespace Broadphase

namespace Grid

variable {config : GridConfig} {g : Grid} {built rects : Array Rect}

/-! ### The candidates of a build -/

/-- Among `count` rectangles, this one covers too many cells for the buckets. -/
def Oversized (config : GridConfig) (count : ℕ) (r : Rect) : Prop :=
  max count oversizedFloor < (Span.ofRect config.cellSize r).cellCount

instance (count : ℕ) (r : Rect) : Decidable (Oversized config count r) := Nat.decLt _ _

/-- In a build from the given rectangles, one of the pair is oversized, or both cover a common cell. -/
def Candidate (config : GridConfig) (built : Array Rect) (p : IndexPair) : Prop :=
  ∃ a b, built[p.first]? = some a ∧ built[p.second]? = some b ∧
    (Oversized config built.size a ∨ Oversized config built.size b ∨
      ∃ c, c ∈ (Span.ofRect config.cellSize a).cells ∧ c ∈ (Span.ofRect config.cellSize b).cells)

theorem spanOf?_of_oversized {count : ℕ} {r : Rect} (h : Oversized config count r) :
    spanOf? config count r = none := if_pos h

theorem spanOf?_of_not_oversized {count : ℕ} {r : Rect} (h : ¬ Oversized config count r) :
    spanOf? config count r = some (Span.ofRect config.cellSize r) := if_neg h

theorem meet_iff {count : ℕ} {a b : Rect} :
    Meet (spanOf? config count a) (spanOf? config count b) ↔
      Oversized config count a ∨ Oversized config count b ∨
        ∃ c, c ∈ (Span.ofRect config.cellSize a).cells ∧
          c ∈ (Span.ofRect config.cellSize b).cells := by
  by_cases ha : Oversized config count a
  · rw [spanOf?_of_oversized ha]
    exact ⟨fun _ => .inl ha, fun _ => trivial⟩
  · by_cases hb : Oversized config count b
    · rw [spanOf?_of_not_oversized ha, spanOf?_of_oversized hb]
      exact ⟨fun _ => .inr (.inl hb), fun _ => trivial⟩
    · rw [spanOf?_of_not_oversized ha, spanOf?_of_not_oversized hb, or_iff_right ha, or_iff_right hb]
      rfl

theorem Holds.isCandidate_iff (h : g.Holds built) {p : IndexPair} :
    g.IsCandidate p.first p.second ↔ Candidate g.config built p := by
  unfold IsCandidate Candidate
  simp only [h.spans, Array.getElem?_map, Option.map_eq_some_iff]
  constructor
  · rintro ⟨-, s, t, ⟨a, ha, rfl⟩, ⟨b, hb, rfl⟩, hmeet⟩
    exact ⟨a, b, ha, hb, meet_iff.mp hmeet⟩
  · rintro ⟨a, b, ha, hb, hmeet⟩
    exact ⟨p.lt, _, _, ⟨a, ha, rfl⟩, ⟨b, hb, rfl⟩, meet_iff.mpr hmeet⟩

instance (p : IndexPair) : Decidable (Candidate config built p) :=
  match ha : built[p.first]?, hb : built[p.second]? with
  | some a, some b =>
    decidable_of_iff (Oversized config built.size a ∨ Oversized config built.size b ∨
      ∃ c ∈ (Span.ofRect config.cellSize a).cells, c ∈ (Span.ofRect config.cellSize b).cells)
      (by simp [Candidate, ha, hb])
  | some _, none => isFalse (by simp [Candidate, hb])
  | none, _ => isFalse (by simp [Candidate, ha])

/-- The candidates of a build in increasing order. -/
def candidatePairs (config : GridConfig) (built : Array Rect) : List IndexPair :=
  ((List.range built.size).flatMap fun i =>
    Detection.pairsWith i (Detection.indicesAfter i built.size)).filter fun p => Candidate config built p

theorem candidatePairs_pairwise (config : GridConfig) (built : Array Rect) :
    (candidatePairs config built).Pairwise IndexPair.Before :=
  (Detection.pairwise_flatMap_range (fun _ _ hp => (Detection.mem_pairsWith.mp hp).1)
    (fun _ => Detection.pairsWith_pairwise List.pairwise_lt_range') built.size).filter _

theorem mem_candidatePairs {p : IndexPair} :
    p ∈ candidatePairs config built ↔ Candidate config built p := by
  rw [candidatePairs, List.mem_filter, decide_eq_true_eq, and_iff_right_iff_imp, List.mem_flatMap]
  rintro ⟨a, b, ha, hb, -⟩
  have hfirst : p.first < built.size := (Array.getElem?_eq_some_iff.mp ha).1
  have hsecond : p.second < built.size := (Array.getElem?_eq_some_iff.mp hb).1
  exact ⟨p.first, List.mem_range.mpr hfirst,
    Detection.mem_pairsWith.mpr ⟨rfl, Detection.mem_indicesAfter.mpr ⟨p.lt, hsecond⟩⟩⟩

/-! ### The pairs that are tested -/

/-- The pairs that a collection tests, in increasing order. -/
def tested (g : Grid) : List IndexPair :=
  (List.range g.spans.size).flatMap fun i => Detection.pairsWith i (g.candidates i)

theorem tested_pairwise (g : Grid) : g.tested.Pairwise IndexPair.Before :=
  Detection.pairwise_flatMap_range (fun _ _ hp => (Detection.mem_pairsWith.mp hp).1)
    (fun i => Detection.pairsWith_pairwise (g.candidates_pairwise i)) g.spans.size

theorem mem_tested {p : IndexPair} : p ∈ g.tested ↔ g.IsCandidate p.first p.second := by
  rw [← mem_candidates, tested, List.mem_flatMap]
  constructor
  · rintro ⟨i, -, hp⟩
    obtain ⟨rfl, hsecond⟩ := Detection.mem_pairsWith.mp hp
    exact hsecond
  · intro hp
    obtain ⟨-, s, -, hs, -⟩ := mem_candidates.mp hp
    have hfirst : p.first < g.spans.size := (Array.getElem?_eq_some_iff.mp hs).1
    exact ⟨p.first, List.mem_range.mpr hfirst, Detection.mem_pairsWith.mpr ⟨rfl, hp⟩⟩

/-- A grid tests the candidates of its build. -/
theorem Holds.tested_eq (h : g.Holds built) : g.tested = candidatePairs g.config built := by
  refine g.tested_pairwise.eq_of_mem_iff (candidatePairs_pairwise g.config built) fun p => ?_
  rw [mem_tested, mem_candidatePairs, h.isCandidate_iff]

/-- A collection makes one test for each pair that it tests, and keeps those that overlap. -/
theorem Filed.collect_eq_tested (hg : g.Filed) (hsize : rects.size = g.spans.size) :
    (g.collect rects).2 =
      { pairs := g.tested.filter fun p => Detection.overlapAt rects p.first p.second
        checks := g.tested.length } := by
  rw [hg.collect_eq hsize]
  simp only [tested, List.filter_flatMap, Detection.pairsOf_eq_filter, List.length_flatMap,
    Detection.length_pairsWith lt_of_mem_candidates]

theorem Holds.collect_eq (h : g.Holds built) (hsize : rects.size = built.size) :
    (g.collect rects).2 =
      { pairs := (candidatePairs g.config built).filter fun p =>
          Detection.overlapAt rects p.first p.second
        checks := (candidatePairs g.config built).length } := by
  rw [h.filed.collect_eq_tested (hsize.trans h.size.symm), h.tested_eq]

/-! ### Queries -/

theorem step_query_of_size (h : rects.size = g.spans.size) :
    g.step (.query rects) =
      .ok ({ g with seen := (g.collect rects).1.seen }, .found (g.collect rects).2) := by
  simp only [step, query_of_size h]
  rfl

theorem step_query_of_stale (h : rects.size ≠ g.spans.size) :
    g.step (.query rects) = .ok (g, .refused (.staleGrid g.spans.size rects.size)) := by
  simp only [step, query_of_stale h]

/-- **What a query finds.**  After any operations, a query for another number of rectangles than the
last build had is refused and leaves the grid as it is, and only such a query.  Any other one tests each
candidate of that build once, never more pairs than testing every pair does, and lists in increasing
order the candidates that overlap among the rectangles that it is asked for.  It changes the marks of the
grid and nothing else. -/
theorem query_after_any_history {fresh : Grid} {ops : List GridOp}
    {answers : List (GridAnswer × GridStats)} (hmake : make config = .ok fresh)
    (hrun : fresh.run ops = .ok (g, answers)) (asked : Array Rect) :
    (g.step (.query asked) =
        .ok (g, .refused (.staleGrid (lastBuilt ops).size asked.size)) ↔
      asked.size ≠ (lastBuilt ops).size) ∧
    (asked.size = (lastBuilt ops).size → ∃ seen d,
      g.step (.query asked) = .ok ({ g with seen }, .found d) ∧
      d.checks = {p | Candidate config (lastBuilt ops) p}.ncard ∧
      d.checks ≤ asked.size * (asked.size - 1) / 2 ∧
      (Detection.exhaustive asked).checks = asked.size * (asked.size - 1) / 2 ∧
      d.pairs.Pairwise IndexPair.Before ∧
      ∀ p, p ∈ d.pairs ↔ Candidate config (lastBuilt ops) p ∧ Detection.IsOverlap asked p) := by
  obtain ⟨rfl, hholds⟩ := holds_lastBuilt hmake hrun
  by_cases hsize : asked.size = (lastBuilt ops).size
  · have hspans : asked.size = g.spans.size := hsize.trans hholds.size.symm
    have hstep := step_query_of_size hspans
    refine ⟨⟨fun h => ?_, fun h => absurd hsize h⟩,
      fun _ => ⟨_, _, hstep, ?_, ?_, Detection.exhaustive_checks asked, ?_, ?_⟩⟩
    · rw [hstep] at h
      simp at h
    · rw [hholds.collect_eq hsize, IndexPair.ncard_eq_length
        (candidatePairs_pairwise g.config (lastBuilt ops)) fun p => mem_candidatePairs]
    · rw [← Detection.exhaustive_checks]
      exact hholds.filed.collect_checks_le hspans
    · rw [hholds.collect_eq hsize]
      exact (candidatePairs_pairwise g.config (lastBuilt ops)).filter _
    · intro p
      rw [hholds.collect_eq hsize, List.mem_filter, mem_candidatePairs, Detection.overlapAt_iff p.lt]
  · have hstep := step_query_of_stale fun h => hsize (h.trans hholds.size)
    rw [hholds.size] at hstep
    exact ⟨⟨fun _ => hsize, fun _ => hstep⟩, fun h => absurd h hsize⟩

/-- Four rectangles that lay apart when the grid was built, the last one oversized, and have since come
to one place.  The first two share two cells, yet they are one candidate, which is tested once.  Only
candidates of the build are reported: that pair and the pairs with the oversized rectangle, but not the
pairs from distant cells, although these overlap now. -/
theorem query_after_any_history_moved :
    ∃ fresh g answers seen d, make { cellSize := 10 } = .ok fresh ∧
      fresh.run [.detect #[], .rebuild #[⟨0, 0, 14, 4, by decide⟩, ⟨5, 5, 9, 4, by decide⟩,
        ⟨200, 200, 4, 4, by decide⟩, ⟨1000, 0, 5000, 5000, by decide⟩], .query #[]] =
        .ok (g, answers) ∧
      g.step (.query #[]) = .ok (g, .refused (.staleGrid 4 0)) ∧
      g.step (.query (.replicate 4 ⟨0, 0, 4, 4, by decide⟩)) = .ok ({ g with seen }, .found d) ∧
      d.checks = 4 ∧
      d.pairs = [⟨0, 1, by decide⟩, ⟨0, 3, by decide⟩, ⟨1, 3, by decide⟩, ⟨2, 3, by decide⟩] ∧
      (Detection.exhaustive (.replicate 4 ⟨0, 0, 4, 4, by decide⟩)).checks = 6 := by
  have hmake : make { cellSize := 10 } = .ok { config := { cellSize := 10 } } := exists_make (by decide)
  obtain ⟨g, answers, hrun, -⟩ := (kept_empty { cellSize := 10 }).run (by decide)
    [.detect #[], .rebuild #[⟨0, 0, 14, 4, by decide⟩, ⟨5, 5, 9, 4, by decide⟩,
      ⟨200, 200, 4, 4, by decide⟩, ⟨1000, 0, 5000, 5000, by decide⟩], .query #[]]
  have hrefused := (query_after_any_history hmake hrun #[]).1.mpr (by decide)
  obtain ⟨seen, d, hd, hchecks, -, hall, hincreasing, hmem⟩ :=
    (query_after_any_history hmake hrun (.replicate 4 ⟨0, 0, 4, 4, by decide⟩)).2 (by decide)
  refine ⟨_, g, answers, seen, d, hmake, hrun, hrefused, hd, ?_, ?_, hall⟩
  · rw [hchecks, IndexPair.ncard_eq_length (candidatePairs_pairwise _ _) fun p => mem_candidatePairs]
    decide +kernel
  · have hpairs : d.pairs = (candidatePairs { cellSize := 10 } #[⟨0, 0, 14, 4, by decide⟩,
        ⟨5, 5, 9, 4, by decide⟩, ⟨200, 200, 4, 4, by decide⟩,
        ⟨1000, 0, 5000, 5000, by decide⟩]).filter fun p =>
          Detection.overlapAt (.replicate 4 ⟨0, 0, 4, 4, by decide⟩) p.first p.second := by
      refine hincreasing.eq_of_mem_iff ((candidatePairs_pairwise _ _).filter _) fun p => ?_
      rw [hmem, List.mem_filter, mem_candidatePairs, Detection.overlapAt_iff p.lt]
      rfl
    rw [hpairs]
    decide +kernel

end Grid

end Broadphase
