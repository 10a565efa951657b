import Broadphase.Proofs.Grid.Marks

/-! # The grid finds what testing every pair finds

Overlapping rectangles share a cell unless one of them is oversized, and an oversized one is
tested against all others.  So a grid just built from some rectangles misses none of their
overlapping pairs (`collect_listsOverlaps`), and the fresh grid of `Detection.hashed` agrees with
`Detection.exhaustive` (`hashed_pairs_eq_exhaustive`), wherever the rectangles lie. -/

namespace Broadphase

namespace Grid

theorem meet_of_overlaps {config : GridConfig} (hconfig : config.validate = .ok ()) (count : ℕ)
    {a b : Rect} (h : a.overlaps b) : Meet (spanOf? config count a) (spanOf? config count b) := by
  unfold spanOf?
  dsimp only
  split_ifs
  · trivial
  · trivial
  · trivial
  · exact Span.exists_shared_cell hconfig h

/-- A grid that holds the given rectangles. -/
structure Holds (g : Grid) (rects : Array Rect) : Prop where
  filed : g.Filed
  spans : g.spans = rects.map (spanOf? g.config rects.size)

theorem Holds.size {g : Grid} {rects : Array Rect} (h : g.Holds rects) :
    g.spans.size = rects.size := by
  rw [h.spans, Array.size_map]

theorem Holds.isCandidate {g : Grid} {rects : Array Rect} (h : g.Holds rects)
    (hconfig : g.config.validate = .ok ()) {p : IndexPair} (hp : Detection.IsOverlap rects p) :
    g.IsCandidate p.first p.second := by
  obtain ⟨a, b, ha, hb, hab⟩ := hp
  refine ⟨p.lt, _, _, ?_, ?_, meet_of_overlaps hconfig rects.size hab⟩
  · rw [h.spans, Array.getElem?_map, ha]
    rfl
  · rw [h.spans, Array.getElem?_map, hb]
    rfl

theorem Holds.collect_listsOverlaps {g : Grid} {rects : Array Rect} (h : g.Holds rects)
    (hconfig : g.config.validate = .ok ()) :
    Detection.ListsOverlaps rects (g.collect rects).2.pairs := by
  rw [h.filed.collect_eq h.size.symm, h.size]
  refine Detection.listsOverlaps_flatMap g.candidates_pairwise fun p hp => ?_
  exact mem_candidates.mpr (h.isCandidate hconfig hp)

theorem Holds.spans_eq {g g' : Grid} {rects : Array Rect} (h : g.Holds rects) (h' : g'.Holds rects)
    (hconfig : g.config = g'.config) : g.spans = g'.spans := by
  rw [h.spans, h'.spans, hconfig]

/-- The grid never tests more pairs than there are. -/
theorem Filed.collect_checks_le {g : Grid} {rects : Array Rect} (h : g.Filed)
    (hsize : rects.size = g.spans.size) :
    (g.collect rects).2.checks ≤ (Detection.exhaustive rects).checks := by
  rw [h.collect_eq hsize, Detection.exhaustive_checks, hsize]
  refine Detection.sum_length_le g.candidates_pairwise fun i j hj => ?_
  obtain ⟨hij, s, t, -, ht, -⟩ := mem_candidates.mp hj
  exact ⟨hij, (Array.getElem?_eq_some_iff.mp ht).1⟩

theorem holds_of_rebuild {g g' : Grid} {rects : Array Rect} (h : g.rebuild rects = .ok g') :
    g'.config = g.config ∧ g'.Holds rects := by
  obtain ⟨hc, hs, hf⟩ := rebuild_eq_ok h
  exact ⟨hc, hf, hc ▸ hs⟩

theorem detect_eq_ok {g g' : Grid} {rects : Array Rect} {d : Detection}
    (h : g.detect rects = .ok (g', d)) :
    ∃ built, g.rebuild rects = .ok built ∧ built.collect rects = (g', d) := by
  unfold detect at h
  obtain ⟨built, hbuilt, h⟩ := bind_eq_ok_iff.mp h
  exact ⟨built, hbuilt, Except.ok.inj h⟩

theorem detect_of_rebuild {g g' : Grid} {rects : Array Rect} (h : g.rebuild rects = .ok g') :
    g.detect rects = .ok (g'.collect rects) :=
  bind_eq_ok_iff.mpr ⟨g', h, rfl⟩

/-! ### Other marks -/

theorem Filed.remarked {g : Grid} (h : g.Filed) (seen : Array ℕ) : Filed { g with seen } :=
  ⟨h.bucket, h.oversized⟩

theorem Holds.remarked {g : Grid} {rects : Array Rect} (h : g.Holds rects) (seen : Array ℕ) :
    Holds { g with seen } rects :=
  ⟨h.filed.remarked seen, h.spans⟩

end Grid

namespace Detection

theorem hashed_eq {config : GridConfig} (h : config.validate = .ok ()) (rects : Array Rect) :
    hashed config rects = (Grid.detect { config } rects).map fun r => .ok r.2 := by
  unfold hashed
  rw [Grid.exists_make h]

/-- **The grid finds exactly the overlapping pairs**, in the order of the exhaustive detector. -/
theorem hashed_pairs_eq_exhaustive (config : GridConfig) (hconfig : config.validate = .ok ())
    (halloc : config.allocatable) (rects : Array Rect) :
    ∃ d, hashed config rects = .ok (.ok d) ∧ d.pairs = (exhaustive rects).pairs ∧
      ListsOverlaps rects d.pairs := by
  obtain ⟨g, hg⟩ := Grid.exists_rebuild (g := { config }) halloc rects
  obtain ⟨hc, hh⟩ := Grid.holds_of_rebuild hg
  have hl : ListsOverlaps rects (g.collect rects).2.pairs :=
    hh.collect_listsOverlaps (hc ▸ hconfig)
  refine ⟨(g.collect rects).2, ?_, hl.unique (exhaustive_listsOverlaps rects), hl⟩
  rw [hashed_eq hconfig, Grid.detect_of_rebuild hg]
  rfl

/-- Two rectangles that overlap, one at a corner that is no number, and an oversized one whose cells
lie outside the range of cell indices on both sides. -/
theorem hashed_pairs_eq_exhaustive_mixed :
    ∃ d, hashed {} #[⟨0, 0, 10, 10, by decide⟩, ⟨0 / 0, 0, 10, 10, by decide⟩,
        ⟨5, 5, 10, 10, by decide⟩, ⟨-1e30, 6, 2e30, 1, by decide +kernel⟩] = .ok (.ok d) ∧
      d.pairs = [⟨0, 2, by decide⟩, ⟨0, 3, by decide⟩, ⟨2, 3, by decide⟩] := by
  obtain ⟨d, hd, hpairs, -⟩ := hashed_pairs_eq_exhaustive {} (by decide) (by decide)
    #[⟨0, 0, 10, 10, by decide⟩, ⟨0 / 0, 0, 10, 10, by decide⟩,
      ⟨5, 5, 10, 10, by decide⟩, ⟨-1e30, 6, 2e30, 1, by decide +kernel⟩]
  exact ⟨d, hd, hpairs.trans (by decide +kernel)⟩

end Detection

end Broadphase
