import Broadphase.Proofs.Grid.Query

/-! # Occupancy of a grid

A build puts every rectangle that is not oversized into the bucket of each cell that it covers.  Write
down, for each of these rectangles, the cells that it covers: in this list (`entries`) a cell stands as
often as its bucket has indices (`Holds.length_filed`), whatever empty buckets the grid has kept.  So
the sizes of the buckets in use are the multiplicities of the list (`Holds.sizes_perm`), and all
figures of `Grid.stats` can be read off it (`occupancy_after_any_history`). -/

namespace Broadphase

theorem isGreatest_foldl_max {l : List ℕ} (h : l ≠ []) : IsGreatest {n | n ∈ l} (l.foldl max 0) := by
  obtain ⟨m, hm⟩ := Option.ne_none_iff_exists'.mp (mt List.max?_eq_none_iff.mp h)
  obtain ⟨hmem, hle⟩ := List.max?_eq_some_iff.mp hm
  rw [List.foldl_max, hm, Option.getD_some, Nat.zero_max]
  exact ⟨hmem, hle⟩

namespace Grid

/-! ### What a build covers -/

variable {config : GridConfig} {g : Grid} {built : Array Rect}

/-- The cells that a rectangle covers. -/
def covered (config : GridConfig) (r : Rect) : List Cell := (Span.ofRect config.cellSize r).cells

/-- The rectangles that a build puts into buckets. -/
def bucketed (config : GridConfig) (built : Array Rect) : List Rect :=
  built.toList.filter fun r => ¬ Oversized config built.size r

/-- The number of bucketed rectangles that cover a cell. -/
def crowd (config : GridConfig) (built : Array Rect) (c : Cell) : ℕ :=
  (bucketed config built).countP fun r => c ∈ covered config r

/-- The cells of all bucketed rectangles, rectangle by rectangle. -/
def entries (config : GridConfig) (built : Array Rect) : List Cell :=
  (bucketed config built).flatMap (covered config)

/-- The cells that at least one bucketed rectangle covers. -/
def occupied (config : GridConfig) (built : Array Rect) : Finset Cell := (entries config built).toFinset

/-- A rectangle is oversized if it covers more cells than there are rectangles, and more than
`oversizedFloor`. -/
theorem oversized_iff {count : ℕ} (hcount : count < Span.countLimit) (r : Rect) :
    Oversized config count r ↔ max count oversizedFloor < (covered config r).length := by
  have hfloor : oversizedFloor < Span.countLimit := by decide
  unfold Oversized covered
  rw [Span.cellCount_eq]
  omega

theorem count_entries (c : Cell) : (entries config built).count c = crowd config built c := by
  unfold entries crowd
  induction bucketed config built with
  | nil => rfl
  | cons r rects ih =>
      have hr : (covered config r).count c = if c ∈ covered config r then 1 else 0 :=
        (Span.nodup_cells _).count
      rw [List.flatMap_cons, List.count_append, ih, hr, List.countP_cons, Nat.add_comm]
      simp only [decide_eq_true_eq]

theorem mem_occupied {c : Cell} : c ∈ occupied config built ↔ 0 < crowd config built c := by
  rw [occupied, List.mem_toFinset, ← List.count_pos_iff, count_entries]

theorem length_bucketed_le : (bucketed config built).length ≤ built.size := by
  rw [← Array.length_toList]
  exact List.length_filter_le _ _

theorem length_entries_le (hcount : built.size < Span.countLimit) :
    (entries config built).length ≤ built.size * max built.size oversizedFloor := by
  have hr : ∀ k ∈ (bucketed config built).map fun r => (covered config r).length,
      k ≤ max built.size oversizedFloor := by
    intro k hk
    obtain ⟨r, hr, rfl⟩ := List.mem_map.mp hk
    have hsmall := of_decide_eq_true (List.mem_filter.mp hr).2
    rw [oversized_iff hcount] at hsmall
    exact not_lt.mp hsmall
  calc (entries config built).length
      = ((bucketed config built).map fun r => (covered config r).length).sum := List.length_flatMap
    _ ≤ (bucketed config built).length * max built.size oversizedFloor := by
        simpa using List.sum_le_card_nsmul _ _ hr
    _ ≤ built.size * max built.size oversizedFloor := Nat.mul_le_mul_right _ length_bucketed_le

/-! ### What the buckets hold -/

theorem countP_zipIdx {α : Type} (p : α → Bool) (l : List α) :
    (l.zipIdx.countP fun e => p e.1) = l.countP p := by
  nth_rewrite 2 [← List.zipIdx_map_fst 0 l]
  rw [List.countP_map]
  rfl

theorem length_covering (c : Cell) (spans : List (Option Span)) :
    (Buckets.covering c spans.zipIdx).length = spans.countP (Buckets.covers c) := by
  rw [Buckets.covering, List.length_map, ← List.countP_eq_length_filter, countP_zipIdx]

theorem covers_spanOf?_iff {c : Cell} {count : ℕ} {r : Rect} :
    Buckets.covers c (spanOf? config count r) ↔ c ∈ covered config r ∧ ¬ Oversized config count r := by
  by_cases h : Oversized config count r
  · rw [spanOf?_of_oversized h]
    simp [Buckets.covers, h]
  · rw [spanOf?_of_not_oversized h]
    simp [Buckets.covers, covered, h]

/-- The bucket of a cell has one index for each bucketed rectangle that covers the cell. -/
theorem Holds.length_filed (h : g.Holds built) (c : Cell) :
    (g.buckets.filed c).length = crowd g.config built c := by
  rw [h.filed.bucket c, length_covering, h.spans, Array.toList_map, List.countP_map, crowd, bucketed,
    List.countP_filter]
  refine List.countP_congr fun r _ => ?_
  rw [Function.comp_apply, covers_spanOf?_iff, Bool.and_eq_true, decide_eq_true_eq, decide_eq_true_eq]

theorem Holds.sizes_perm (h : g.Holds built) :
    g.buckets.sizes.Perm ((entries g.config built).dedup.map (crowd g.config built)) := by
  refine Buckets.sizes_perm_map h.length_filed (List.nodup_dedup _) fun c => ?_
  rw [List.mem_dedup, ← List.count_pos_iff, count_entries]

theorem Holds.occupiedCells (h : g.Holds built) :
    g.stats.occupiedCells = (occupied g.config built).card := by
  show g.buckets.sizes.length = _
  rw [h.sizes_perm.length_eq, List.length_map, occupied, List.card_toFinset]

theorem Holds.totalEntries (h : g.Holds built) :
    g.stats.totalEntries = (entries g.config built).length := by
  show g.buckets.sizes.foldl (· + ·) 0 = _
  rw [h.sizes_perm.foldl_eq, ← List.sum_eq_foldl, ← List.sum_map_count_dedup_eq_length]
  simp only [count_entries]

theorem Holds.maxBucketLen_eq (h : g.Holds built) :
    g.stats.maxBucketLen = ((entries g.config built).dedup.map (crowd g.config built)).foldl max 0 :=
  h.sizes_perm.foldl_eq 0

theorem Holds.maxBucketLen (h : g.Holds built) :
    IsGreatest (Set.range (crowd g.config built)) g.stats.maxBucketLen := by
  have hzero {c : Cell} (hc : c ∉ entries g.config built) : crowd g.config built c = 0 := by
    rw [← count_entries, List.count_eq_zero_of_not_mem hc]
  rw [h.maxBucketLen_eq]
  rcases eq_or_ne (entries g.config built) [] with hnil | hne
  · rw [hnil]
    have hall (c : Cell) : crowd g.config built c = 0 := hzero (by simp [hnil])
    exact ⟨⟨⟨0, 0⟩, hall _⟩, by rintro _ ⟨c, rfl⟩; exact (hall c).le⟩
  · have hne' : (entries g.config built).dedup.map (crowd g.config built) ≠ [] := by
      simpa using hne
    obtain ⟨hmem, hle⟩ := isGreatest_foldl_max hne'
    obtain ⟨c, -, hc⟩ := List.mem_map.mp hmem
    refine ⟨⟨c, hc⟩, ?_⟩
    rintro _ ⟨c', rfl⟩
    by_cases hc' : c' ∈ entries g.config built
    · exact hle (List.mem_map_of_mem (List.mem_dedup.mpr hc'))
    · rw [hzero hc']
      exact Nat.zero_le _

theorem length_apart (spans : List (Option Span)) :
    (apart spans.zipIdx).length = spans.countP Option.isNone := by
  rw [apart, List.length_map, ← List.countP_eq_length_filter, countP_zipIdx]

theorem Holds.oversized (h : g.Holds built) :
    g.stats.oversized = built.toList.countP fun r => Oversized g.config built.size r := by
  show g.oversized.size = _
  rw [← Array.length_toList, h.filed.oversized, length_apart, h.spans, Array.toList_map, List.countP_map]
  refine List.countP_congr fun r _ => ?_
  by_cases hr : Oversized g.config built.size r
  · simp [spanOf?_of_oversized hr, hr]
  · simp [spanOf?_of_not_oversized hr, hr]

theorem covering_increasing (c : Cell) (spans : List (Option Span)) :
    (Buckets.covering c spans.zipIdx).Pairwise (· < ·) := by
  have hsub : (Buckets.covering c spans.zipIdx).Sublist (spans.zipIdx.map Prod.snd) :=
    List.filter_sublist.map _
  rw [List.zipIdx_map_snd] at hsub
  exact List.Pairwise.sublist hsub List.pairwise_lt_range'

theorem Filed.bucket_increasing (hg : g.Filed) {c : Cell} {bucket : Array ℕ}
    (h : g.buckets[c]? = some bucket) : bucket.toList.Pairwise (· < ·) := by
  have hfiled : g.buckets.filed c = bucket.toList := by
    rw [Buckets.filed, Std.HashMap.getD_eq_getD_getElem?, h, Option.getD_some]
  rw [← hfiled, hg.bucket c]
  exact covering_increasing c g.spans.toList

/-- **Occupancy of a grid.**  After any operations, the figures are those of the last build; counts of
cells are told apart up to `Span.countLimit`, far beyond the number of rectangles that any memory holds.
A rectangle is oversized if it covers more cells than there are rectangles and more than
`oversizedFloor`.  The others have as many entries as they cover cells; they occupy the cells that one
of them covers; and the largest bucket is that of a cell which the most of them cover.  No bucket lists
an index twice. -/
theorem occupancy_after_any_history {fresh : Grid} {ops : List GridOp}
    {answers : List (GridAnswer × GridStats)} (hmake : make config = .ok fresh)
    (hrun : fresh.run ops = .ok (g, answers)) (hbuilt : lastBuilt ops = built)
    (hcount : built.size < Span.countLimit) :
    (∀ r, Oversized config built.size r ↔
      max built.size oversizedFloor < (covered config r).length) ∧
    g.stats.oversized = (built.toList.countP fun r => Oversized config built.size r) ∧
    g.stats.totalEntries = ((bucketed config built).map fun r => (covered config r).length).sum ∧
    g.stats.totalEntries ≤ built.size * max built.size oversizedFloor ∧
    g.stats.occupiedCells = (occupied config built).card ∧
    IsGreatest (Set.range (crowd config built)) g.stats.maxBucketLen ∧
    ∀ (c : Cell) (bucket : Array ℕ), g.buckets[c]? = some bucket → bucket.toList.Nodup := by
  obtain ⟨rfl, hholds⟩ := holds_lastBuilt hmake hrun
  rw [hbuilt] at hholds
  refine ⟨oversized_iff hcount, hholds.oversized, ?_, ?_, hholds.occupiedCells, hholds.maxBucketLen, ?_⟩
  · rw [hholds.totalEntries, entries, List.length_flatMap]
  · rw [hholds.totalEntries]
    exact length_entries_le hcount
  · intro c bucket hbucket
    exact (hholds.filed.bucket_increasing hbucket).nodup

/-- Two rectangles with a common cell, one of which reaches into a second one, and an oversized one,
after a build elsewhere that has left an empty bucket. -/
theorem occupancy_after_any_history_mixed :
    ∃ fresh g answers, make { cellSize := 10 } = .ok fresh ∧
      fresh.run [.rebuild #[⟨200, 200, 4, 4, by decide⟩], .detect #[⟨0, 0, 4, 4, by decide⟩,
        ⟨1000, 0, 5000, 5000, by decide⟩, ⟨5, 5, 10, 4, by decide⟩], .query #[]] =
        .ok (g, answers) ∧
      g.stats.oversized = 1 ∧ g.stats.totalEntries = 3 ∧ g.stats.occupiedCells = 2 ∧
      g.stats.maxBucketLen = 2 := by
  have hmake : make { cellSize := 10 } = .ok { config := { cellSize := 10 } } := exists_make (by decide)
  obtain ⟨g, answers, hrun, -⟩ := (kept_empty { cellSize := 10 }).run (by decide)
    [.rebuild #[⟨200, 200, 4, 4, by decide⟩], .detect #[⟨0, 0, 4, 4, by decide⟩,
      ⟨1000, 0, 5000, 5000, by decide⟩, ⟨5, 5, 10, 4, by decide⟩], .query #[]]
  obtain ⟨-, hover, htotal, -, hcells, ⟨⟨c, hc⟩, hmax⟩, -⟩ :=
    occupancy_after_any_history hmake hrun rfl (by decide)
  -- no cell has more rectangles than there are bucketed ones, and one cell has them all
  have hle : g.stats.maxBucketLen ≤ 2 := hc ▸ List.countP_le_length
  have hge : 2 ≤ g.stats.maxBucketLen := hmax ⟨⟨0, 0⟩, by decide +kernel⟩
  exact ⟨_, g, answers, hmake, hrun, hover.trans (by decide +kernel), htotal.trans (by decide +kernel),
    hcells.trans (by decide +kernel), le_antisymm hle hge⟩

end Grid

end Broadphase
