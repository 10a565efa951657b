import Broadphase.Proofs.Grid.Occupancy

/-! # Counting cells instead of listing them

The cells of a span are counted before any of them is listed.  Words of 128 bits are enough to do so: sides
are differences of signed words, and their product saturates (`Span.wordCount`).  For corners that are 64-bit
words in order, no difference and no sum overflows (`Span.sideFits`), and the product is the length of the
list of cells, up to the largest word (`Span.InOrder.counted`).

A build is a run of insertions, one for each cell of each rectangle that is not oversized
(`Grid.rebuild_eq_insertions`).  So the count, which has passed the test for oversized rectangles, is the number
of insertions that a rectangle causes (`Grid.length_insertedCells`), wherever it lies. -/

namespace Broadphase

open Binary64 (minInt64 maxInt64)

namespace Span

/-! ### Sides -/

/-- The number of integers from `lo` to `hi`, in a word of 128 bits. -/
def wordSide (lo hi : ℤ) : BitVec 128 := BitVec.ofInt 128 hi - BitVec.ofInt 128 lo + 1#128

/-- No step of `wordSide` overflows, and the result is the number of integers. -/
structure SideFits (lo hi : ℤ) : Prop where
  low : (BitVec.ofInt 128 lo).toInt = lo
  high : (BitVec.ofInt 128 hi).toInt = hi
  difference : ¬ (BitVec.ofInt 128 hi).ssubOverflow (BitVec.ofInt 128 lo)
  sum : ¬ (BitVec.ofInt 128 hi - BitVec.ofInt 128 lo).saddOverflow 1#128
  /-- The signed result is not negative, so it is the same number without the sign. -/
  signed : (wordSide lo hi).toInt = (side lo hi : ℤ)
  unsigned : (wordSide lo hi).toNat = side lo hi

theorem sideFits {lo hi : ℤ} (hlo : minInt64 ≤ lo) (hle : lo ≤ hi) (hhi : hi ≤ maxInt64) :
    SideFits lo hi := by
  unfold minInt64 at hlo
  unfold maxInt64 at hhi
  have hlow : (BitVec.ofInt 128 lo).toInt = lo :=
    BitVec.toInt_ofInt_eq_self (by decide) (by omega) (by omega)
  have hhigh : (BitVec.ofInt 128 hi).toInt = hi :=
    BitVec.toInt_ofInt_eq_self (by decide) (by omega) (by omega)
  have hdifference : ¬ (BitVec.ofInt 128 hi).ssubOverflow (BitVec.ofInt 128 lo) := by
    simp only [BitVec.ssubOverflow, hlow, hhigh, Bool.or_eq_true, decide_eq_true_eq]
    omega
  have hsub := BitVec.toInt_sub_of_not_ssubOverflow hdifference
  rw [hlow, hhigh] at hsub
  have hone : (1#128).toInt = 1 := BitVec.toInt_one (by decide)
  have hsum : ¬ (BitVec.ofInt 128 hi - BitVec.ofInt 128 lo).saddOverflow 1#128 := by
    simp only [BitVec.saddOverflow, hsub, hone, Bool.or_eq_true, decide_eq_true_eq]
    omega
  have hsigned : (wordSide lo hi).toInt = (side lo hi : ℤ) := by
    unfold wordSide side
    rw [BitVec.toInt_add_of_not_saddOverflow hsum, hsub, hone]
    omega
  have hnonneg : (0#128).sle (wordSide lo hi) := by
    simp only [BitVec.sle, hsigned, BitVec.toInt_zero, decide_eq_true_eq]
    omega
  refine ⟨hlow, hhigh, hdifference, hsum, hsigned, ?_⟩
  rw [← BitVec.toNat_toInt_of_sle hnonneg, hsigned, Int.toNat_natCast]

/-! ### The number of cells -/

/-- The product of two words, or the largest word if the product is larger. -/
def saturatingMul (a b : BitVec 128) : BitVec 128 :=
  if a.umulOverflow b then BitVec.allOnes 128 else a * b

theorem toNat_saturatingMul (a b : BitVec 128) :
    (saturatingMul a b).toNat = min (2 ^ 128 - 1) (a.toNat * b.toNat) := by
  unfold saturatingMul
  split_ifs with h
  · have hlarge : 2 ^ 128 ≤ a.toNat * b.toNat := by simpa [BitVec.umulOverflow] using h
    rw [BitVec.toNat_allOnes]
    omega
  · have hsmall : a.toNat * b.toNat < 2 ^ 128 := by simpa [BitVec.umulOverflow] using h
    rw [BitVec.toNat_mul_of_not_umulOverflow h]
    omega

/-- The number of cells of a span, in a word of 128 bits. -/
def wordCount (s : Span) : BitVec 128 :=
  saturatingMul (wordSide s.low.column s.high.column) (wordSide s.low.row s.high.row)

/-- The corners of the span are signed 64-bit words in order. -/
structure InOrder (s : Span) : Prop where
  column : minInt64 ≤ s.low.column ∧ s.low.column ≤ s.high.column ∧ s.high.column ≤ maxInt64
  row : minInt64 ≤ s.low.row ∧ s.low.row ≤ s.high.row ∧ s.high.row ≤ maxInt64

/-- Counting the cells of a span agrees with listing them. -/
structure Counted (s : Span) : Prop where
  nodup : s.cells.Nodup
  mem_iff : ∀ c, c ∈ s.cells ↔ (s.low.column ≤ c.column ∧ c.column ≤ s.high.column) ∧
    s.low.row ≤ c.row ∧ c.row ≤ s.high.row
  count : s.cellCount = min (2 ^ 128 - 1) s.cells.length
  /-- Words of 128 bits are enough for the count. -/
  columns : SideFits s.low.column s.high.column
  rows : SideFits s.low.row s.high.row
  word : s.wordCount.toNat = s.cellCount

theorem InOrder.counted {s : Span} (h : s.InOrder) : s.Counted := by
  have hcolumns := sideFits h.column.1 h.column.2.1 h.column.2.2
  have hrows := sideFits h.row.1 h.row.2.1 h.row.2.2
  refine ⟨s.nodup_cells, fun c => mem_cells, s.cellCount_eq, hcolumns, hrows, ?_⟩
  rw [wordCount, toNat_saturatingMul, hcolumns.unsigned, hrows.unsigned]
  rfl

/-- The span of a rectangle is in order, even where its coordinates are beyond all cells or no numbers. -/
theorem inOrder_ofRect {config : GridConfig} (hconfig : config.validate = .ok ()) (r : Rect) :
    (ofRect config.cellSize r).InOrder := by
  obtain ⟨hw, hh, hw0, hh0⟩ := r.validExtent
  exact ⟨⟨(Binary64.floorInt64_mem _).1, index_le_index_add hconfig r.x hw hw0,
    (Binary64.floorInt64_mem _).2⟩, (Binary64.floorInt64_mem _).1,
    index_le_index_add hconfig r.y hh hh0, (Binary64.floorInt64_mem _).2⟩

end Span

/-! ### Insertions -/

namespace Buckets

variable {config : GridConfig}

/-- The insertions of one entry: its index goes into the bucket of every cell of its span. -/
def insertionsOf : Option Span × ℕ → List (Cell × ℕ)
  | (none, _) => []
  | (some s, i) => s.cells.map fun c => (c, i)

/-- Puts an index into a bucket. -/
def insertEntry (config : GridConfig) (b : Buckets) (e : Cell × ℕ) : Allocated Buckets :=
  add config e.2 b e.1

theorem addSpan_eq (b : Buckets) (e : Option Span × ℕ) :
    addSpan config b e = (insertionsOf e).foldlM (insertEntry config) b := by
  obtain ⟨s?, i⟩ := e
  cases s? with
  | none => rfl
  | some s =>
      rw [insertionsOf, List.foldlM_map]
      rfl

theorem foldlM_addSpan_eq (entries : List (Option Span × ℕ)) (b : Buckets) :
    entries.foldlM (addSpan config) b =
      (entries.flatMap insertionsOf).foldlM (insertEntry config) b := by
  induction entries generalizing b with
  | nil => rfl
  | cons e entries ih =>
      rw [List.foldlM_cons, List.flatMap_cons, List.foldlM_append, addSpan_eq]
      exact congrArg _ (funext ih)

theorem index_of_mem_insertionsOf {entry : Option Span × ℕ} {e : Cell × ℕ}
    (h : e ∈ insertionsOf entry) : e.2 = entry.2 := by
  obtain ⟨s?, i⟩ := entry
  cases s? with
  | none => simp [insertionsOf] at h
  | some s =>
      obtain ⟨c, -, rfl⟩ := List.mem_map.mp h
      rfl

/-- Entries are numbered in order, so the insertions with one number are those of one entry. -/
theorem filter_insertions {spans : List (Option Span)} {s? : Option Span} {i : ℕ}
    (h : spans[i]? = some s?) (k : ℕ) :
    ((spans.zipIdx k).flatMap insertionsOf).filter (fun e => e.2 = k + i) = insertionsOf (s?, k + i) := by
  induction spans generalizing i k with
  | nil => simp at h
  | cons first spans ih =>
      rw [List.zipIdx_cons, List.flatMap_cons, List.filter_append]
      cases i with
      | zero =>
          cases h
          have hall : (insertionsOf (s?, k)).filter (fun e => e.2 = k + 0) = insertionsOf (s?, k) := by
            rw [List.filter_eq_self]
            intro e he
            simp [index_of_mem_insertionsOf he]
          have hnone : ((spans.zipIdx (k + 1)).flatMap insertionsOf).filter (fun e => e.2 = k + 0) = [] := by
            rw [List.filter_eq_nil_iff]
            intro e he
            obtain ⟨entry, hentry, he⟩ := List.mem_flatMap.mp he
            have hlater := List.le_snd_of_mem_zipIdx hentry
            have hindex := index_of_mem_insertionsOf he
            simp only [decide_eq_true_eq]
            omega
          rw [hall, hnone, List.append_nil, Nat.add_zero]
      | succ i =>
          have hnone : (insertionsOf (first, k)).filter (fun e => e.2 = k + (i + 1)) = [] := by
            rw [List.filter_eq_nil_iff]
            intro e he
            have hindex := index_of_mem_insertionsOf he
            simp only [decide_eq_true_eq]
            omega
          have hrest := ih (i := i) (by simpa using h) (k + 1)
          rw [Nat.add_assoc, Nat.add_comm 1 i] at hrest
          rw [hnone, hrest, List.nil_append]

end Buckets

namespace Grid

variable {config : GridConfig} {rects : Array Rect} {i : ℕ} {r : Rect}

/-- The insertions of a build in their order. -/
def insertions (config : GridConfig) (rects : Array Rect) : List (Cell × ℕ) :=
  (rects.map (spanOf? config rects.size)).toList.zipIdx.flatMap Buckets.insertionsOf

/-- The indices of the oversized rectangles in increasing order. -/
def oversizedIndices (config : GridConfig) (rects : Array Rect) : List ℕ :=
  (rects.toList.zipIdx.filter fun e => Oversized config rects.size e.1).map Prod.snd

theorem oversizedIndices_eq (config : GridConfig) (rects : Array Rect) :
    oversizedIndices config rects = apart (rects.map (spanOf? config rects.size)).toList.zipIdx := by
  unfold oversizedIndices apart
  rw [Array.toList_map, List.zipIdx_map, List.filter_map, List.map_map]
  refine congrArg (List.map Prod.snd) (List.filter_congr fun e _ => ?_)
  by_cases h : Oversized config rects.size e.1
  · simp [spanOf?_of_oversized h, h]
  · simp [spanOf?_of_not_oversized h, h]

/-- A build recycles the buckets and makes its insertions. -/
theorem rebuild_eq_insertions (g : Grid) (rects : Array Rect) : g.rebuild rects = (do
    let buckets ← (insertions g.config rects).foldlM (Buckets.insertEntry g.config) g.buckets.recycle
    return { g with
      buckets
      spans := rects.map (spanOf? g.config rects.size)
      oversized := (oversizedIndices g.config rects).toArray }) := by
  rw [rebuild_eq, oversizedIndices_eq]
  simp only [Buckets.foldlM_addSpan_eq]
  rfl

/-- The cells into which the index of a rectangle is inserted. -/
def insertedCells (config : GridConfig) (rects : Array Rect) (i : ℕ) : List Cell :=
  ((insertions config rects).filter fun e => e.2 = i).map Prod.fst

theorem insertedCells_eq (hr : rects[i]? = some r) (hsize : ¬ Oversized config rects.size r) :
    insertedCells config rects i = covered config r := by
  have hspan : (rects.map (spanOf? config rects.size)).toList[i]? =
      some (some (Span.ofRect config.cellSize r)) := by
    rw [Array.getElem?_toList, Array.getElem?_map, hr, Option.map_some, spanOf?_of_not_oversized hsize]
  have hfilter := Buckets.filter_insertions hspan 0
  rw [Nat.zero_add] at hfilter
  unfold insertedCells insertions
  rw [hfilter, Buckets.insertionsOf, List.map_map]
  exact List.map_id _

/-- A rectangle that is not oversized causes as many insertions as its count of cells says. -/
theorem length_insertedCells (hcount : rects.size < Span.countLimit) (hr : rects[i]? = some r)
    (hsize : ¬ Oversized config rects.size r) :
    (insertedCells config rects i).length = (Span.ofRect config.cellSize r).cellCount := by
  have hfloor : oversizedFloor < Span.countLimit := by decide
  rw [insertedCells_eq hr hsize, covered]
  unfold Oversized at hsize
  rw [Span.cellCount_eq] at hsize ⊢
  omega

/-- Every insertion of a build is still there when it has ended. -/
theorem count_filed {g g' : Grid} (h : g.rebuild rects = .ok g') (hr : rects[i]? = some r)
    (hsize : ¬ Oversized g.config rects.size r) (c : Cell) :
    (g'.buckets.filed c).count i = if c ∈ covered g.config r then 1 else 0 := by
  obtain ⟨-, hspans, hfiled⟩ := rebuild_eq_ok h
  have hspan : g'.spans[i]? = some (some (Span.ofRect g.config.cellSize r)) := by
    rw [hspans, Array.getElem?_map, hr, Option.map_some, spanOf?_of_not_oversized hsize]
  rw [hfiled.bucket c, (covering_increasing c g'.spans.toList).nodup.count]
  refine if_congr ?_ rfl rfl
  rw [mem_covering, hspan]
  constructor
  · rintro ⟨t, ht, hc⟩
    cases ht
    exact hc
  · intro hc
    exact ⟨_, rfl, hc⟩

/-- **Counting cells agrees with listing them.**  For corners that are 64-bit words in order, a span lists
every cell between its corners once and no other.  The count is the length of the list, up to the largest
word of 128 bits, and in such words it is computed without overflow.

A build from fewer rectangles than counts are told apart makes its insertions one by one.  For a rectangle
that passes the test for oversized ones, wherever it lies, they are one for each cell of its span; their
number is the count, which is no more than the test allows, and all of them are found in the buckets
afterwards. -/
theorem cells_counted :
    (∀ s : Span, s.InOrder → s.Counted) ∧
    ∀ (g : Grid) (rects : Array Rect), g.config.validate = .ok () → rects.size < Span.countLimit →
      (g.rebuild rects = do
        let buckets ← (insertions g.config rects).foldlM (Buckets.insertEntry g.config) g.buckets.recycle
        return { g with
          buckets
          spans := rects.map (spanOf? g.config rects.size)
          oversized := (oversizedIndices g.config rects).toArray }) ∧
      ∀ i r, rects[i]? = some r → ¬ Oversized g.config rects.size r →
        (Span.ofRect g.config.cellSize r).InOrder ∧
        insertedCells g.config rects i = (Span.ofRect g.config.cellSize r).cells ∧
        (insertedCells g.config rects i).length = (Span.ofRect g.config.cellSize r).cellCount ∧
        (Span.ofRect g.config.cellSize r).cellCount ≤ max rects.size 64 ∧
        ∀ g', g.rebuild rects = .ok g' → ∀ c, (g'.buckets.filed c).count i =
          if c ∈ (Span.ofRect g.config.cellSize r).cells then 1 else 0 := by
  refine ⟨fun s => Span.InOrder.counted, ?_⟩
  intro g rects hconfig hcount
  refine ⟨rebuild_eq_insertions g rects, ?_⟩
  intro i r hr hsize
  exact ⟨Span.inOrder_ofRect hconfig r, insertedCells_eq hr hsize, length_insertedCells hcount hr hsize,
    not_lt.mp hsize, fun g' hg' => count_filed hg' hr hsize⟩

/-- The span of the whole plane has one cell more than are told apart.  A rectangle beyond the last column
and the first row covers the one cell in the corner of the plane, and a build inserts it there once. -/
theorem cells_counted_plane :
    (∃ s : Span, s = ⟨⟨minInt64, minInt64⟩, ⟨maxInt64, maxInt64⟩⟩ ∧ s.cells.Nodup ∧
      s.cells.length = 2 ^ 128 ∧ s.cellCount = 2 ^ 128 - 1 ∧ s.wordCount.toNat = 2 ^ 128 - 1) ∧
    ∃ g', rebuild { config := { cellSize := 10 } } #[⟨1e300, -1e300, 4, 4, by decide⟩] = .ok g' ∧
      insertedCells { cellSize := 10 } #[⟨1e300, -1e300, 4, 4, by decide⟩] 0 = [⟨maxInt64, minInt64⟩] ∧
      (g'.buckets.filed ⟨maxInt64, minInt64⟩).count 0 = 1 := by
  obtain ⟨hspan, hgrid⟩ := cells_counted
  constructor
  · have hcounted := hspan ⟨⟨minInt64, minInt64⟩, ⟨maxInt64, maxInt64⟩⟩ ⟨by decide, by decide⟩
    have hlength : (Span.cells ⟨⟨minInt64, minInt64⟩, ⟨maxInt64, maxInt64⟩⟩).length = 2 ^ 128 := by
      rw [Span.length_cells]
      decide
    have hcount := hcounted.count
    rw [hlength] at hcount
    exact ⟨_, rfl, hcounted.nodup, hlength, hcount, hcounted.word.trans hcount⟩
  · obtain ⟨g', hg'⟩ := exists_rebuild (g := { config := { cellSize := 10 } }) (by decide)
      #[⟨1e300, -1e300, 4, 4, by decide⟩]
    obtain ⟨-, hinserted⟩ := hgrid { config := { cellSize := 10 } } #[⟨1e300, -1e300, 4, 4, by decide⟩]
      (by decide) (by decide)
    obtain ⟨-, hcells, -, -, hfiled⟩ := hinserted 0 _ rfl (by decide +kernel)
    refine ⟨g', hg', hcells.trans (by decide +kernel), ?_⟩
    rw [hfiled g' hg' ⟨maxInt64, minInt64⟩]
    decide +kernel

end Grid

end Broadphase
