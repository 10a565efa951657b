import Broadphase.Grid.Config
import Broadphase.Grid.Span
import Broadphase.Proofs.Binary64.Arithmetic

/-! # Cells of a span, and why overlapping rectangles share one

A span lists every cell between its corners once (`mem_cells`, `nodup_cells`), and `cellCount` is
the length of the list as far as it is told apart (`cellCount_eq`).  A rectangle covers at least the
cell of its corner (`low_mem_cells`), even if the corner is no number.  Overlapping
rectangles have spans with a common cell (`exists_shared_cell`), whatever their coordinates are:
the number of a cell never goes down when the coordinate goes up, so the larger of the two first
columns is a column of both spans, and the same holds for the rows. -/

namespace Broadphase

namespace Span

theorem mem_between {lo hi z : ℤ} : z ∈ between lo hi ↔ lo ≤ z ∧ z ≤ hi := by
  simp only [between, side, List.mem_map, List.mem_range]
  constructor
  · rintro ⟨k, hk, rfl⟩
    omega
  · intro h
    exact ⟨(z - lo).toNat, by omega, by omega⟩

theorem nodup_between (lo hi : ℤ) : (between lo hi).Nodup :=
  List.nodup_range.map fun a b h => by omega

theorem mem_cells {s : Span} {c : Cell} :
    c ∈ s.cells ↔ (s.low.column ≤ c.column ∧ c.column ≤ s.high.column) ∧
      s.low.row ≤ c.row ∧ c.row ≤ s.high.row := by
  obtain ⟨column, row⟩ := c
  simp only [cells, List.mem_flatMap, List.mem_map, mem_between, Cell.mk.injEq]
  constructor
  · rintro ⟨x, hx, y, hy, rfl, rfl⟩
    exact ⟨hx, hy⟩
  · rintro ⟨hx, hy⟩
    exact ⟨column, hx, row, hy, rfl, rfl⟩

theorem nodup_cells (s : Span) : s.cells.Nodup := by
  unfold cells
  rw [List.nodup_flatMap]
  constructor
  · intro x _
    exact (nodup_between _ _).map fun a b h => (Cell.mk.inj h).2
  · refine (nodup_between _ _).imp fun {x x'} hne => ?_
    rw [Function.onFun, List.disjoint_left]
    intro c hc hc'
    obtain ⟨y, -, rfl⟩ := List.mem_map.mp hc
    obtain ⟨y', -, h⟩ := List.mem_map.mp hc'
    exact hne (Cell.mk.inj h).1.symm

theorem length_between (lo hi : ℤ) : (between lo hi).length = side lo hi := by
  simp only [between, List.length_map, List.length_range]

theorem length_cells (s : Span) :
    s.cells.length = side s.low.column s.high.column * side s.low.row s.high.row := by
  simp only [cells, List.length_flatMap, List.length_map, length_between, List.map_const',
    List.sum_replicate, smul_eq_mul]

theorem cellCount_eq (s : Span) : s.cellCount = min countLimit s.cells.length := by
  rw [cellCount, length_cells]

end Span

/-! ### Settings that pass the check -/

theorem GridConfig.validate_eq_ok_iff {c : GridConfig} :
    c.validate = .ok () ↔ (c.cellSize.isFinite ∧ c.cellSize > 0) ∧ c.maxObjectsPerCell ≠ 0 := by
  unfold GridConfig.validate
  by_cases h1 : c.cellSize.isFinite ∧ c.cellSize > 0
  · by_cases h2 : c.maxObjectsPerCell = 0
    · rw [if_neg (not_not.mpr h1), if_pos h2]
      simp [h2]
    · rw [if_neg (not_not.mpr h1), if_neg h2]
      exact ⟨fun _ => ⟨h1, h2⟩, fun _ => rfl⟩
  · rw [if_pos h1]
    exact ⟨fun h => by simp at h, fun h => absurd h.1 h1⟩

theorem GridConfig.exists_cellSize {c : GridConfig} (h : c.validate = .ok ()) :
    ∃ b : ℝ, Binary64.HasValue c.cellSize b ∧ 0 < b := by
  obtain ⟨⟨hfin, hpos⟩, -⟩ := validate_eq_ok_iff.mp h
  obtain ⟨b, hb⟩ := Binary64.exists_hasValue_of_isFinite hfin
  exact ⟨b, hb, EReal.coe_lt_coe_iff.mp ((Binary64.hasValue_zero.lt_iff hb).mp hpos)⟩

/-! ### The cells of overlapping rectangles -/

section overlap
open Binary64
variable {config : GridConfig} (hconfig : config.validate = .ok ())

include hconfig

theorem Span.index_mono {x y : Float} {u v : EReal} (hx : HasValue x u) (hy : HasValue y v)
    (h : u ≤ v) : index config.cellSize x ≤ index config.cellSize y := by
  obtain ⟨b, hb, hpos⟩ := GridConfig.exists_cellSize hconfig
  obtain ⟨u', v', hx', hy', h'⟩ := div_mono hx hy hb hpos h
  exact floorInt64_mono hx' hy' h'

/-- On one axis, an interval ends in no earlier cell than it begins, wherever it lies. -/
theorem Span.index_le_index_add (x : Float) {w : Float} (hw : w.isFinite) (h0 : w ≥ 0) :
    index config.cellSize x ≤ index config.cellSize (x + w) := by
  cases hx : x.isNaN with
  | true =>
      unfold index
      rw [floorInt64_of_isNaN (isNaN_div _ hx), floorInt64_of_isNaN (isNaN_div _ (isNaN_add w hx))]
  | false =>
      obtain ⟨a, ha⟩ := exists_hasValue hx
      obtain ⟨c, hc, hle⟩ := le_add_right ha hw h0
      exact index_mono hconfig ha hc hle

/-- A rectangle covers the cell of its corner. -/
theorem Span.low_mem_cells (r : Rect) :
    (ofRect config.cellSize r).low ∈ (ofRect config.cellSize r).cells := by
  obtain ⟨hw, hh, hw0, hh0⟩ := r.validExtent
  exact mem_cells.mpr ⟨⟨le_rfl, index_le_index_add hconfig r.x hw hw0⟩,
    le_rfl, index_le_index_add hconfig r.y hh hh0⟩

/-- On one axis, two intervals whose interiors meet have a common cell. -/
theorem Span.exists_shared_index {x w x' w' : Float} (hw : w.isFinite) (h0 : w ≥ 0)
    (hw' : w'.isFinite) (h0' : w' ≥ 0) (h : x < x' + w') (h' : x + w > x') :
    ∃ k, (index config.cellSize x ≤ k ∧ k ≤ index config.cellSize (x + w)) ∧
      index config.cellSize x' ≤ k ∧ k ≤ index config.cellSize (x' + w') := by
  obtain ⟨a, b', ha, hb', hlt⟩ := exists_hasValue_of_lt h
  obtain ⟨a', b, ha', hb, hlt'⟩ := exists_hasValue_of_lt h'
  -- each interval begins before it ends, and before the other one ends
  have h1 := index_le_index_add hconfig x hw h0
  have h2 := index_le_index_add hconfig x' hw' h0'
  have h3 := index_mono hconfig ha hb' hlt.le
  have h4 := index_mono hconfig ha' hb hlt'.le
  exact ⟨max (index config.cellSize x) (index config.cellSize x'), by omega, by omega⟩

/-- Overlapping rectangles cover a common cell. -/
theorem Span.exists_shared_cell {a b : Rect} (h : a.overlaps b) :
    ∃ c, c ∈ (ofRect config.cellSize a).cells ∧ c ∈ (ofRect config.cellSize b).cells := by
  simp only [Rect.overlaps, Bool.and_eq_true, decide_eq_true_eq] at h
  obtain ⟨⟨⟨hx, hx'⟩, hy⟩, hy'⟩ := h
  obtain ⟨haw, hah, haw0, hah0⟩ := a.validExtent
  obtain ⟨hbw, hbh, hbw0, hbh0⟩ := b.validExtent
  obtain ⟨column, hca, hcb⟩ := exists_shared_index hconfig haw haw0 hbw hbw0 hx hx'
  obtain ⟨row, hra, hrb⟩ := exists_shared_index hconfig hah hah0 hbh hbh0 hy hy'
  exact ⟨⟨column, row⟩, mem_cells.mpr ⟨hca, hra⟩, mem_cells.mpr ⟨hcb, hrb⟩⟩

end overlap

end Broadphase
