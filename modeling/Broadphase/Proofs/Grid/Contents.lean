import Broadphase.Grid.Basic
import Broadphase.Proofs.Grid.Cells

/-! # What a grid holds after a build

`Grid.Filed` is the invariant of a grid: the bucket of every cell lists, in increasing order, the
indices of the spans that cover the cell, and the indices without a span are listed apart.  A build
enters one rectangle after the other (`rebuild_eq`), and it establishes the invariant whatever the
buckets held before (`rebuild_eq_ok`), because recycled buckets are empty.  So a filed grid is determined
by its spans as far as anyone can see: two filed grids with the same spans have the same occupancy
(`stats_congr`), whatever empty buckets they keep. -/

namespace Broadphase

theorem bind_eq_ok_iff {ε α β : Type} {x : Except ε α} {f : α → Except ε β} {b : β} :
    (x >>= f) = .ok b ↔ ∃ a, x = .ok a ∧ f a = .ok b := by
  cases x with
  | error e =>
      constructor
      · intro h
        cases h
      · rintro ⟨a, h, -⟩
        cases h
  | ok a =>
      constructor
      · intro h
        exact ⟨a, rfl, h⟩
      · rintro ⟨_, h, h'⟩
        cases h
        exact h'

theorem map_eq_ok_iff {ε α β : Type} {f : α → β} {x : Except ε α} {b : β} :
    x.map f = .ok b ↔ ∃ a, x = .ok a ∧ f a = b := by
  cases x <;> simp [Except.map]

theorem exists_foldlM_ok {ε α β : Type} {f : β → α → Except ε β} (h : ∀ b a, ∃ b', f b a = .ok b')
    (l : List α) (b : β) : ∃ b', l.foldlM f b = .ok b' := by
  induction l generalizing b with
  | nil => exact ⟨b, rfl⟩
  | cons a l ih =>
      obtain ⟨b₁, h₁⟩ := h b a
      obtain ⟨b₂, h₂⟩ := ih b₁
      exact ⟨b₂, by rw [List.foldlM_cons]; exact bind_eq_ok_iff.mpr ⟨b₁, h₁, h₂⟩⟩

/-! ### Buckets -/

namespace Buckets

/-- Puts an index into the buckets of all cells of its span. -/
def addSpan (config : GridConfig) (b : Buckets) : Option Span × ℕ → Allocated Buckets
  | (none, _) => .ok b
  | (some s, i) => s.cells.foldlM (add config i) b

/-- The indices filed under a cell. -/
def filed (b : Buckets) (c : Cell) : List ℕ := (b.getD c #[]).toList

theorem filed_recycle (b : Buckets) (c : Cell) : b.recycle.filed c = [] := by
  unfold filed recycle
  rw [Std.HashMap.getD_filterMap']
  cases h : b[c]? with
  | none => rfl
  | some bucket =>
      show ((if bucket.isEmpty then none else some #[]).getD #[]).toList = []
      split_ifs <;> rfl

theorem filed_add {config : GridConfig} {i : ℕ} {b b' : Buckets} {c : Cell}
    (h : add config i b c = .ok b') (c' : Cell) :
    b'.filed c' = b.filed c' ++ if c = c' then [i] else [] := by
  unfold add at h
  split_ifs at h with hmem halloc
  · cases h
    unfold filed
    rw [Std.HashMap.getD_modify]
    by_cases hc : c = c'
    · subst hc
      rw [if_pos rfl, if_pos (by simp), Std.HashMap.getD_eq_getD_getElem?,
        Std.HashMap.getElem?_eq_some_getElem hmem]
      simp
    · rw [if_neg hc, if_neg (by simpa using hc), List.append_nil]
  · cases h
    unfold filed
    rw [Std.HashMap.getD_insert]
    by_cases hc : c = c'
    · subst hc
      rw [if_pos rfl, if_pos (by simp), Std.HashMap.getD_eq_fallback hmem]
      rfl
    · rw [if_neg hc, if_neg (by simpa using hc), List.append_nil]

/-- A cell that is listed once receives the index once. -/
theorem filed_foldlM_add {config : GridConfig} {i : ℕ} {cells : List Cell} {b b' : Buckets}
    (hnodup : cells.Nodup) (h : cells.foldlM (add config i) b = .ok b') (c : Cell) :
    b'.filed c = b.filed c ++ if c ∈ cells then [i] else [] := by
  induction cells generalizing b with
  | nil =>
      cases h
      simp
  | cons c₀ cells ih =>
      rw [List.foldlM_cons, bind_eq_ok_iff] at h
      obtain ⟨b₁, h₁, h₂⟩ := h
      obtain ⟨hc₀, hnodup⟩ := List.nodup_cons.mp hnodup
      rw [ih hnodup h₂, filed_add h₁]
      by_cases hc : c₀ = c
      · subst hc
        simp [hc₀]
      · have hc' : c ≠ c₀ := fun h => hc h.symm
        simp [hc, hc']

/-- An entry of a build covers a cell; an oversized one covers none. -/
def covers (c : Cell) (s? : Option Span) : Bool := s?.any fun s => c ∈ s.cells

/-- The indices of the entries that cover a cell. -/
def covering (c : Cell) (entries : List (Option Span × ℕ)) : List ℕ :=
  (entries.filter fun e => covers c e.1).map Prod.snd

theorem filed_addSpan {config : GridConfig} {b b' : Buckets} {e : Option Span × ℕ}
    (h : addSpan config b e = .ok b') (c : Cell) :
    b'.filed c = b.filed c ++ covering c [e] := by
  obtain ⟨s?, i⟩ := e
  cases s? with
  | none =>
      cases h
      simp [covering, covers]
  | some s =>
      rw [filed_foldlM_add s.nodup_cells h]
      by_cases hc : c ∈ s.cells <;> simp [covering, covers, hc]

theorem filed_foldlM_addSpan {config : GridConfig} {entries : List (Option Span × ℕ)}
    {b b' : Buckets} (h : entries.foldlM (addSpan config) b = .ok b') (c : Cell) :
    b'.filed c = b.filed c ++ covering c entries := by
  induction entries generalizing b with
  | nil =>
      cases h
      simp [covering]
  | cons e entries ih =>
      rw [List.foldlM_cons, bind_eq_ok_iff] at h
      obtain ⟨b₁, h₁, h₂⟩ := h
      rw [ih h₂, filed_addSpan h₁, List.append_assoc]
      simp only [covering, ← List.map_append, ← List.filter_append, List.singleton_append]

theorem exists_add {config : GridConfig} (h : config.allocatable) (i : ℕ) (b : Buckets) (c : Cell) :
    ∃ b', add config i b c = .ok b' := by
  unfold add
  split_ifs
  · exact ⟨_, rfl⟩
  · exact ⟨_, rfl⟩

theorem exists_addSpan {config : GridConfig} (h : config.allocatable) (b : Buckets)
    (e : Option Span × ℕ) : ∃ b', addSpan config b e = .ok b' := by
  obtain ⟨s?, i⟩ := e
  cases s? with
  | none => exact ⟨b, rfl⟩
  | some s => exact exists_foldlM_ok (exists_add h i) s.cells b

end Buckets

namespace Grid

/-! ### Entering rectangles -/

/-- The indices of the entries without a span. -/
def apart (entries : List (Option Span × ℕ)) : List ℕ :=
  (entries.filter fun e => e.1.isNone).map Prod.snd

/-- The grid with further entries and the given buckets. -/
def extended (g : Grid) (spans : List (Option Span)) (buckets : Buckets) : Grid :=
  { g with
    buckets
    spans := g.spans ++ spans
    oversized := g.oversized ++ apart (spans.zipIdx g.spans.size) }

theorem enter_eq (count : ℕ) (g : Grid) (r : Rect) :
    enter count g r = (do
      let buckets ← Buckets.addSpan g.config g.buckets (spanOf? g.config count r, g.spans.size)
      return g.extended [spanOf? g.config count r] buckets) := by
  unfold enter extended
  cases spanOf? g.config count r with
  | none => simp [Buckets.addSpan, apart, bind, Except.bind, pure, Except.pure]
  | some s => simp [Buckets.addSpan, apart]

theorem extended_extended (g : Grid) (s? : Option Span) (spans : List (Option Span))
    (buckets buckets' : Buckets) :
    (g.extended [s?] buckets).extended spans buckets' = g.extended (s? :: spans) buckets' := by
  cases s? <;> simp [extended, apart]

theorem foldlM_enter_eq (count : ℕ) (rects : List Rect) (g : Grid) :
    rects.foldlM (enter count) g = (do
      let buckets ← ((rects.map (spanOf? g.config count)).zipIdx g.spans.size).foldlM
        (Buckets.addSpan g.config) g.buckets
      return g.extended (rects.map (spanOf? g.config count)) buckets) := by
  induction rects generalizing g with
  | nil => simp [extended, apart]
  | cons r rects ih =>
      rw [List.foldlM_cons, enter_eq, List.map_cons, List.zipIdx_cons, List.foldlM_cons]
      simp only [bind_assoc, pure_bind, ih, extended_extended]
      simp [extended]

/-- A build recycles the buckets, and all rectangles that are not oversized go into them. -/
theorem rebuild_eq (g : Grid) (rects : Array Rect) : g.rebuild rects = (do
    let spans := rects.map (spanOf? g.config rects.size)
    let buckets ← spans.toList.zipIdx.foldlM (Buckets.addSpan g.config) g.buckets.recycle
    return { g with buckets, spans, oversized := (apart spans.toList.zipIdx).toArray }) := by
  have hspans : (rects.toList.map (spanOf? g.config rects.size)).toArray =
      rects.map (spanOf? g.config rects.size) := by
    rw [← Array.toList_map, Array.toArray_toList]
  unfold rebuild
  rw [foldlM_enter_eq]
  simp [extended, clear, hspans]

/-! ### The invariant -/

/-- Every bucket lists the indices of the spans that cover its cell, and the indices without a span are
listed apart. -/
structure Filed (g : Grid) : Prop where
  bucket : ∀ c, g.buckets.filed c = Buckets.covering c g.spans.toList.zipIdx
  oversized : g.oversized.toList = apart g.spans.toList.zipIdx

theorem make_eq_ok {config : GridConfig} {g : Grid} (h : make config = .ok g) :
    config.validate = .ok () ∧ g = { config } := by
  unfold make at h
  obtain ⟨_, hv, h⟩ := bind_eq_ok_iff.mp h
  cases h
  exact ⟨hv, rfl⟩

theorem exists_make {config : GridConfig} (h : config.validate = .ok ()) :
    make config = .ok { config } := by
  unfold make
  rw [h]
  rfl

theorem filed_empty (config : GridConfig) : Filed { config } where
  bucket c := by simp [Buckets.filed, Buckets.covering]
  oversized := rfl

/-- A rebuild forgets everything about the grid but its settings. -/
theorem rebuild_eq_ok {g g' : Grid} {rects : Array Rect} (h : g.rebuild rects = .ok g') :
    g'.config = g.config ∧ g'.spans = rects.map (spanOf? g.config rects.size) ∧ g'.Filed := by
  rw [rebuild_eq] at h
  obtain ⟨buckets, hb, h⟩ := bind_eq_ok_iff.mp h
  cases h
  refine ⟨rfl, rfl, fun c => ?_, rfl⟩
  rw [Buckets.filed_foldlM_addSpan hb, Buckets.filed_recycle, List.nil_append]

theorem exists_rebuild {g : Grid} (h : g.config.allocatable) (rects : Array Rect) :
    ∃ g', g.rebuild rects = .ok g' := by
  obtain ⟨b, hb⟩ := exists_foldlM_ok (Buckets.exists_addSpan h)
    (rects.map (spanOf? g.config rects.size)).toList.zipIdx g.buckets.recycle
  rw [rebuild_eq]
  exact ⟨_, bind_eq_ok_iff.mpr ⟨b, hb, rfl⟩⟩

/-! ### Candidates -/

/-- Two entries of a build have to be tested against each other: one of them is oversized, or both
cover a common cell. -/
def Meet : Option Span → Option Span → Prop
  | some s, some t => ∃ c, c ∈ s.cells ∧ c ∈ t.cells
  | _, _ => True

/-- The later index `j` has to be tested against `i`. -/
def IsCandidate (g : Grid) (i j : ℕ) : Prop :=
  i < j ∧ ∃ s t, g.spans[i]? = some s ∧ g.spans[j]? = some t ∧ Meet s t

theorem mem_apart {g : Grid} {j : ℕ} :
    j ∈ apart g.spans.toList.zipIdx ↔ g.spans[j]? = some none := by
  simp only [apart, List.mem_map, List.mem_filter, Prod.exists, List.mem_zipIdx_iff_getElem?,
    Array.getElem?_toList, Option.isNone_iff_eq_none]
  constructor
  · rintro ⟨s?, i, ⟨hs, rfl⟩, rfl⟩
    exact hs
  · intro h
    exact ⟨none, j, ⟨h, rfl⟩, rfl⟩

theorem mem_covering {g : Grid} {c : Cell} {j : ℕ} :
    j ∈ Buckets.covering c g.spans.toList.zipIdx ↔
      ∃ t, g.spans[j]? = some (some t) ∧ c ∈ t.cells := by
  simp only [Buckets.covering, List.mem_map, List.mem_filter, Prod.exists,
    List.mem_zipIdx_iff_getElem?, Array.getElem?_toList]
  constructor
  · rintro ⟨s, i, ⟨hs, hc⟩, rfl⟩
    cases s with
    | none => cases hc
    | some t => exact ⟨t, hs, by simpa [Buckets.covers] using hc⟩
  · rintro ⟨t, ht, hc⟩
    exact ⟨some t, j, ⟨ht, by simpa [Buckets.covers] using hc⟩, rfl⟩

end Grid

/-! ### Occupancy -/

namespace Buckets

theorem values_eq (b : Buckets) : b.values = b.toList.map Prod.snd := by
  show Std.DHashMap.Raw.values b.inner.inner = (Std.DHashMap.Raw.Const.toList b.inner.inner).map _
  rw [Std.DHashMap.Internal.Raw.values_eq_values_toListModel,
    Std.DHashMap.Internal.Raw.Const.toList_eq_toListModel_map, Std.Internal.List.values_eq_map,
    List.map_map]
  rfl

/-- The buckets in use, with their cells. -/
def used (b : Buckets) : List (Cell × Array ℕ) := b.toList.filter fun e => 0 < e.2.size

theorem sizes_eq (b : Buckets) : b.sizes = b.used.map fun e => e.2.size := by
  unfold sizes used
  rw [values_eq, List.map_map, List.filter_map]
  rfl

theorem mem_used {b : Buckets} {e : Cell × Array ℕ} :
    e ∈ b.used ↔ b.getD e.1 #[] = e.2 ∧ 0 < e.2.size := by
  obtain ⟨c, bucket⟩ := e
  simp only [used, List.mem_filter, decide_eq_true_eq, Std.HashMap.mem_toList_iff_getElem?_eq_some,
    Std.HashMap.getD_eq_getD_getElem?]
  constructor
  · rintro ⟨h, hpos⟩
    rw [h]
    exact ⟨rfl, hpos⟩
  · rintro ⟨h, hpos⟩
    cases hc : b[c]? with
    | none =>
        rw [hc] at h
        subst h
        simp at hpos
    | some bucket' =>
        rw [hc] at h
        exact ⟨congrArg some h, hpos⟩

/-- The cells whose buckets are in use. -/
def usedCells (b : Buckets) : List Cell := b.used.map Prod.fst

theorem nodup_usedCells (b : Buckets) : b.usedCells.Nodup := by
  refine List.pairwise_map.mpr ((Std.HashMap.distinct_keys_toList.filter _).imp fun {e e'} hne h => ?_)
  simp [h] at hne

theorem mem_usedCells {b : Buckets} {c : Cell} : c ∈ b.usedCells ↔ 0 < (b.filed c).length := by
  unfold usedCells filed
  rw [List.mem_map]
  constructor
  · rintro ⟨e, he, rfl⟩
    obtain ⟨hbucket, hpos⟩ := mem_used.mp he
    rwa [hbucket]
  · intro h
    exact ⟨(c, b.getD c #[]), mem_used.mpr ⟨rfl, h⟩, rfl⟩

theorem sizes_eq_map_filed (b : Buckets) : b.sizes = b.usedCells.map fun c => (b.filed c).length := by
  rw [sizes_eq, usedCells, List.map_map]
  refine List.map_congr_left fun e he => ?_
  show e.2.size = (b.getD e.1 #[]).toList.length
  rw [(mem_used.mp he).1, Array.length_toList]

/-- The sizes of the buckets in use follow from the number of indices under every cell. -/
theorem sizes_perm_map {b : Buckets} {size : Cell → ℕ} {cells : List Cell}
    (hsize : ∀ c, (b.filed c).length = size c) (hnodup : cells.Nodup)
    (hcells : ∀ c, c ∈ cells ↔ 0 < size c) : b.sizes.Perm (cells.map size) := by
  have hperm : b.usedCells.Perm cells := by
    rw [List.perm_ext_iff_of_nodup b.nodup_usedCells hnodup]
    intro c
    rw [mem_usedCells, hsize, hcells]
  rw [sizes_eq_map_filed]
  simp only [hsize]
  exact hperm.map size

/-- Buckets with as many indices under every cell differ in empty buckets only. -/
theorem sizes_perm {b b' : Buckets} (h : ∀ c, (b.filed c).length = (b'.filed c).length) :
    b.sizes.Perm b'.sizes := by
  rw [sizes_eq_map_filed b']
  exact sizes_perm_map h b'.nodup_usedCells fun _ => mem_usedCells

end Buckets

/-- Grids with as many indices under every cell and as many oversized rectangles have the same
occupancy. -/
theorem Grid.stats_of_lengths {g g' : Grid}
    (hfiled : ∀ c, (g.buckets.filed c).length = (g'.buckets.filed c).length)
    (hover : g.oversized.size = g'.oversized.size) : g.stats = g'.stats := by
  have hsizes : g.buckets.sizes.Perm g'.buckets.sizes := Buckets.sizes_perm hfiled
  unfold Grid.stats
  rw [hsizes.length_eq, hsizes.foldl_eq, hsizes.foldl_eq, hover]

/-- Filed grids with the same spans have the same occupancy. -/
theorem Grid.stats_congr {g g' : Grid} (hg : g.Filed) (hg' : g'.Filed) (h : g.spans = g'.spans) :
    g.stats = g'.stats := by
  refine Grid.stats_of_lengths (fun c => ?_) ?_
  · rw [hg.bucket c, hg'.bucket c, h]
  · rw [← Array.length_toList, ← Array.length_toList, hg.oversized, hg'.oversized, h]

end Broadphase
