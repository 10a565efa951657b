import Broadphase.Proofs.Detection.Pairs
import Broadphase.Proofs.Grid.Contents

/-! # Marks keep a pair from being tested twice

A collection goes through the indices in order.  For each index it goes through the buckets of its cells,
where a later index may turn up several times, and leaves a mark at the first one.  The marks of the
earlier indices are still there, but they are smaller (`Search.Below`).  So in a pass the marks tell
exactly which indices were tested in this pass (`Pass`), and each later index in the buckets is tested
once (`Pass.visits`).  With the oversized ones these are the candidates of the index (`scan_spec`).

Hence a collection tests every candidate pair once and lists those that overlap in increasing order
(`collect_eq`).  What it returns does not depend on the marks that it found (`collect_congr`). -/

namespace Broadphase

namespace Search

variable {rects : Array Rect} {i j : ℕ} {start s : Search} {met tested : List ℕ}

/-- No mark is larger than `i`: there is none of the index `i` or of a later one. -/
def Below (i : ℕ) (s : Search) : Prop := ∀ m ∈ s.seen, m ≤ i

/-- The pass of `i` through some buckets: the indices that it has met, and those that it has tested. -/
structure Pass (rects : Array Rect) (i : ℕ) (start : Search) (met tested : List ℕ) (s : Search) :
    Prop where
  found : s.found = tested.foldl (Detection.test rects i) start.found
  nodup : tested.Nodup
  mem_iff : ∀ j, j ∈ tested ↔ i < j ∧ j ∈ met
  seen : ∀ j, s.seen[j]? = if j ∈ tested then start.seen[j]?.map fun _ => i + 1 else start.seen[j]?

theorem pass_refl (rects : Array Rect) (i : ℕ) (s : Search) : Pass rects i s [] [] s where
  found := rfl
  nodup := List.nodup_nil
  mem_iff j := by simp
  seen j := by simp

theorem Pass.size (h : Pass rects i start met tested s) : s.seen.size = start.seen.size := by
  have hend (j : ℕ) : s.seen.size ≤ j ↔ start.seen.size ≤ j := by
    rw [← Array.getElem?_eq_none_iff, ← Array.getElem?_eq_none_iff, h.seen j]
    split_ifs <;> simp
  exact eq_of_forall_ge_iff hend

/-- In the pass of `i`, the mark of `i` tells the indices that were tested. -/
theorem Pass.marked_iff (h : Pass rects i start met tested s) (hbelow : start.Below i)
    (hj : j < start.seen.size) : s.seen[j]? = some (i + 1) ↔ j ∈ tested := by
  rw [h.seen j, Array.getElem?_eq_getElem hj]
  by_cases hmem : j ∈ tested
  · simp [hmem]
  · have hold : start.seen[j] ≤ i := hbelow _ (Array.getElem_mem hj)
    simp only [hmem, if_false, Option.some.injEq, iff_false]
    omega

/-- An index that comes before or bears the mark is passed over. -/
theorem Pass.skip (h : Pass rects i start met tested s) (hj : j ≤ i ∨ j ∈ tested) :
    Pass rects i start (met ++ [j]) tested s where
  found := h.found
  nodup := h.nodup
  mem_iff k := by
    rw [h.mem_iff k, List.mem_append, List.mem_singleton]
    constructor
    · rintro ⟨hik, hk⟩
      exact ⟨hik, .inl hk⟩
    · rintro ⟨hik, hk | rfl⟩
      · exact ⟨hik, hk⟩
      · exact (h.mem_iff k).mp (hj.resolve_left (by omega))
  seen := h.seen

/-- A later index without the mark is tested, and then it bears the mark. -/
theorem Pass.fresh (h : Pass rects i start met tested s) (hij : i < j) (hj : j ∉ tested) :
    Pass rects i start (met ++ [j]) (tested ++ [j])
      { seen := s.seen.setIfInBounds j (i + 1), found := s.found.test rects i j } where
  found := by rw [h.found, List.foldl_append, List.foldl_cons, List.foldl_nil]
  nodup := List.nodup_append.mpr ⟨h.nodup, List.nodup_singleton j, by
    rintro k hk _ hk' rfl
    exact hj (List.mem_singleton.mp hk' ▸ hk)⟩
  mem_iff k := by
    rw [List.mem_append, List.mem_append, h.mem_iff k, List.mem_singleton]
    constructor
    · rintro (⟨hik, hk⟩ | rfl)
      · exact ⟨hik, .inl hk⟩
      · exact ⟨hij, .inr rfl⟩
    · rintro ⟨hik, hk | hk⟩
      · exact .inl ⟨hik, hk⟩
      · exact .inr hk
  seen k := by
    have hsize := h.size
    rw [Array.getElem?_setIfInBounds, h.seen k]
    by_cases hk : j = k
    · subst hk
      by_cases hbound : j < start.seen.size
      · simp [hbound, hsize]
      · simp [hbound, hsize, hj]
    · have hk' : k ≠ j := fun h => hk h.symm
      simp [hk, hk']

theorem Pass.visit (h : Pass rects i start met tested s) (hbelow : start.Below i)
    (hj : j < start.seen.size) :
    ∃ tested', Pass rects i start (met ++ [j]) tested' (s.visit rects i j) := by
  have hmarked := h.marked_iff hbelow hj
  unfold Search.visit
  split_ifs with hskip
  · exact ⟨tested, h.skip (hskip.imp_right hmarked.mp)⟩
  · rw [not_or] at hskip
    exact ⟨_, h.fresh (not_le.mp hskip.1) (mt hmarked.mpr hskip.2)⟩

/-- A pass tests every later index that it meets, and tests it once. -/
theorem Pass.visits (h : Pass rects i start met tested s) (hbelow : start.Below i) {more : List ℕ}
    (hmore : ∀ j ∈ more, j < start.seen.size) :
    ∃ tested', Pass rects i start (met ++ more) tested' (more.foldl (Search.visit rects i) s) := by
  induction more generalizing met tested s with
  | nil => exact ⟨tested, by rwa [List.append_nil]⟩
  | cons j more ih =>
      obtain ⟨hj, hmore⟩ := List.forall_mem_cons.mp hmore
      obtain ⟨tested₁, h₁⟩ := h.visit hbelow hj
      obtain ⟨tested₂, h₂⟩ := ih h₁ hmore
      rw [List.append_assoc, List.singleton_append] at h₂
      exact ⟨tested₂, h₂⟩

/-- A pass leaves its own marks and those of before. -/
theorem Pass.below (h : Pass rects i start met tested s) (hbelow : start.Below i) :
    s.Below (i + 1) := by
  intro m hm
  obtain ⟨j, hj⟩ := Array.mem_iff_getElem?.mp hm
  rw [h.seen j] at hj
  split_ifs at hj
  · obtain ⟨-, -, rfl⟩ := Option.map_eq_some_iff.mp hj
    exact le_rfl
  · exact (hbelow m (Array.mem_of_getElem? hj)).trans (Nat.le_succ i)

end Search

namespace Grid

variable {g g' : Grid} {rects : Array Rect} {i j : ℕ} {s : Search}

/-! ### The candidates of an index -/

instance (s? t? : Option Span) : Decidable (Meet s? t?) :=
  match s?, t? with
  | some s, some t => inferInstanceAs (Decidable (∃ c ∈ s.cells, c ∈ t.cells))
  | some _, none => isTrue trivial
  | none, _ => isTrue trivial

/-- The later indices that have to be tested against `i`, in increasing order. -/
def candidates (g : Grid) (i : ℕ) : List ℕ :=
  (Detection.indicesAfter i g.spans.size).filter fun j =>
    match g.spans[i]?, g.spans[j]? with
    | some s, some t => decide (Meet s t)
    | _, _ => false

theorem mem_candidates : j ∈ g.candidates i ↔ g.IsCandidate i j := by
  unfold candidates IsCandidate
  rw [List.mem_filter, Detection.mem_indicesAfter]
  constructor
  · rintro ⟨⟨hij, -⟩, h⟩
    split at h
    · rename_i s t hs ht
      exact ⟨hij, s, t, hs, ht, of_decide_eq_true h⟩
    · cases h
  · rintro ⟨hij, s, t, hs, ht, hmeet⟩
    rw [hs, ht]
    exact ⟨⟨hij, (Array.getElem?_eq_some_iff.mp ht).1⟩, decide_eq_true hmeet⟩

theorem candidates_pairwise (g : Grid) (i : ℕ) : (g.candidates i).Pairwise (· < ·) :=
  List.Pairwise.filter _ List.pairwise_lt_range'

theorem lt_of_mem_candidates : ∀ j ∈ g.candidates i, i < j := fun _ hj => (mem_candidates.mp hj).1

/-- The candidates are determined by the spans. -/
theorem candidates_congr (h : g.spans = g'.spans) (i : ℕ) : g.candidates i = g'.candidates i := by
  unfold candidates
  rw [h]

/-! ### One index -/

theorem foldl_cells_eq (g : Grid) (cells : List Cell) (s : Search) :
    cells.foldl (fun s c => (g.buckets.getD c #[]).foldl (Search.visit rects i) s) s =
      (cells.flatMap g.buckets.filed).foldl (Search.visit rects i) s := by
  rw [List.foldl_flatMap]
  simp only [Buckets.filed, Array.foldl_toList]

theorem Filed.mem_buckets_iff (hg : g.Filed) {span : Span} :
    j ∈ span.cells.flatMap g.buckets.filed ↔
      ∃ t, g.spans[j]? = some (some t) ∧ ∃ c, c ∈ span.cells ∧ c ∈ t.cells := by
  simp only [List.mem_flatMap, hg.bucket, mem_covering]
  constructor
  · rintro ⟨c, hc, t, ht, hc'⟩
    exact ⟨t, ht, c, hc, hc'⟩
  · rintro ⟨t, ht, c, hc, hc'⟩
    exact ⟨c, hc, t, ht, hc'⟩

theorem Filed.mem_oversized_iff (hg : g.Filed) :
    j ∈ (g.oversized.filter (i < ·)).toList ↔ i < j ∧ g.spans[j]? = some none := by
  rw [Array.toList_filter, List.mem_filter, hg.oversized, mem_apart, decide_eq_true_eq, and_comm]

theorem apart_nodup (spans : List (Option Span)) : (apart spans.zipIdx).Nodup := by
  have hsub : (apart spans.zipIdx).Sublist (spans.zipIdx.map Prod.snd) := List.filter_sublist.map _
  rw [List.zipIdx_map_snd] at hsub
  exact hsub.nodup List.nodup_range'

/-- An oversized index is tested against all later ones, which are its candidates. -/
theorem indicesAfter_perm_candidates (hi : g.spans[i]? = some none) :
    (Detection.indicesAfter i g.spans.size).Perm (g.candidates i) := by
  rw [List.perm_ext_iff_of_nodup (Detection.nodup_indicesAfter i _) (g.candidates_pairwise i).nodup]
  intro j
  rw [Detection.mem_indicesAfter, mem_candidates]
  constructor
  · rintro ⟨hij, hj⟩
    exact ⟨hij, none, g.spans[j], hi, Array.getElem?_eq_getElem hj, trivial⟩
  · rintro ⟨hij, -, t, -, ht, -⟩
    exact ⟨hij, (Array.getElem?_eq_some_iff.mp ht).1⟩

/-- The later indices in the buckets of a span and the oversized ones are its candidates. -/
theorem Filed.tested_perm_candidates (hg : g.Filed) {span : Span} (hi : g.spans[i]? = some (some span))
    {start : Search} {tested : List ℕ}
    (h : Search.Pass rects i start (span.cells.flatMap g.buckets.filed) tested s) :
    (tested ++ (g.oversized.filter (i < ·)).toList).Perm (g.candidates i) := by
  have hnodup : (g.oversized.filter (i < ·)).toList.Nodup := by
    rw [Array.toList_filter, hg.oversized]
    exact (apart_nodup g.spans.toList).filter _
  have hdisjoint : ∀ j ∈ tested, ∀ k ∈ (g.oversized.filter (i < ·)).toList, j ≠ k := by
    rintro j hj _ hk rfl
    obtain ⟨t, ht, -⟩ := hg.mem_buckets_iff.mp ((h.mem_iff j).mp hj).2
    rw [(hg.mem_oversized_iff.mp hk).2] at ht
    cases ht
  rw [List.perm_ext_iff_of_nodup (List.nodup_append.mpr ⟨h.nodup, hnodup, hdisjoint⟩)
    (g.candidates_pairwise i).nodup]
  intro j
  rw [List.mem_append, h.mem_iff, hg.mem_buckets_iff, hg.mem_oversized_iff, mem_candidates, IsCandidate,
    hi]
  constructor
  · rintro (⟨hij, t, ht, hmeet⟩ | ⟨hij, ht⟩)
    · exact ⟨hij, _, some t, rfl, ht, hmeet⟩
    · exact ⟨hij, _, none, rfl, ht, trivial⟩
  · rintro ⟨hij, s?, t?, hs, ht, hmeet⟩
    cases hs
    cases t? with
    | none => exact .inr ⟨hij, ht⟩
    | some t => exact .inl ⟨hij, t, ht, hmeet⟩

/-- One index is tested against its candidates, against each once. -/
theorem Filed.scan_spec (hg : g.Filed) (hsize : rects.size = g.spans.size) {s? : Option Span}
    (hi : g.spans[i]? = some s?) (hseen : s.seen.size = rects.size) (hbelow : s.Below i) :
    ∃ tested : List ℕ, tested.Perm (g.candidates i) ∧
      (g.scan rects s (s?, i)).found = tested.foldl (Detection.test rects i) s.found ∧
      (g.scan rects s (s?, i)).seen.size = rects.size ∧ (g.scan rects s (s?, i)).Below (i + 1) := by
  cases s? with
  | none =>
      refine ⟨_, indicesAfter_perm_candidates hi, by rw [scan, hsize], hseen, ?_⟩
      exact fun m hm => (hbelow m hm).trans (Nat.le_succ i)
  | some span =>
      have hmet : ∀ j ∈ span.cells.flatMap g.buckets.filed, j < s.seen.size := by
        intro j hj
        obtain ⟨t, ht, -⟩ := hg.mem_buckets_iff.mp hj
        rw [hseen, hsize]
        exact (Array.getElem?_eq_some_iff.mp ht).1
      obtain ⟨tested, hpass⟩ := (Search.pass_refl rects i s).visits hbelow hmet
      rw [List.nil_append, ← foldl_cells_eq] at hpass
      refine ⟨_, hg.tested_perm_candidates hi hpass, ?_, hpass.size.trans hseen, hpass.below hbelow⟩
      rw [List.foldl_append, ← hpass.found, Array.foldl_toList]
      rfl

/-! ### All indices -/

/-- The first indices are done: their candidates were tested, and the marks are theirs. -/
structure Scanned (g : Grid) (rects : Array Rect) (count : ℕ) (s : Search) : Prop where
  tallied : Detection.Tallied rects g.candidates count s.found
  size : s.seen.size = rects.size
  below : s.Below count

theorem Filed.scanned (hg : g.Filed) (hsize : rects.size = g.spans.size) {spans : List (Option Span)}
    {count : ℕ} (hspans : ∀ i, spans[i]? = g.spans[count + i]?) (h : Scanned g rects count s) :
    Scanned g rects (count + spans.length) ((spans.zipIdx count).foldl (g.scan rects) s) := by
  induction spans generalizing count s with
  | nil => exact h
  | cons s? spans ih =>
      have hi : g.spans[count]? = some s? := (hspans 0).symm
      obtain ⟨tested, hperm, hfound, hseen, hbelow⟩ := hg.scan_spec hsize hi h.size h.below
      have hlater : ∀ j ∈ tested, count < j := fun j hj => lt_of_mem_candidates j (hperm.mem_iff.mp hj)
      have h₁ : Scanned g rects (count + 1) (g.scan rects s (s?, count)) :=
        ⟨hfound ▸ h.tallied.succ hperm hlater, hseen, hbelow⟩
      have hrest : ∀ i, spans[i]? = g.spans[count + 1 + i]? := by
        intro i
        rw [Nat.add_assoc, Nat.add_comm 1 i]
        exact hspans (i + 1)
      rw [List.zipIdx_cons, List.foldl_cons, List.length_cons, Nat.add_comm spans.length, ← Nat.add_assoc]
      exact ih hrest h₁

theorem scanned_zero (g : Grid) (rects : Array Rect) :
    Scanned g rects 0 { seen := Array.replicate rects.size 0 } where
  tallied := Detection.tallied_zero rects g.candidates
  size := Array.size_replicate
  below _ hm := (Array.mem_replicate.mp hm).2.le

/-- A collection lists the candidates that overlap, and counts one test for each candidate. -/
theorem Filed.collect_eq (hg : g.Filed) (hsize : rects.size = g.spans.size) :
    (g.collect rects).2 =
      { pairs := (List.range g.spans.size).flatMap fun i => Detection.pairsOf rects i (g.candidates i)
        checks := ((List.range g.spans.size).map fun i => (g.candidates i).length).sum } := by
  have hspans : ∀ i, g.spans.toList[i]? = g.spans[0 + i]? := fun i => by
    rw [Nat.zero_add, Array.getElem?_toList]
  have hscanned := hg.scanned hsize hspans (scanned_zero g rects)
  rw [Nat.zero_add, Array.length_toList] at hscanned
  have hsorted : ((List.range g.spans.size).flatMap fun i =>
      Detection.pairsOf rects i (g.candidates i)).Pairwise IndexPair.Before :=
    Detection.pairwise_flatMap_range (fun i p hp => (Detection.mem_pairsOf.mp hp).1)
      (fun i => Detection.pairsOf_pairwise (g.candidates_pairwise i)) g.spans.size
  unfold collect
  dsimp only
  rw [IndexPair.sort_eq hscanned.tallied.pairs hsorted, hscanned.tallied.checks]

/-- Filed grids with the same spans test the same pairs. -/
theorem collect_congr (hg : g.Filed) (hg' : g'.Filed) (h : g.spans = g'.spans)
    (hsize : rects.size = g.spans.size) : (g.collect rects).2 = (g'.collect rects).2 := by
  rw [hg.collect_eq hsize, hg'.collect_eq (hsize.trans (congrArg Array.size h)), h]
  simp only [candidates_congr h]

end Grid

end Broadphase
