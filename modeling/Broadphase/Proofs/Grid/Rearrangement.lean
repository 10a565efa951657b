import Broadphase.Proofs.Grid.Freshness

/-! # Detection in another order

The detectors test an index only against later ones, and the grid treats oversized rectangles apart;
yet the order of the rectangles does not matter.  Whether two of them are tested and whether they
overlap are symmetric relations (`Linked.symm`, `overlapAt_comm`).  So if the rectangles are rearranged,
the pairs are those of before under their new indices (`IndexPair.perm_renamed`), and a build, which
only counts rectangles, has the same occupancy (`Holds.stats_of_perm`). -/

namespace Broadphase

/-! ### New indices for old ones -/

/-- The permutation moves the entries of the first array to the places that they have in the second. -/
def Moves {α : Type} (σ : Equiv.Perm ℕ) (xs ys : Array α) : Prop := ∀ i, ys[σ i]? = xs[i]?

theorem Moves.map {α β : Type} {σ : Equiv.Perm ℕ} {xs ys : Array α} (h : Moves σ xs ys) (f : α → β) :
    Moves σ (xs.map f) (ys.map f) := by
  intro i
  rw [Array.getElem?_map, Array.getElem?_map, h i]

namespace IndexPair

variable {σ : Equiv.Perm ℕ}

/-- The pair of the new indices. -/
def renamed (σ : Equiv.Perm ℕ) (p : IndexPair) : IndexPair :=
  if h : σ p.first < σ p.second then ⟨σ p.first, σ p.second, h⟩
  else ⟨σ p.second, σ p.first, lt_of_le_of_ne (not_lt.mp h) fun he => p.lt.ne' (σ.injective he)⟩

theorem of?_eq_renamed (σ : Equiv.Perm ℕ) (p : IndexPair) :
    of? (σ p.first) (σ p.second) = some (p.renamed σ) := by
  unfold of? renamed
  have hne : σ p.first ≠ σ p.second := fun he => p.lt.ne (σ.injective he)
  split_ifs with h h'
  · rfl
  · rfl
  · omega

theorem renamed_renamed (σ : Equiv.Perm ℕ) (p : IndexPair) : (p.renamed σ.symm).renamed σ = p := by
  have hlt := p.lt
  unfold renamed
  split_ifs with h h' h'
  · simp
  · simp at h'
    omega
  · simp at h'
    omega
  · simp

/-- A symmetric relation that the permutation carries along holds of the renamed pair. -/
theorem renamed_iff {P P' : ℕ → ℕ → Prop} (hsymm : ∀ i j, P' i j → P' j i)
    (hmove : ∀ i j, P' (σ i) (σ j) ↔ P i j) (p : IndexPair) :
    P' (p.renamed σ).first (p.renamed σ).second ↔ P p.first p.second := by
  rw [← hmove]
  unfold renamed
  split_ifs with h
  · rfl
  · exact ⟨hsymm _ _, hsymm _ _⟩

/-- Two lists that name the pairs of a relation and of its image hold the same pairs up to renaming. -/
theorem perm_renamed (P P' : ℕ → ℕ → Prop) {pairs pairs' : List IndexPair}
    (hsymm : ∀ i j, P' i j → P' j i) (hmove : ∀ i j, P' (σ i) (σ j) ↔ P i j)
    (hpairs : pairs.Pairwise Before) (hpairs' : pairs'.Pairwise Before)
    (hmem : ∀ p, p ∈ pairs ↔ P p.first p.second) (hmem' : ∀ p, p ∈ pairs' ↔ P' p.first p.second) :
    pairs'.Perm (pairs.map (renamed σ)) := by
  have hinj : Function.Injective (renamed σ) :=
    Function.LeftInverse.injective (g := renamed σ.symm) fun p => renamed_renamed σ.symm p
  rw [List.perm_ext_iff_of_nodup hpairs'.nodup (hpairs.nodup.map hinj)]
  intro q
  rw [List.mem_map]
  constructor
  · intro hq
    refine ⟨q.renamed σ.symm, ?_, renamed_renamed σ q⟩
    rw [hmem, ← renamed_iff hsymm hmove, renamed_renamed]
    exact (hmem' q).mp hq
  · rintro ⟨p, hp, rfl⟩
    rw [hmem', renamed_iff hsymm hmove]
    exact (hmem p).mp hp

end IndexPair

namespace Detection

variable {σ : Equiv.Perm ℕ} {rects rects' : Array Rect}

/-- The second detection is the first one under the new indices, in increasing order. -/
structure Renames (σ : Equiv.Perm ℕ) (d d' : Detection) : Prop where
  checks : d'.checks = d.checks
  increasing : d'.pairs.Pairwise IndexPair.Before
  pairs : (d'.pairs.map some).Perm (d.pairs.map fun p => IndexPair.of? (σ p.first) (σ p.second))

theorem renames_of_perm {d d' : Detection} (hchecks : d'.checks = d.checks)
    (hincreasing : d'.pairs.Pairwise IndexPair.Before)
    (hperm : d'.pairs.Perm (d.pairs.map (IndexPair.renamed σ))) : Renames σ d d' where
  checks := hchecks
  increasing := hincreasing
  pairs := by
    simp only [IndexPair.of?_eq_renamed]
    have h := hperm.map some
    rwa [List.map_map] at h

theorem overlapAt_comm (rects : Array Rect) (i j : ℕ) : overlapAt rects i j = overlapAt rects j i := by
  unfold overlapAt
  cases rects[i]? with
  | none => cases rects[j]? <;> rfl
  | some a =>
      cases rects[j]? with
      | none => rfl
      | some b => exact a.overlaps_comm b

theorem overlapAt_of_moves (h : Moves σ rects rects') (i j : ℕ) :
    overlapAt rects' (σ i) (σ j) = overlapAt rects i j := by
  unfold overlapAt
  rw [h i, h j]

theorem exhaustive_renames (h : Moves σ rects rects') (hsize : rects'.size = rects.size) :
    Renames σ (exhaustive rects) (exhaustive rects') := by
  have hlist := exhaustive_listsOverlaps rects
  have hlist' := exhaustive_listsOverlaps rects'
  refine renames_of_perm ?_ hlist'.increasing ?_
  · rw [exhaustive_checks, exhaustive_checks, hsize]
  · refine IndexPair.perm_renamed (fun i j => overlapAt rects i j) (fun i j => overlapAt rects' i j)
      ?_ ?_ hlist.increasing hlist'.increasing ?_ ?_
    · intro i j hij
      rwa [overlapAt_comm]
    · intro i j
      rw [overlapAt_of_moves h]
    · intro p
      rw [hlist.mem_iff, overlapAt_iff p.lt]
    · intro p
      rw [hlist'.mem_iff, overlapAt_iff p.lt]

end Detection

namespace Grid

variable {σ : Equiv.Perm ℕ} {config : GridConfig} {g g' : Grid} {built built' : Array Rect}

/-! ### Pairs that the grid finds -/

theorem Meet.symm {s? t? : Option Span} (h : Meet s? t?) : Meet t? s? := by
  cases s? with
  | none => cases t? <;> trivial
  | some s =>
      cases t? with
      | none => trivial
      | some t =>
          obtain ⟨c, hs, ht⟩ := h
          exact ⟨c, ht, hs⟩

/-- Two indices have to be tested against each other, whichever comes first. -/
def Linked (g : Grid) (i j : ℕ) : Prop :=
  ∃ s t, g.spans[i]? = some s ∧ g.spans[j]? = some t ∧ Meet s t

theorem Linked.symm {i j : ℕ} (h : g.Linked i j) : g.Linked j i := by
  obtain ⟨s, t, hs, ht, hmeet⟩ := h
  exact ⟨t, s, ht, hs, hmeet.symm⟩

theorem linked_of_moves (h : Moves σ g.spans g'.spans) (i j : ℕ) :
    g'.Linked (σ i) (σ j) ↔ g.Linked i j := by
  unfold Linked
  rw [h i, h j]

theorem mem_tested_iff_linked (p : IndexPair) : p ∈ g.tested ↔ g.Linked p.first p.second := by
  rw [mem_tested]
  exact ⟨fun h => h.2, fun h => ⟨p.lt, h⟩⟩

/-- Grids over the same rectangles in two orders test the same pairs and find the same ones. -/
theorem Filed.collect_renames {rects rects' : Array Rect} (hg : g.Filed) (hg' : g'.Filed)
    (hsize : rects.size = g.spans.size) (hsize' : rects'.size = g'.spans.size)
    (hspans : Moves σ g.spans g'.spans) (hrects : Moves σ rects rects') :
    Detection.Renames σ (g.collect rects).2 (g'.collect rects').2 := by
  have htested : g'.tested.Perm (g.tested.map (IndexPair.renamed σ)) :=
    IndexPair.perm_renamed g.Linked g'.Linked (fun _ _ => Linked.symm) (linked_of_moves hspans)
      g.tested_pairwise g'.tested_pairwise mem_tested_iff_linked mem_tested_iff_linked
  rw [hg.collect_eq_tested hsize, hg'.collect_eq_tested hsize']
  refine Detection.renames_of_perm ?_ (g'.tested_pairwise.filter _) ?_
  · rw [htested.length_eq, List.length_map]
  · refine IndexPair.perm_renamed (fun i j => g.Linked i j ∧ Detection.overlapAt rects i j)
      (fun i j => g'.Linked i j ∧ Detection.overlapAt rects' i j) ?_ ?_ (g.tested_pairwise.filter _)
      (g'.tested_pairwise.filter _) ?_ ?_
    · rintro i j ⟨hlinked, hoverlap⟩
      rw [Detection.overlapAt_comm] at hoverlap
      exact ⟨hlinked.symm, hoverlap⟩
    · intro i j
      rw [linked_of_moves hspans, Detection.overlapAt_of_moves hrects]
    · intro p
      rw [List.mem_filter, mem_tested_iff_linked]
    · intro p
      rw [List.mem_filter, mem_tested_iff_linked]

/-! ### Occupancy -/

theorem Holds.stats_of_perm (h : g.Holds built) (h' : g'.Holds built') (hconfig : g'.config = g.config)
    (hperm : built'.toList.Perm built.toList) : g'.stats = g.stats := by
  have hsize : built'.size = built.size := by
    rw [← Array.length_toList, ← Array.length_toList, hperm.length_eq]
  refine stats_of_lengths (fun c => ?_) ?_
  · rw [h'.length_filed, h.length_filed, crowd, crowd, bucketed, bucketed, hconfig, hsize]
    exact (hperm.filter _).countP_eq _
  · have hover := h'.oversized
    rw [hconfig, hsize, hperm.countP_eq, ← h.oversized] at hover
    exact hover

end Grid

/-! ### Rearranged rectangles -/

section rearranged

variable {n : ℕ} (rects : Array Rect) (σ : Equiv.Perm (Fin rects.size))

/-- The rectangles in another order: the one at `i` goes to `σ i`. -/
def rearranged : Array Rect := Array.ofFn fun i => rects[σ.symm i]

/-- The permutation of all indices that moves the first `n` by `σ` and leaves the others. -/
def place (σ : Equiv.Perm (Fin n)) : Equiv.Perm ℕ := σ.extendDomain Fin.equivSubtype

theorem place_of_lt (σ : Equiv.Perm (Fin n)) {i : ℕ} (h : i < n) : place σ i = σ ⟨i, h⟩ :=
  σ.extendDomain_apply_image Fin.equivSubtype ⟨i, h⟩

theorem place_of_not_lt (σ : Equiv.Perm (Fin n)) {i : ℕ} (h : ¬ i < n) : place σ i = i :=
  σ.extendDomain_apply_not_subtype Fin.equivSubtype h

theorem size_rearranged : (rearranged rects σ).size = rects.size := Array.size_ofFn

theorem moves_rearranged : Moves (place σ) rects (rearranged rects σ) := by
  intro i
  by_cases h : i < rects.size
  · rw [place_of_lt σ h, rearranged, Array.getElem?_ofFn, dif_pos (σ ⟨i, h⟩).isLt,
      Array.getElem?_eq_getElem h]
    simp only [Fin.eta, σ.symm_apply_apply]
    rfl
  · rw [place_of_not_lt σ h, Array.getElem?_eq_none (not_lt.mp h), Array.getElem?_eq_none]
    rw [size_rearranged]
    exact not_lt.mp h

theorem toList_rearranged : (rearranged rects σ).toList.Perm rects.toList := by
  have hperm : (List.ofFn ((fun i : Fin rects.size => rects[i.val]) ∘ σ.symm)).Perm
      (List.ofFn fun i : Fin rects.size => rects[i.val]) := Equiv.Perm.ofFn_comp_perm σ.symm _
  rw [← Array.toList_ofFn, ← Array.toList_ofFn, Array.ofFn_getElem] at hperm
  exact hperm

end rearranged

namespace Detection

/-- **Detection in another order.**  If the rectangles are rearranged, both detectors make as many tests
as before and list, in increasing order, the pairs of before under their new indices; and a build from
the rearranged rectangles has the occupancy of before. -/
theorem rearranged_renames (config : GridConfig) (hconfig : config.validate = .ok ())
    (halloc : config.allocatable) (rects : Array Rect) (σ : Equiv.Perm (Fin rects.size)) :
    (∃ d d', hashed config rects = .ok (.ok d) ∧ hashed config (rearranged rects σ) = .ok (.ok d') ∧
      Renames (place σ) d d') ∧
    (∃ fresh g g', Grid.make config = .ok fresh ∧ fresh.rebuild rects = .ok g ∧
      fresh.rebuild (rearranged rects σ) = .ok g' ∧ g'.stats = g.stats) ∧
    Renames (place σ) (exhaustive rects) (exhaustive (rearranged rects σ)) := by
  obtain ⟨g, hg, hk, hholds⟩ := (Grid.kept_empty config).rebuild halloc rects
  obtain ⟨g', hg', hk', hholds'⟩ := (Grid.kept_empty config).rebuild halloc (rearranged rects σ)
  have hsame : g'.config = g.config := hk'.config_eq.trans hk.config_eq.symm
  have hmoves := moves_rearranged rects σ
  have hspans : Moves (place σ) g.spans g'.spans := by
    rw [hholds.spans, hholds'.spans, hsame, size_rearranged]
    exact hmoves.map _
  refine ⟨⟨_, _, ?_, ?_, hholds.filed.collect_renames hholds'.filed hholds.size.symm hholds'.size.symm
      hspans hmoves⟩,
    ⟨_, g, g', Grid.exists_make hconfig, hg, hg', hholds.stats_of_perm hholds' hsame
      (toList_rearranged rects σ)⟩, exhaustive_renames hmoves (size_rearranged rects σ)⟩
  · rw [hashed_eq hconfig, Grid.detect_of_rebuild hg]
    rfl
  · rw [hashed_eq hconfig, Grid.detect_of_rebuild hg']
    rfl

/-- Three rectangles of which the first two overlap, and the same in reverse order: the pair is found under
its new indices, with one test by hashing and with three by testing every pair. -/
theorem rearranged_renames_reversed :
    ∃ d d', hashed {} #[⟨0, 0, 10, 10, by decide⟩, ⟨5, 5, 10, 10, by decide⟩,
        ⟨300, 300, 10, 10, by decide⟩] = .ok (.ok d) ∧
      hashed {} #[⟨300, 300, 10, 10, by decide⟩, ⟨5, 5, 10, 10, by decide⟩,
        ⟨0, 0, 10, 10, by decide⟩] = .ok (.ok d') ∧
      d.pairs = [⟨0, 1, by decide⟩] ∧ d'.pairs = [⟨1, 2, by decide⟩] ∧
      d.checks = 1 ∧ d'.checks = 1 ∧
      exhaustive #[⟨300, 300, 10, 10, by decide⟩, ⟨5, 5, 10, 10, by decide⟩,
        ⟨0, 0, 10, 10, by decide⟩] = { pairs := [⟨1, 2, by decide⟩], checks := 3 } := by
  obtain ⟨⟨d, d', hd, hd', hrenames⟩, -, -⟩ := rearranged_renames {} (by decide) (by decide)
    #[⟨0, 0, 10, 10, by decide⟩, ⟨5, 5, 10, 10, by decide⟩, ⟨300, 300, 10, 10, by decide⟩]
    (Equiv.swap 0 2)
  have hfound := (Grid.hashed_eq_candidatePairs (by decide) (by decide) _).symm.trans hd
  simp only [Except.ok.injEq] at hfound
  have hpairs : d.pairs = [⟨0, 1, by decide⟩] := by
    rw [← hfound]
    decide +kernel
  have hchecks : d.checks = 1 := by
    rw [← hfound]
    decide +kernel
  -- the pair of the reversed rectangles is the renamed one
  have hrenamed := hrenames.pairs
  rw [hpairs] at hrenamed
  have hpairs' : d'.pairs.map some = [some ⟨1, 2, by decide⟩] :=
    (List.perm_singleton.mp hrenamed).trans (by decide +kernel)
  exact ⟨d, d', hd, hd', hpairs, List.map_injective_iff.mpr (Option.some_injective _) hpairs', hchecks,
    hrenames.checks.trans hchecks, by decide +kernel⟩

end Detection

end Broadphase
