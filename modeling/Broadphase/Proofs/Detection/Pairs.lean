import Broadphase.Detection.Basic
import Mathlib

/-! # The overlapping pairs of an array of rectangles

`ListsOverlaps rects pairs` says what a detector has to find: every pair of indices whose rectangles
overlap, once, in increasing order.  There is one such list (`ListsOverlaps.unique`).  A detector that
tests an increasing list of later indices for every index finds it as soon as no overlapping pair is
missing among the tested ones (`listsOverlaps_flatMap`), and then makes at most as many tests as
the exhaustive detector (`sum_length_le`).

Detectors test one pair after the other and count as they go.  `foldl_test` says what a run of tests
against one index adds, so the exhaustive detector has counted `n * (n - 1) / 2` tests when it ends
(`exhaustive_checks`).  The order of the tests does not matter to a detector that sorts what it has
found (`Tallied`, `sort_eq`). -/

namespace Broadphase

namespace IndexPair

/-- The lexicographic order of pairs. -/
def Before (p q : IndexPair) : Prop := p.first < q.first ∨ p.first = q.first ∧ p.second < q.second

instance : Std.Irrefl Before where
  irrefl p h := by
    unfold Before at h
    omega

instance : Std.Antisymm Before where
  antisymm p q h h' := by
    unfold Before at h h'
    omega

theorem compare_isLE_iff (p q : IndexPair) : (compare p q).isLE ↔ Before p q ∨ p = q := by
  have hcompare : compare p q = (compare p.first q.first).then (compare p.second q.second) := rfl
  rw [hcompare, IndexPair.ext_iff, Before]
  cases hfirst : compare p.first q.first with
  | lt =>
      have hlt := Nat.compare_eq_lt.mp hfirst
      simp [Ordering.then, hlt]
  | eq =>
      have heq := Nat.compare_eq_eq.mp hfirst
      rw [Ordering.then, Nat.isLE_compare, heq]
      omega
  | gt =>
      have hgt := Nat.compare_eq_gt.mp hfirst
      simp only [Ordering.then, Ordering.isLE_gt, Bool.false_eq_true, false_iff]
      omega

/-- Sorting finds the increasing list of the given pairs, if there is one. -/
theorem sort_eq {pairs sorted : List IndexPair} (hperm : pairs.Perm sorted)
    (hsorted : sorted.Pairwise Before) : sort pairs = sorted := by
  have hmerge : (sort pairs).Pairwise fun p q => (compare p q).isLE := by
    refine List.pairwise_mergeSort ?_ ?_ pairs
    · intro p q r hpq hqr
      rw [compare_isLE_iff] at hpq hqr ⊢
      simp only [Before, IndexPair.ext_iff] at hpq hqr ⊢
      omega
    · intro p q
      rw [Bool.or_eq_true, compare_isLE_iff, compare_isLE_iff]
      simp only [Before, IndexPair.ext_iff]
      omega
  have hle : sorted.Pairwise fun p q => (compare p q).isLE :=
    hsorted.imp fun h => (compare_isLE_iff _ _).mpr (.inl h)
  refine ((List.mergeSort_perm pairs _).trans hperm).eq_of_pairwise ?_ hmerge hle
  intro p q _ _ hpq hqp
  rw [compare_isLE_iff] at hpq hqp
  simp only [Before, IndexPair.ext_iff] at hpq hqp ⊢
  omega

/-- An increasing list counts the pairs that it names. -/
theorem ncard_eq_length {pairs : List IndexPair} {P : IndexPair → Prop} (h : pairs.Pairwise Before)
    (hmem : ∀ p, p ∈ pairs ↔ P p) : {p | P p}.ncard = pairs.length := by
  have hset : {p | P p} = (pairs.toFinset : Set IndexPair) := by
    ext p
    rw [Finset.mem_coe, List.mem_toFinset, hmem]
    rfl
  rw [hset, Set.ncard_coe_finset, List.toFinset_card_of_nodup h.nodup]

end IndexPair

namespace Detection

/-- The two indices of the pair name rectangles that overlap. -/
def IsOverlap (rects : Array Rect) (p : IndexPair) : Prop :=
  ∃ a b, rects[p.first]? = some a ∧ rects[p.second]? = some b ∧ a.overlaps b

/-- The list names every overlapping pair once, in increasing order. -/
structure ListsOverlaps (rects : Array Rect) (pairs : List IndexPair) : Prop where
  increasing : pairs.Pairwise IndexPair.Before
  mem_iff : ∀ p, p ∈ pairs ↔ IsOverlap rects p

theorem ListsOverlaps.unique {rects : Array Rect} {pairs pairs' : List IndexPair}
    (h : ListsOverlaps rects pairs) (h' : ListsOverlaps rects pairs') : pairs = pairs' :=
  h.increasing.eq_of_mem_iff h'.increasing fun p => (h.mem_iff p).trans (h'.mem_iff p).symm

theorem overlapAt_iff {rects : Array Rect} {i j : ℕ} (h : i < j) :
    overlapAt rects i j ↔ IsOverlap rects ⟨i, j, h⟩ := by
  unfold overlapAt IsOverlap
  cases hi : rects[i]? <;> cases hj : rects[j]? <;> simp

/-! ### The pairs of one index -/

/-- The pairs of `i` with those of the given later indices that overlap it. -/
def pairsOf (rects : Array Rect) (i : ℕ) (later : List ℕ) : List IndexPair :=
  later.filterMap fun j =>
    if h : i < j then if overlapAt rects i j then some ⟨i, j, h⟩ else none else none

/-- The pairs of `i` with the given later indices. -/
def pairsWith (i : ℕ) (later : List ℕ) : List IndexPair :=
  later.filterMap fun j => if h : i < j then some ⟨i, j, h⟩ else none

theorem mem_pairsWith {i : ℕ} {later : List ℕ} {p : IndexPair} :
    p ∈ pairsWith i later ↔ p.first = i ∧ p.second ∈ later := by
  simp only [pairsWith, List.mem_filterMap]
  constructor
  · rintro ⟨j, hj, h⟩
    split_ifs at h with hij
    cases h
    exact ⟨rfl, hj⟩
  · rintro ⟨rfl, hj⟩
    exact ⟨p.second, hj, dif_pos p.lt⟩

theorem pairsWith_pairwise {i : ℕ} {later : List ℕ} (h : later.Pairwise (· < ·)) :
    (pairsWith i later).Pairwise IndexPair.Before := by
  refine List.Pairwise.filterMap _ ?_ h
  intro j k hjk p hp q hq
  split_ifs at hp hq
  cases hp
  cases hq
  exact .inr ⟨rfl, hjk⟩

theorem length_pairsWith {i : ℕ} {later : List ℕ} (h : ∀ j ∈ later, i < j) :
    (pairsWith i later).length = later.length := by
  refine List.filterMap_length_eq_length.mpr fun j hj => ?_
  rw [dif_pos (h j hj)]
  rfl

/-- Of the pairs that are tested, those that overlap are kept. -/
theorem pairsOf_eq_filter (rects : Array Rect) (i : ℕ) (later : List ℕ) :
    pairsOf rects i later =
      (pairsWith i later).filter fun p => overlapAt rects p.first p.second := by
  unfold pairsOf pairsWith
  rw [List.filter_filterMap]
  refine List.filterMap_congr fun j _ => ?_
  split_ifs with hij ho
  · simp [Option.filter, ho]
  · simp [Option.filter, ho]
  · rfl

theorem mem_pairsOf {rects : Array Rect} {i : ℕ} {later : List ℕ} {p : IndexPair} :
    p ∈ pairsOf rects i later ↔ p.first = i ∧ p.second ∈ later ∧ IsOverlap rects p := by
  rw [pairsOf_eq_filter, List.mem_filter, mem_pairsWith, overlapAt_iff p.lt, and_assoc]

theorem pairsOf_pairwise {rects : Array Rect} {i : ℕ} {later : List ℕ}
    (h : later.Pairwise (· < ·)) : (pairsOf rects i later).Pairwise IndexPair.Before := by
  rw [pairsOf_eq_filter]
  exact (pairsWith_pairwise h).filter _

/-! ### All indices -/

theorem pairwise_flatMap_range {f : ℕ → List IndexPair} (hfirst : ∀ i, ∀ p ∈ f i, p.first = i)
    (hsorted : ∀ i, (f i).Pairwise IndexPair.Before) (size : ℕ) :
    ((List.range size).flatMap f).Pairwise IndexPair.Before := by
  rw [List.pairwise_flatMap]
  refine ⟨fun i _ => hsorted i, List.pairwise_lt_range.imp ?_⟩
  intro i j hij p hp q hq
  rw [← hfirst i p hp, ← hfirst j q hq] at hij
  exact .inl hij

/-- Tested in increasing order, the tested pairs have to include the overlapping ones and nothing
else is asked of them. -/
theorem listsOverlaps_flatMap {rects : Array Rect} {later : ℕ → List ℕ}
    (hsorted : ∀ i, (later i).Pairwise (· < ·))
    (hcomplete : ∀ p, IsOverlap rects p → p.second ∈ later p.first) :
    ListsOverlaps rects ((List.range rects.size).flatMap fun i => pairsOf rects i (later i)) := by
  constructor
  · exact pairwise_flatMap_range (fun i p hp => (mem_pairsOf.mp hp).1)
      (fun i => pairsOf_pairwise (hsorted i)) rects.size
  · intro p
    rw [List.mem_flatMap]
    constructor
    · rintro ⟨i, -, hp⟩
      exact (mem_pairsOf.mp hp).2.2
    · intro hp
      obtain ⟨a, b, ha, -, -⟩ := id hp
      have hfirst : p.first < rects.size := (Array.getElem?_eq_some_iff.mp ha).1
      exact ⟨p.first, List.mem_range.mpr hfirst, mem_pairsOf.mpr ⟨rfl, hcomplete p hp, hp⟩⟩

theorem mem_indicesAfter {i j size : ℕ} : j ∈ indicesAfter i size ↔ i < j ∧ j < size := by
  rw [indicesAfter, List.mem_range'_1]
  omega

theorem nodup_indicesAfter (i size : ℕ) : (indicesAfter i size).Nodup := List.nodup_range'

/-! ### The number of tests -/

theorem sum_length_indicesAfter (size : ℕ) :
    ((List.range size).map fun i => (indicesAfter i size).length).sum = size * (size - 1) / 2 := by
  calc ((List.range size).map fun i => (indicesAfter i size).length).sum
      = ∑ i ∈ Finset.range size, (size - 1 - i) := by
        simp only [indicesAfter, List.length_range', Nat.sub_sub, Nat.add_comm]
        rfl
    _ = ∑ i ∈ Finset.range size, i := Finset.sum_range_reflect (fun i => i) size
    _ = size * (size - 1) / 2 := Finset.sum_range_id size

/-! ### Tests one after the other -/

theorem test_of_lt {rects : Array Rect} {i j : ℕ} (h : i < j) (d : Detection) :
    test rects i d j =
      { pairs := (pairsOf rects i [j]).reverse ++ d.pairs, checks := d.checks + 1 } := by
  have hpair : IndexPair.of? i j = some ⟨i, j, h⟩ := dif_pos h
  unfold test
  rw [hpair]
  by_cases ho : overlapAt rects i j <;> simp [pairsOf, ho, h]

theorem pairsOf_cons (rects : Array Rect) (i j : ℕ) (later : List ℕ) :
    pairsOf rects i (j :: later) = pairsOf rects i [j] ++ pairsOf rects i later := by
  unfold pairsOf
  rw [← List.filterMap_append, List.singleton_append]

/-- Tests against one index add the pairs that overlap and count one for each. -/
theorem foldl_test {rects : Array Rect} {i : ℕ} {later : List ℕ} (h : ∀ j ∈ later, i < j)
    (d : Detection) :
    later.foldl (test rects i) d =
      { pairs := (pairsOf rects i later).reverse ++ d.pairs, checks := d.checks + later.length } := by
  induction later generalizing d with
  | nil => rfl
  | cons j later ih =>
      obtain ⟨hj, hlater⟩ := List.forall_mem_cons.mp h
      rw [List.foldl_cons, ih hlater, test_of_lt hj, pairsOf_cons rects i j later]
      simp only [List.reverse_append, List.append_assoc, List.length_cons, Nat.add_assoc,
        Nat.add_comm 1]

theorem foldl_foldl_test (rects : Array Rect) {later : ℕ → List ℕ} (h : ∀ i, ∀ j ∈ later i, i < j)
    (size : ℕ) :
    (List.range size).foldl (fun d i => (later i).foldl (test rects i) d) {} =
      { pairs := ((List.range size).flatMap fun i => pairsOf rects i (later i)).reverse
        checks := ((List.range size).map fun i => (later i).length).sum } := by
  induction size with
  | zero => rfl
  | succ size ih =>
      rw [List.range_succ, List.foldl_append, ih, List.foldl_cons, List.foldl_nil, foldl_test (h size)]
      simp

theorem exhaustive_eq (rects : Array Rect) : exhaustive rects =
    { pairs := (List.range rects.size).flatMap fun i => pairsOf rects i (indicesAfter i rects.size)
      checks := rects.size * (rects.size - 1) / 2 } := by
  have hlater (i : ℕ) : ∀ j ∈ indicesAfter i rects.size, i < j :=
    fun j hj => (mem_indicesAfter.mp hj).1
  unfold exhaustive
  rw [foldl_foldl_test rects hlater, sum_length_indicesAfter]
  simp only [List.reverse_reverse]

theorem exhaustive_checks (rects : Array Rect) :
    (exhaustive rects).checks = rects.size * (rects.size - 1) / 2 := by
  rw [exhaustive_eq]

theorem exhaustive_listsOverlaps (rects : Array Rect) :
    ListsOverlaps rects (exhaustive rects).pairs := by
  rw [exhaustive_eq]
  refine listsOverlaps_flatMap (fun i => List.pairwise_lt_range') ?_
  rintro p ⟨a, b, -, hb, -⟩
  exact mem_indicesAfter.mpr ⟨p.lt, (Array.getElem?_eq_some_iff.mp hb).1⟩

/-- The first indices have been tested, each against its later ones, in whatever order. -/
structure Tallied (rects : Array Rect) (later : ℕ → List ℕ) (size : ℕ) (d : Detection) : Prop where
  pairs : d.pairs.Perm ((List.range size).flatMap fun i => pairsOf rects i (later i))
  checks : d.checks = ((List.range size).map fun i => (later i).length).sum

theorem tallied_zero (rects : Array Rect) (later : ℕ → List ℕ) : Tallied rects later 0 {} :=
  ⟨.refl _, rfl⟩

theorem Tallied.succ {rects : Array Rect} {later : ℕ → List ℕ} {size : ℕ} {d : Detection}
    (h : Tallied rects later size d) {tested : List ℕ} (hperm : tested.Perm (later size))
    (hlater : ∀ j ∈ tested, size < j) :
    Tallied rects later (size + 1) (tested.foldl (test rects size) d) := by
  rw [foldl_test hlater]
  constructor
  · rw [List.range_succ, List.flatMap_append, List.flatMap_singleton]
    have hnew : (pairsOf rects size tested).reverse.Perm (pairsOf rects size (later size)) :=
      (List.reverse_perm _).trans (hperm.filterMap _)
    exact (hnew.append h.pairs).trans List.perm_append_comm
  · rw [List.range_succ, List.map_append, List.sum_append, h.checks, hperm.length_eq]
    simp

theorem sum_length_le {later : ℕ → List ℕ} {size : ℕ}
    (hsorted : ∀ i, (later i).Pairwise (· < ·))
    (hlater : ∀ i, ∀ j ∈ later i, i < j ∧ j < size) :
    ((List.range size).map fun i => (later i).length).sum ≤ size * (size - 1) / 2 := by
  rw [← sum_length_indicesAfter]
  refine List.sum_le_sum fun i _ => ?_
  refine (List.subperm_of_subset (hsorted i).nodup ?_).length_le
  intro j hj
  exact mem_indicesAfter.mpr (hlater i j hj)

end Detection

end Broadphase
