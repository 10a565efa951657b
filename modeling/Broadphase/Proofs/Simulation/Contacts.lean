import Broadphase.Proofs.Detection.Pairs
import Broadphase.Simulation.Contacts

/-! # Flags and contacts

Detection numbers the dynamic bodies in their order, and the flags are written at positions among
all bodies.  `dynamicEntries` holds the dynamic bodies with their positions: the rectangles that are
detected and the view through which the flags are written are its two columns, so both number the
bodies alike.  If the pairs are exactly the overlapping ones, the flagged bodies are exactly those in
contact with another dynamic body (`mem_touched_iff_inContact`). -/

namespace Broadphase

/-- The body without its flag. -/
def Body.unmarked (b : Body) : Body := { b with colliding := false }

namespace Contacts

/-- The body at position `i` is dynamic and overlaps a dynamic body at another position. -/
def InContact (bodies : List Body) (i : ℕ) : Prop :=
  ∃ a j b, bodies[i]? = some a ∧ a.isDynamic ∧ j ≠ i ∧ bodies[j]? = some b ∧ b.isDynamic ∧
    a.rect.overlaps b.rect

/-! ### The dynamic bodies with their positions -/

/-- The dynamic bodies, each with its position among all bodies. -/
def dynamicEntries (bodies : List Body) : List (Body × ℕ) :=
  bodies.zipIdx.filter fun e => e.1.isDynamic

theorem dynamicView_eq (bodies : List Body) :
    dynamicView bodies = (dynamicEntries bodies).map Prod.snd := by
  unfold dynamicView dynamicEntries
  rw [← List.filterMap_eq_map, List.filterMap_filter]
  rfl

theorem dynamicRects_eq (bodies : List Body) :
    dynamicRects bodies = ((dynamicEntries bodies).map fun e => e.1.rect).toArray := by
  have h : bodies.filter Body.isDynamic = (dynamicEntries bodies).map Prod.fst := by
    conv_lhs => rw [← List.zipIdx_map_fst 0 bodies, List.filter_map]
    rfl
  unfold dynamicRects
  rw [h, List.map_map]
  rfl

theorem mem_dynamicEntries {bodies : List Body} {b : Body} {i : ℕ} :
    (b, i) ∈ dynamicEntries bodies ↔ bodies[i]? = some b ∧ b.isDynamic := by
  rw [dynamicEntries, List.mem_filter, List.mem_zipIdx_iff_getElem?]

theorem dynamicEntries_increasing (bodies : List Body) :
    ((dynamicEntries bodies).map Prod.snd).Pairwise (· < ·) := by
  have h : (bodies.zipIdx.map Prod.snd).Pairwise (· < ·) := by
    rw [List.zipIdx_map_snd]
    exact List.pairwise_lt_range'
  exact h.sublist (List.filter_sublist.map Prod.snd)

/-- Positions come in increasing order, so no body has two entries. -/
theorem nodup_dynamicEntries (bodies : List Body) : ((dynamicEntries bodies).map Prod.snd).Nodup :=
  (dynamicEntries_increasing bodies).imp ne_of_lt

theorem dynamicEntries_inj {bodies : List Body} {m n : ℕ} {a b : Body} {i : ℕ}
    (hm : (dynamicEntries bodies)[m]? = some (a, i)) (hn : (dynamicEntries bodies)[n]? = some (b, i)) :
    m = n := by
  have hlt : m < ((dynamicEntries bodies).map Prod.snd).length := by
    rw [List.length_map]
    exact (List.getElem?_eq_some_iff.mp hm).1
  rw [← List.getElem?_inj hlt (nodup_dynamicEntries bodies), List.getElem?_map, List.getElem?_map,
    hm, hn]
  rfl

/-! ### The flagged positions -/

theorem mem_touched {view : Array ℕ} {pairs : List IndexPair} {i : ℕ} :
    i ∈ touched view pairs ↔ ∃ p ∈ pairs, ∃ a b, resolve? view p = some (a, b) ∧ (i = a ∨ i = b) := by
  have hempty : i ∉ (∅ : Std.TreeSet ℕ) := Std.TreeSet.not_mem_emptyc
  refine Iff.trans ?_ (or_iff_right hempty)
  unfold touched
  -- the fold may start from any set of positions
  generalize (∅ : Std.TreeSet ℕ) = found
  induction pairs generalizing found with
  | nil => simp
  | cons p pairs ih =>
      rw [List.foldl_cons, ih]
      simp only [List.mem_cons, exists_eq_or_imp, ← or_assoc]
      refine or_congr_left ?_
      cases resolve? view p with
      | none => simp
      | some e =>
          obtain ⟨a, b⟩ := e
          simp only [Std.TreeSet.mem_insert, Nat.compare_eq_eq, Option.some.injEq, Prod.mk.injEq]
          constructor
          · rintro (rfl | rfl | h)
            · exact .inr ⟨a, b, ⟨rfl, rfl⟩, .inr rfl⟩
            · exact .inr ⟨a, b, ⟨rfl, rfl⟩, .inl rfl⟩
            · exact .inl h
          · rintro (h | ⟨_, _, ⟨rfl, rfl⟩, rfl | rfl⟩)
            · exact .inr (.inr h)
            · exact .inr (.inl rfl)
            · exact .inl rfl

theorem resolve?_eq_some_iff {view : Array ℕ} {p : IndexPair} {a b : ℕ} :
    resolve? view p = some (a, b) ↔ view[p.first]? = some a ∧ view[p.second]? = some b := by
  unfold resolve?
  cases view[p.first]? <;> cases view[p.second]? <;> simp

theorem resolve?_dynamicView {bodies : List Body} {p : IndexPair} {i j : ℕ} :
    resolve? (dynamicView bodies).toArray p = some (i, j) ↔
      ∃ a b, (dynamicEntries bodies)[p.first]? = some (a, i) ∧
        (dynamicEntries bodies)[p.second]? = some (b, j) := by
  simp only [resolve?_eq_some_iff, dynamicView_eq, List.getElem?_toArray, List.getElem?_map,
    Option.map_eq_some_iff, Prod.exists, exists_eq_right, exists_and_left, exists_and_right]

theorem isOverlap_iff {bodies : List Body} {p : IndexPair} :
    Detection.IsOverlap (dynamicRects bodies) p ↔
      ∃ a i b j, (dynamicEntries bodies)[p.first]? = some (a, i) ∧
        (dynamicEntries bodies)[p.second]? = some (b, j) ∧ a.rect.overlaps b.rect := by
  unfold Detection.IsOverlap
  simp only [dynamicRects_eq, List.getElem?_toArray, List.getElem?_map]
  cases (dynamicEntries bodies)[p.first]? <;> cases (dynamicEntries bodies)[p.second]? <;>
    simp [Prod.ext_iff]

/-- Two dynamic bodies at different positions that overlap make up one of the pairs. -/
theorem exists_pair_of_overlaps {bodies : List Body} {pairs : List IndexPair}
    (h : Detection.ListsOverlaps (dynamicRects bodies) pairs) {a b : Body} {i j : ℕ} (hij : j ≠ i)
    (ha : (a, i) ∈ dynamicEntries bodies) (hb : (b, j) ∈ dynamicEntries bodies)
    (hab : a.rect.overlaps b.rect) :
    ∃ p ∈ pairs, resolve? (dynamicView bodies).toArray p = some (i, j) ∨
      resolve? (dynamicView bodies).toArray p = some (j, i) := by
  obtain ⟨m, hm⟩ := List.mem_iff_getElem?.mp ha
  obtain ⟨n, hn⟩ := List.mem_iff_getElem?.mp hb
  have hne : m ≠ n := by
    rintro rfl
    rw [hm] at hn
    cases hn
    exact hij rfl
  rcases Nat.lt_or_gt_of_ne hne with hlt | hlt
  · refine ⟨⟨m, n, hlt⟩, (h.mem_iff _).mpr (isOverlap_iff.mpr ⟨a, i, b, j, hm, hn, hab⟩), .inl ?_⟩
    exact resolve?_dynamicView.mpr ⟨a, b, hm, hn⟩
  · rw [Rect.overlaps_comm] at hab
    refine ⟨⟨n, m, hlt⟩, (h.mem_iff _).mpr (isOverlap_iff.mpr ⟨b, j, a, i, hn, hm, hab⟩), .inr ?_⟩
    exact resolve?_dynamicView.mpr ⟨b, a, hn, hm⟩

/-- From the overlapping pairs exactly the bodies in contact are flagged. -/
theorem mem_touched_iff_inContact {bodies : List Body} {pairs : List IndexPair}
    (h : Detection.ListsOverlaps (dynamicRects bodies) pairs) {i : ℕ} :
    i ∈ touched (dynamicView bodies).toArray pairs ↔ InContact bodies i := by
  rw [mem_touched]
  constructor
  · rintro ⟨p, hp, i₁, i₂, hr, hi⟩
    obtain ⟨a, b, ha, hb⟩ := resolve?_dynamicView.mp hr
    have hab : a.rect.overlaps b.rect := by
      obtain ⟨a', _, b', _, ha', hb', hab⟩ := isOverlap_iff.mp ((h.mem_iff p).mp hp)
      rw [ha] at ha'
      rw [hb] at hb'
      cases ha'
      cases hb'
      exact hab
    have hne : i₁ ≠ i₂ := by
      rintro rfl
      exact p.lt.ne (dynamicEntries_inj ha hb)
    obtain ⟨ha₁, ha₂⟩ := mem_dynamicEntries.mp (List.mem_of_getElem? ha)
    obtain ⟨hb₁, hb₂⟩ := mem_dynamicEntries.mp (List.mem_of_getElem? hb)
    rcases hi with rfl | rfl
    · exact ⟨a, i₂, b, ha₁, ha₂, hne.symm, hb₁, hb₂, hab⟩
    · exact ⟨b, i₁, a, hb₁, hb₂, hne, ha₁, ha₂, by rwa [Rect.overlaps_comm]⟩
  · rintro ⟨a, j, b, ha, ha', hji, hb, hb', hab⟩
    obtain ⟨p, hp, hr | hr⟩ := exists_pair_of_overlaps h hji (mem_dynamicEntries.mpr ⟨ha, ha'⟩)
      (mem_dynamicEntries.mpr ⟨hb, hb'⟩) hab
    · exact ⟨p, hp, i, j, hr, .inl rfl⟩
    · exact ⟨p, hp, j, i, hr, .inr rfl⟩

/-! ### Writing the flags -/

theorem getElem?_reconcile (bodies : List Body) (pairs : List IndexPair) (i : ℕ) :
    (reconcile bodies pairs).1[i]? = bodies[i]?.map fun b =>
      { b with colliding := (touched (dynamicView bodies).toArray pairs).contains i } := by
  simp only [reconcile, List.getElem?_map, List.getElem?_zipIdx, Option.map_map, Nat.zero_add]
  rfl

/-- Writing the flags changes nothing else. -/
theorem map_unmarked_reconcile (bodies : List Body) (pairs : List IndexPair) :
    (reconcile bodies pairs).1.map Body.unmarked = bodies.map Body.unmarked := by
  apply List.ext_getElem?
  intro i
  simp only [List.getElem?_map, getElem?_reconcile, Option.map_map]
  rfl

theorem dynamicRects_map_unmarked (bodies : List Body) :
    dynamicRects (bodies.map Body.unmarked) = dynamicRects bodies := by
  unfold dynamicRects
  rw [List.filter_map, List.map_map]
  rfl

theorem inContact_map_unmarked {bodies : List Body} {i : ℕ} :
    InContact (bodies.map Body.unmarked) i ↔ InContact bodies i := by
  simp only [InContact, List.getElem?_map, Option.map_eq_some_iff]
  constructor
  · rintro ⟨_, j, _, ⟨a, ha, rfl⟩, ha', hj, ⟨b, hb, rfl⟩, hb', hab⟩
    exact ⟨a, j, b, ha, ha', hj, hb, hb', hab⟩
  · rintro ⟨a, j, b, ha, ha', hj, hb, hb', hab⟩
    exact ⟨_, j, _, ⟨a, ha, rfl⟩, ha', hj, ⟨b, hb, rfl⟩, hb', hab⟩

theorem dynamicRects_reconcile (bodies : List Body) (pairs : List IndexPair) :
    dynamicRects (reconcile bodies pairs).1 = dynamicRects bodies := by
  rw [← dynamicRects_map_unmarked, map_unmarked_reconcile, dynamicRects_map_unmarked]

theorem inContact_reconcile {bodies : List Body} {pairs : List IndexPair} {i : ℕ} :
    InContact (reconcile bodies pairs).1 i ↔ InContact bodies i := by
  rw [← inContact_map_unmarked, map_unmarked_reconcile, inContact_map_unmarked]

/-- The flags that follow from the overlapping pairs tell the bodies in contact from the others. -/
theorem colliding_reconcile_iff {bodies : List Body} {pairs : List IndexPair}
    (h : Detection.ListsOverlaps (dynamicRects bodies) pairs) {i : ℕ} {b : Body}
    (hb : (reconcile bodies pairs).1[i]? = some b) :
    b.colliding ↔ InContact (reconcile bodies pairs).1 i := by
  rw [getElem?_reconcile, Option.map_eq_some_iff] at hb
  obtain ⟨_, -, rfl⟩ := hb
  rw [inContact_reconcile, ← mem_touched_iff_inContact h]
  exact Std.TreeSet.contains_iff_mem

end Contacts

end Broadphase
