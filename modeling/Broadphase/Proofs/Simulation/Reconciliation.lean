import Broadphase.Proofs.Simulation.Contacts

/-! # The flags that follow from any pairs

The pairs that are reconciled need not come from a detection: they may be repeated, come in any order,
or name numbers that no dynamic body has.  `Marked` says which bodies such pairs mark, and
`Reconciled` says what the bodies are afterwards.  These conditions leave no choice
(`Reconciled.unique`), so the flags depend neither on the flags before nor on the order and the
repetition of the pairs, and reconciling again changes nothing (`reconcile_marks`). -/

namespace Broadphase

namespace Contacts

variable {bodies bodies' after after' : List Body} {pairs pairs' : List IndexPair}
  {outcome outcome' : Outcome} {i : ℕ}

/-! ### The numbers of the dynamic bodies -/

theorem mem_dynamicView : i ∈ dynamicView bodies ↔ ∃ b, bodies[i]? = some b ∧ b.isDynamic := by
  rw [dynamicView_eq, List.mem_map]
  constructor
  · rintro ⟨⟨b, j⟩, hb, rfl⟩
    exact ⟨b, mem_dynamicEntries.mp hb⟩
  · rintro ⟨b, hb⟩
    exact ⟨(b, i), mem_dynamicEntries.mpr hb, rfl⟩

/-- The dynamic bodies are numbered in the order of their positions. -/
theorem dynamicView_increasing (bodies : List Body) : (dynamicView bodies).Pairwise (· < ·) := by
  rw [dynamicView_eq]
  exact dynamicEntries_increasing bodies

theorem length_dynamicView (bodies : List Body) :
    (dynamicView bodies).length = bodies.countP Body.isDynamic := by
  rw [dynamicView_eq, List.length_map, dynamicEntries, ← List.countP_eq_length_filter]
  conv_rhs => rw [← List.zipIdx_map_fst 0 bodies, List.countP_map]
  rfl

theorem dynamicView_map_unmarked (bodies : List Body) :
    dynamicView (bodies.map Body.unmarked) = dynamicView bodies := by
  unfold dynamicView
  rw [List.zipIdx_map, List.filterMap_map]
  rfl

theorem dynamicView_congr (h : bodies'.map Body.unmarked = bodies.map Body.unmarked) :
    dynamicView bodies' = dynamicView bodies := by
  rw [← dynamicView_map_unmarked, h, dynamicView_map_unmarked]

/-! ### The bodies that the pairs mark -/

/-- The body at position `i` has one of the numbers of a pair whose larger number, and so the smaller
one as well, is that of a dynamic body. -/
def Marked (bodies : List Body) (pairs : List IndexPair) (i : ℕ) : Prop :=
  ∃ k, (dynamicView bodies)[k]? = some i ∧
    ∃ p ∈ pairs, (k = p.first ∨ k = p.second) ∧ p.second < bodies.countP Body.isDynamic

/-- A pair is resolved as a whole or not at all. -/
theorem resolve?_eq_none_iff {view : Array ℕ} {p : IndexPair} :
    resolve? view p = none ↔ view.size ≤ p.second := by
  have hlt := p.lt
  unfold resolve?
  by_cases hsecond : p.second < view.size
  · rw [Array.getElem?_eq_getElem hsecond, Array.getElem?_eq_getElem (hlt.trans hsecond)]
    simpa using hsecond
  · rw [Array.getElem?_eq_none (not_lt.mp hsecond)]
    cases view[p.first]? <;> simpa using hsecond

theorem mem_touched_iff_marked :
    i ∈ touched (dynamicView bodies).toArray pairs ↔ Marked bodies pairs i := by
  simp only [mem_touched, resolve?_eq_some_iff, List.getElem?_toArray, Marked, ← length_dynamicView]
  constructor
  · rintro ⟨p, hp, a, b, ⟨ha, hb⟩, hi⟩
    have hsecond : p.second < (dynamicView bodies).length := (List.getElem?_eq_some_iff.mp hb).1
    rcases hi with rfl | rfl
    · exact ⟨p.first, ha, p, hp, .inl rfl, hsecond⟩
    · exact ⟨p.second, hb, p, hp, .inr rfl, hsecond⟩
  · rintro ⟨k, hk, p, hp, hkp, hsecond⟩
    have hb := List.getElem?_eq_getElem hsecond
    have ha := List.getElem?_eq_getElem (p.lt.trans hsecond)
    refine ⟨p, hp, _, _, ⟨ha, hb⟩, ?_⟩
    rcases hkp with rfl | rfl
    · exact .inl (Option.some.inj (hk.symm.trans ha))
    · exact .inr (Option.some.inj (hk.symm.trans hb))

theorem Marked.isDynamic (h : Marked bodies pairs i) : ∃ b, bodies[i]? = some b ∧ b.isDynamic := by
  obtain ⟨k, hk, -⟩ := h
  exact mem_dynamicView.mp (List.mem_of_getElem? hk)

/-- Flags do not matter to who is marked. -/
theorem marked_congr_bodies (h : bodies'.map Body.unmarked = bodies.map Body.unmarked) :
    Marked bodies' pairs i ↔ Marked bodies pairs i := by
  simp only [Marked, ← length_dynamicView, dynamicView_congr h]

/-- Neither do the order and the repetition of the pairs. -/
theorem marked_congr_pairs (h : ∀ p, p ∈ pairs' ↔ p ∈ pairs) :
    Marked bodies pairs' i ↔ Marked bodies pairs i := by
  simp only [Marked, h]

/-! ### The bodies afterwards -/

/-- The bodies `after` are the given ones with the marked ones flagged and no others, and the
outcome counts the flags and the pairs that name no two dynamic bodies. -/
structure Reconciled (bodies : List Body) (pairs : List IndexPair) (after : List Body)
    (outcome : Outcome) : Prop where
  /-- Nothing but the flags changes. -/
  rest : after.map Body.unmarked = bodies.map Body.unmarked
  flag_iff : ∀ i b, after[i]? = some b → (b.colliding ↔ Marked bodies pairs i)
  static : ∀ b ∈ after, b.isStatic → b.colliding = false
  flagged : outcome.flagged = after.countP Body.colliding
  skipped : outcome.skipped = pairs.countP fun p => bodies.countP Body.isDynamic ≤ p.second

theorem reconcile_reconciled (bodies : List Body) (pairs : List IndexPair) :
    Reconciled bodies pairs (reconcile bodies pairs).1 (reconcile bodies pairs).2 := by
  have hflag (i : ℕ) (b : Body) (hb : (reconcile bodies pairs).1[i]? = some b) :
      b.colliding ↔ Marked bodies pairs i := by
    rw [getElem?_reconcile, Option.map_eq_some_iff] at hb
    obtain ⟨_, -, rfl⟩ := hb
    rw [← mem_touched_iff_marked]
    exact Std.TreeSet.contains_iff_mem
  refine ⟨map_unmarked_reconcile bodies pairs, hflag, ?_, rfl, ?_⟩
  · intro b hb hstatic
    obtain ⟨i, hi⟩ := List.mem_iff_getElem?.mp hb
    by_contra hcolliding
    obtain ⟨a, ha, hdynamic⟩ := ((hflag i b hi).mp (by simpa using hcolliding)).isDynamic
    rw [getElem?_reconcile, ha] at hi
    cases hi
    rw [Body.isDynamic, hstatic] at hdynamic
    cases hdynamic
  · refine List.countP_congr fun p _ => ?_
    rw [Option.isNone_iff_eq_none, resolve?_eq_none_iff, List.size_toArray, length_dynamicView,
      decide_eq_true_iff]

theorem eq_of_unmarked {a b : Body} (h : a.unmarked = b.unmarked) (hflag : a.colliding = b.colliding) :
    a = b := by
  cases a
  cases b
  simp_all [Body.unmarked]

/-- The bodies afterwards are determined by the bodies without their flags and by who is marked. -/
theorem Reconciled.unique (h : Reconciled bodies pairs after outcome)
    (h' : Reconciled bodies' pairs' after' outcome')
    (hbodies : bodies'.map Body.unmarked = bodies.map Body.unmarked)
    (hmarked : ∀ i, Marked bodies' pairs' i ↔ Marked bodies pairs i) : after' = after := by
  have hrest : after'.map Body.unmarked = after.map Body.unmarked :=
    h'.rest.trans (hbodies.trans h.rest.symm)
  apply List.ext_getElem?
  intro i
  have hi : after'[i]?.map Body.unmarked = after[i]?.map Body.unmarked := by
    rw [← List.getElem?_map, ← List.getElem?_map, hrest]
  cases hb' : after'[i]? with
  | none =>
      rw [hb'] at hi
      exact (Option.map_eq_none_iff.mp hi.symm).symm
  | some b' =>
      rw [hb'] at hi
      obtain ⟨b, hb, hsame⟩ := Option.map_eq_some_iff.mp hi.symm
      have hflag : b'.colliding ↔ b.colliding := by
        rw [h'.flag_iff i b' hb', hmarked, h.flag_iff i b hb]
      rw [hb, eq_of_unmarked hsame (Bool.eq_iff_iff.mpr hflag).symm]

theorem Reconciled.outcome_unique (h : Reconciled bodies pairs after outcome)
    (h' : Reconciled bodies' pairs after outcome')
    (hbodies : bodies'.map Body.unmarked = bodies.map Body.unmarked) : outcome' = outcome := by
  have hdynamic : bodies'.countP Body.isDynamic = bodies.countP Body.isDynamic := by
    rw [← length_dynamicView, dynamicView_congr hbodies, length_dynamicView]
  have hflagged : outcome'.flagged = outcome.flagged := h'.flagged.trans h.flagged.symm
  have hskipped : outcome'.skipped = outcome.skipped := by rw [h'.skipped, hdynamic, h.skipped]
  cases outcome
  cases outcome'
  exact congrArg₂ Outcome.mk hflagged hskipped

theorem reconcile_congr_bodies (h : bodies'.map Body.unmarked = bodies.map Body.unmarked)
    (pairs : List IndexPair) : reconcile bodies' pairs = reconcile bodies pairs := by
  have hr := reconcile_reconciled bodies pairs
  have hr' := reconcile_reconciled bodies' pairs
  have hafter := hr.unique hr' h fun i => marked_congr_bodies h
  rw [hafter] at hr'
  exact Prod.ext hafter (hr.outcome_unique hr' h)

/-- **The flags that follow from any pairs.**  Reconciling flags exactly the marked bodies, whatever
pairs are given; the flags that the bodies had, and the order and the repetition of the pairs, do not
matter; and reconciling again changes nothing. -/
theorem reconcile_marks (bodies : List Body) (pairs : List IndexPair) :
    ((dynamicView bodies).Pairwise (· < ·) ∧
      ∀ i, i ∈ dynamicView bodies ↔ ∃ b, bodies[i]? = some b ∧ b.isDynamic) ∧
    Reconciled bodies pairs (reconcile bodies pairs).1 (reconcile bodies pairs).2 ∧
    (∀ bodies', bodies'.map Body.unmarked = bodies.map Body.unmarked →
      reconcile bodies' pairs = reconcile bodies pairs) ∧
    (∀ pairs', (∀ p, p ∈ pairs' ↔ p ∈ pairs) →
      (reconcile bodies pairs').1 = (reconcile bodies pairs).1) ∧
    reconcile (reconcile bodies pairs).1 pairs = reconcile bodies pairs := by
  refine ⟨⟨dynamicView_increasing bodies, fun i => mem_dynamicView⟩, reconcile_reconciled bodies pairs,
    ?_, ?_, ?_⟩
  · intro bodies' h
    exact reconcile_congr_bodies h pairs
  · intro pairs' h
    exact (reconcile_reconciled bodies pairs).unique (reconcile_reconciled bodies pairs') rfl
      fun i => marked_congr_pairs h
  · exact reconcile_congr_bodies (map_unmarked_reconcile bodies pairs) pairs

/-- A wall among three dynamic bodies and flags from before: the pair of the numbers 0 and 1 flags the
bodies before and behind the wall, and the pair of 1 and 3 flags nobody. -/
theorem reconcile_marks_wall :
    ∃ bodies after : List Body, bodies.map Body.isDynamic = [true, false, true, true] ∧
      bodies.map Body.colliding = [false, true, false, true] ∧
      reconcile bodies [⟨0, 1, by decide⟩, ⟨1, 3, by decide⟩, ⟨0, 1, by decide⟩] = (after, ⟨2, 1⟩) ∧
      after.map Body.colliding = [true, false, true, false] ∧
      (reconcile bodies [⟨1, 3, by decide⟩, ⟨0, 1, by decide⟩]).1 = after ∧
      reconcile after [⟨0, 1, by decide⟩, ⟨1, 3, by decide⟩, ⟨0, 1, by decide⟩] = (after, ⟨2, 1⟩) := by
  obtain ⟨-, -, -, hpairs, hagain⟩ := reconcile_marks
    [⟨0, ⟨0, 0, 9, 9, by decide⟩, 0, 0, 1, false, false, by decide⟩,
      ⟨1, ⟨2, 0, 9, 9, by decide⟩, 0, 0, 1, true, true, by decide⟩,
      ⟨2, ⟨5, 0, 9, 9, by decide⟩, 0, 0, 1, false, false, by decide⟩,
      ⟨3, ⟨90, 0, 9, 9, by decide⟩, 0, 0, 1, true, false, by decide⟩]
    [⟨0, 1, by decide⟩, ⟨1, 3, by decide⟩, ⟨0, 1, by decide⟩]
  exact ⟨_, _, rfl, rfl, rfl, rfl, hpairs _ (by simp [or_comm]), hagain⟩

end Contacts

end Broadphase
