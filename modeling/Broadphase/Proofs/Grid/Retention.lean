import Broadphase.Proofs.Grid.Occupancy

/-! # The cells that a grid keeps

A rebuild drops the buckets that are empty and empties the others, and then makes a bucket for every
cell that it needs and that has none.  So after it there is a bucket for the cells that were in use
before and for those that are in use now, and for no others (`mem_rebuild`).  Over any history this
leaves the cells of the last two builds (`buckets_after_any_history`): however far the rectangles of a
grid move, the cells that they have left are forgotten. -/

namespace Broadphase

/-! ### The cells with a bucket -/

namespace Buckets

variable {config : GridConfig} {b b' : Buckets} {c : Cell}

theorem mem_recycle : c ∈ b.recycle ↔ 0 < (b.filed c).length := by
  rw [Std.HashMap.mem_iff_isSome_getElem?, recycle, Std.HashMap.getElem?_filterMap', filed,
    Std.HashMap.getD_eq_getD_getElem?]
  cases b[c]? with
  | none => simp
  | some bucket =>
      show (if bucket.isEmpty then none else some #[]).isSome ↔ 0 < bucket.toList.length
      by_cases hempty : bucket.isEmpty
      · simp [Array.isEmpty_iff.mp hempty]
      · rw [if_neg hempty, Array.length_toList]
        exact ⟨fun _ => Array.size_pos_iff.mpr (mt Array.isEmpty_iff.mpr hempty), fun _ => rfl⟩

theorem mem_add {i : ℕ} {c₀ : Cell} (h : add config i b c₀ = .ok b') : c ∈ b' ↔ c ∈ b ∨ c = c₀ := by
  unfold add at h
  split_ifs at h with hmem halloc
  · cases h
    rw [Std.HashMap.mem_modify]
    constructor
    · exact .inl
    · rintro (hc | rfl)
      · exact hc
      · exact hmem
  · cases h
    rw [Std.HashMap.mem_insert, beq_iff_eq, or_comm, eq_comm]

/-- If every step of a fold makes buckets for the cells that it touches, the fold makes buckets for
the cells that one of its steps touches. -/
theorem mem_foldlM {α : Type} {f : Buckets → α → Allocated Buckets} {Touches : α → Prop} {l : List α}
    (h : l.foldlM f b = .ok b') (hf : ∀ b a b', f b a = .ok b' → (c ∈ b' ↔ c ∈ b ∨ Touches a)) :
    c ∈ b' ↔ c ∈ b ∨ ∃ a ∈ l, Touches a := by
  induction l generalizing b with
  | nil =>
      cases h
      simp
  | cons a l ih =>
      rw [List.foldlM_cons, bind_eq_ok_iff] at h
      obtain ⟨b₁, h₁, h₂⟩ := h
      rw [ih h₂, hf b a b₁ h₁, or_assoc]
      simp only [List.mem_cons, exists_eq_or_imp]

theorem mem_addSpan {e : Option Span × ℕ} (h : addSpan config b e = .ok b') :
    c ∈ b' ↔ c ∈ b ∨ covers c e.1 := by
  obtain ⟨s?, i⟩ := e
  cases s? with
  | none =>
      cases h
      simp [covers]
  | some s =>
      have hcells : s.cells.foldlM (add config i) b = .ok b' := h
      rw [mem_foldlM hcells fun _ _ _ => mem_add]
      simp [covers]

theorem length_covering_pos {entries : List (Option Span × ℕ)} :
    0 < (covering c entries).length ↔ ∃ e ∈ entries, covers c e.1 := by
  simp [covering, List.length_pos_iff, List.filter_eq_nil_iff]

end Buckets

namespace Grid

variable {config : GridConfig} {g g' : Grid} {previous last : Array Rect}

theorem mem_rebuild {rects : Array Rect} {c : Cell} (h : g.rebuild rects = .ok g') :
    c ∈ g'.buckets ↔ 0 < (g.buckets.filed c).length ∨ 0 < (g'.buckets.filed c).length := by
  obtain ⟨-, -, hfiled⟩ := rebuild_eq_ok h
  rw [hfiled.bucket c, Buckets.length_covering_pos]
  rw [rebuild_eq] at h
  obtain ⟨buckets, hb, h⟩ := bind_eq_ok_iff.mp h
  cases h
  rw [Buckets.mem_foldlM hb fun _ _ _ => Buckets.mem_addSpan, Buckets.mem_recycle]

/-! ### Two builds back -/

/-- The grid holds the rectangles of its last build, and has a bucket for their cells and for those of
the build before. -/
structure Keeps (g : Grid) (previous last : Array Rect) : Prop where
  holds : g.Holds last
  mem_iff : ∀ c, c ∈ g.buckets ↔ c ∈ occupied g.config previous ∪ occupied g.config last

theorem Holds.mem_occupied_iff (h : g.Holds last) {c : Cell} :
    c ∈ occupied g.config last ↔ 0 < (g.buckets.filed c).length := by
  rw [mem_occupied, h.length_filed]

theorem keeps_empty (config : GridConfig) : Keeps { config } #[] #[] where
  holds := holds_empty config
  mem_iff c := by simp [occupied, entries, bucketed]

theorem Keeps.remarked (h : g.Keeps previous last) (seen : Array ℕ) :
    Keeps { g with seen } previous last :=
  ⟨h.holds.remarked seen, h.mem_iff⟩

theorem Keeps.of_rebuild {rects : Array Rect} (h : g.Keeps previous last)
    (hg : g.rebuild rects = .ok g') : g'.config = g.config ∧ g'.Keeps last rects := by
  obtain ⟨hconfig, hholds⟩ := holds_of_rebuild hg
  refine ⟨hconfig, hholds, fun c => ?_⟩
  rw [mem_rebuild hg, Finset.mem_union, hholds.mem_occupied_iff, hconfig, h.holds.mem_occupied_iff]

theorem Keeps.run {ops : List GridOp} {answers : List (GridAnswer × GridStats)}
    {earlier : List (Array Rect)} {previous' last' : Array Rect} (h : g.Keeps previous last)
    (hrun : g.run ops = .ok (g', answers))
    (hbuilds : previous :: last :: ops.filterMap GridOp.built? = earlier ++ [previous', last']) :
    g'.config = g.config ∧ g'.Keeps previous' last' := by
  induction ops generalizing g previous last earlier answers with
  | nil =>
      cases hrun
      have hpair : [] ++ [previous, last] = earlier ++ [previous', last'] := hbuilds
      cases (List.append_inj' hpair rfl).2
      exact ⟨rfl, h⟩
  | cons op ops ih =>
      obtain ⟨g₁, rest, hafter, hrest, -⟩ := run_cons_eq_ok_iff.mp hrun
      rcases after_cases hafter with ⟨hop, rfl⟩ | ⟨rects, hop, hg⟩
      · rw [List.filterMap_cons_none hop] at hbuilds
        have hrest' := ih (h.remarked (g₁.marks op)) hrest hbuilds
        exact hrest'
      · rw [List.filterMap_cons_some hop] at hbuilds
        obtain ⟨hconfig, hkeeps⟩ := h.of_rebuild hg
        -- there are three builds or more, so the first one is among the earlier ones
        cases earlier with
        | nil => simp at hbuilds
        | cons first earlier =>
            obtain ⟨hconfig', hkeeps'⟩ := ih (hkeeps.remarked (g₁.marks op)) hrest (List.cons.inj hbuilds).2
            exact ⟨hconfig'.trans hconfig, hkeeps'⟩

/-- **A grid keeps the cells of its last two builds.**  After any operations with at least two builds,
the cells that have a bucket are those that the last build occupies and those that the build before
it occupied. -/
theorem buckets_after_any_history {fresh : Grid} {ops : List GridOp}
    {answers : List (GridAnswer × GridStats)} {earlier : List (Array Rect)}
    (hmake : make config = .ok fresh) (hrun : fresh.run ops = .ok (g, answers))
    (hbuilds : ops.filterMap GridOp.built? = earlier ++ [previous, last]) (c : Cell) :
    c ∈ g.buckets ↔ c ∈ occupied config previous ∪ occupied config last := by
  obtain ⟨-, rfl⟩ := make_eq_ok hmake
  have hall : #[] :: #[] :: ops.filterMap GridOp.built? =
      (#[] :: #[] :: earlier) ++ [previous, last] := by
    rw [hbuilds, List.cons_append, List.cons_append]
  obtain ⟨hconfig, hkeeps⟩ := (keeps_empty config).run hrun hall
  rw [hkeeps.mem_iff, hconfig]

/-- A rectangle that moves from build to build: the place of the third build and that of the second one
have a bucket, the place of the first one has none. -/
theorem buckets_after_any_history_moving :
    ∃ fresh g answers, make { cellSize := 10 } = .ok fresh ∧
      fresh.run [.detect #[⟨0, 0, 4, 4, by decide⟩], .copy, .detect #[⟨30, 0, 4, 4, by decide⟩],
        .query #[], .rebuild #[⟨60, 0, 4, 4, by decide⟩]] = .ok (g, answers) ∧
      ⟨6, 0⟩ ∈ g.buckets ∧ ⟨3, 0⟩ ∈ g.buckets ∧ ⟨0, 0⟩ ∉ g.buckets := by
  have hmake : make { cellSize := 10 } = .ok { config := { cellSize := 10 } } := exists_make (by decide)
  obtain ⟨g, answers, hrun, -⟩ := (kept_empty { cellSize := 10 }).run (by decide)
    [.detect #[⟨0, 0, 4, 4, by decide⟩], .copy, .detect #[⟨30, 0, 4, 4, by decide⟩],
      .query #[], .rebuild #[⟨60, 0, 4, 4, by decide⟩]]
  have hcell := buckets_after_any_history hmake hrun
    (show _ = [#[_]] ++ [#[_], #[_]] from rfl)
  exact ⟨_, g, answers, hmake, hrun, (hcell _).mpr (by decide +kernel),
    (hcell _).mpr (by decide +kernel), mt (hcell _).mp (by decide +kernel)⟩

end Grid

end Broadphase
