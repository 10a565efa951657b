import Broadphase.Proofs.Grid.Retention

/-! # The expected number of objects is a hint

`GridConfig.maxObjectsPerCell` is the room that is set aside for a new bucket, and nothing else.  Two
grids over cells of one size hold the same rectangles after the same operations, whatever they expect
in a cell, and so they give the same answers (`Alike.run`).

What the hint decides is whether a bucket can be made at all.  A grid whose hint is too large has no
bucket (`Bare`), and it goes on without one as long as all rectangles of a build are oversized
(`Bare.run`).  The first build with another rectangle needs a bucket, for a rectangle covers at least one
cell, and fails (`Bare.after_fails`). -/

namespace Broadphase

/-- The same answer, but with the given settings if it tells settings. -/
def GridAnswer.under (config : GridConfig) : GridAnswer → GridAnswer
  | .settings _ => .settings config
  | a => a

namespace Grid

variable {config : GridConfig} {g g' : Grid} {built : Array Rect}

/-! ### Two grids side by side -/

/-- Two grids over cells of one size that hold the same rectangles. -/
structure Alike (g g' : Grid) (built : Array Rect) : Prop where
  cellSize : g.config.cellSize = g'.config.cellSize
  left : g.Holds built
  right : g'.Holds built

theorem Alike.spans (h : Alike g g' built) : g.spans = g'.spans := by
  rw [h.left.spans, h.right.spans]
  unfold spanOf?
  rw [h.cellSize]

theorem Alike.collect (h : Alike g g' built) {rects : Array Rect} (hsize : rects.size = built.size) :
    (g.collect rects).2 = (g'.collect rects).2 :=
  collect_congr h.left.filed h.right.filed h.spans (hsize.trans h.left.size.symm)

theorem Alike.stats (h : Alike g g' built) : g.stats = g'.stats :=
  stats_congr h.left.filed h.right.filed h.spans

theorem Alike.query (h : Alike g g' built) (rects : Array Rect) :
    (g.query rects).2 = (g'.query rects).2 := by
  by_cases hsize : rects.size = built.size
  · rw [query_of_size (hsize.trans h.left.size.symm), query_of_size (hsize.trans h.right.size.symm),
      h.collect hsize]
  · rw [query_of_stale fun he => hsize (he.trans h.left.size),
      query_of_stale fun he => hsize (he.trans h.right.size), h.spans]

theorem Alike.remarked (h : Alike g g' built) (seen seen' : Array ℕ) :
    Alike { g with seen } { g' with seen := seen' } built :=
  ⟨h.cellSize, h.left.remarked seen, h.right.remarked seen'⟩

theorem Alike.answer {op : GridOp} (h : Alike g g' (op.built?.getD built)) :
    g'.answer op = (g.answer op).under g'.config := by
  cases op with
  | rebuild rects => rfl
  | query rects =>
      simp only [Grid.answer, h.query]
      split <;> rfl
  | detect rects =>
      have hcollect : (g.collect rects).2 = (g'.collect rects).2 := h.collect rfl
      simp only [Grid.answer, hcollect]
      rfl
  | copy => rfl
  | config => rfl

theorem Alike.after {op : GridOp} {g₁ g₁' : Grid} (h : Alike g g' built) (hg : g.after op = .ok g₁)
    (hg' : g'.after op = .ok g₁') :
    Alike g₁ g₁' (op.built?.getD built) ∧ g₁'.config = g'.config := by
  obtain ⟨hconfig, hholds⟩ := h.left.after hg
  obtain ⟨hconfig', hholds'⟩ := h.right.after hg'
  exact ⟨⟨by rw [hconfig, hconfig', h.cellSize], hholds, hholds'⟩, hconfig'⟩

/-- As long as neither grid fails, the answers of the two differ only where they are asked for their
settings. -/
theorem Alike.run {ops : List GridOp} {last last' : Grid}
    {answers answers' : List (GridAnswer × GridStats)} (h : Alike g g' built)
    (hrun : g.run ops = .ok (last, answers)) (hrun' : g'.run ops = .ok (last', answers')) :
    answers' = answers.map fun (a, stats) => (a.under g'.config, stats) := by
  induction ops generalizing g g' built answers answers' with
  | nil =>
      cases hrun
      cases hrun'
      rfl
  | cons op ops ih =>
      obtain ⟨g₁, rest, hg₁, hrest, rfl⟩ := run_cons_eq_ok_iff.mp hrun
      obtain ⟨g₁', rest', hg₁', hrest', rfl⟩ := run_cons_eq_ok_iff.mp hrun'
      obtain ⟨h₁, hconfig⟩ := h.after hg₁ hg₁'
      rw [ih (h₁.remarked _ _) hrest hrest', h₁.answer, h₁.stats, hconfig]
      rfl

end Grid

/-! ### A grid that cannot make a bucket -/

theorem GridConfig.not_allocatable_iff {config : GridConfig} :
    ¬ config.allocatable ↔ 2 ^ 63 - 1 < config.maxObjectsPerCell.toNat * 8 := by
  unfold GridConfig.allocatable GridConfig.entryBytes
  rw [decide_eq_true_eq, not_le, Nat.pow_eq]

/-- The operation builds the grid from rectangles that are not all oversized. -/
def GridOp.Fills (config : GridConfig) (op : GridOp) : Prop :=
  ∃ rects, op.built? = some rects ∧ ∃ r ∈ rects, ¬ Grid.Oversized config rects.size r

namespace Buckets

variable {config : GridConfig} {b : Buckets} {entries : List (Option Span × ℕ)}

theorem foldlM_addSpan_of_none (h : ∀ s? ∈ entries.map Prod.fst, s? = none) :
    entries.foldlM (addSpan config) b = .ok b := by
  induction entries with
  | nil => rfl
  | cons e entries ih =>
      obtain ⟨s?, i⟩ := e
      obtain ⟨rfl, hrest⟩ := List.forall_mem_cons.mp h
      exact ih hrest

/-- Without a bucket and without room for one, no span with a cell can be added. -/
theorem foldlM_addSpan_of_bare (hb : ∀ c, c ∉ b) (halloc : ¬ config.allocatable)
    (hcells : ∀ s, some s ∈ entries.map Prod.fst → s.cells ≠ [])
    (h : ∃ s, some s ∈ entries.map Prod.fst) :
    entries.foldlM (addSpan config) b = .error ⟨config.maxObjectsPerCell⟩ := by
  induction entries with
  | nil => simp at h
  | cons e entries ih =>
      obtain ⟨s?, i⟩ := e
      cases s? with
      | none =>
          have hrest : ∃ s, some s ∈ entries.map Prod.fst := by simpa using h
          exact ih (fun s hs => hcells s (List.mem_cons_of_mem _ hs)) hrest
      | some s =>
          obtain ⟨c, cells, hc⟩ := List.exists_cons_of_ne_nil (hcells s List.mem_cons_self)
          have hadd : addSpan config b (some s, i) = .error ⟨config.maxObjectsPerCell⟩ := by
            rw [addSpan, hc, List.foldlM_cons, add, if_neg (hb c), if_neg halloc]
            rfl
          rw [List.foldlM_cons, hadd]
          rfl

end Buckets

namespace Grid

variable {config : GridConfig} {g g' : Grid} {rects : Array Rect} {op : GridOp} {ops : List GridOp}

/-- The grid has the given settings and no bucket. -/
structure Bare (config : GridConfig) (g : Grid) : Prop where
  config_eq : g.config = config
  empty : ∀ c, c ∉ g.buckets

theorem bare_empty (config : GridConfig) : Bare config { config } := ⟨rfl, fun c => by simp⟩

theorem mem_spans_iff {s? : Option Span} :
    s? ∈ (rects.map (spanOf? config rects.size)).toList.zipIdx.map Prod.fst ↔
      ∃ r ∈ rects, spanOf? config rects.size r = s? := by
  rw [List.zipIdx_map_fst, Array.mem_toList_iff, Array.mem_map]

theorem rebuild_of_oversized (h : ∀ r ∈ rects, Oversized g.config rects.size r) :
    ∃ spans oversized, g.rebuild rects =
      .ok { g with buckets := g.buckets.recycle, spans, oversized } := by
  rw [rebuild_eq]
  refine ⟨_, _, bind_eq_ok_iff.mpr ⟨_, Buckets.foldlM_addSpan_of_none fun s? hs => ?_, rfl⟩⟩
  obtain ⟨r, hr, rfl⟩ := mem_spans_iff.mp hs
  exact spanOf?_of_oversized (h r hr)

theorem Bare.recycle (h : Bare config g) (c : Cell) : c ∉ g.buckets.recycle := by
  rw [Buckets.mem_recycle, Buckets.filed, Std.HashMap.getD_eq_fallback (h.empty c)]
  simp

theorem Bare.rebuild_fails (h : Bare config g) (hconfig : config.validate = .ok ())
    (halloc : ¬ config.allocatable) (hrects : ∃ r ∈ rects, ¬ Oversized config rects.size r) :
    g.rebuild rects = .error ⟨config.maxObjectsPerCell⟩ := by
  obtain rfl := h.config_eq
  have hfails : (rects.map (spanOf? g.config rects.size)).toList.zipIdx.foldlM
      (Buckets.addSpan g.config) g.buckets.recycle = .error ⟨g.config.maxObjectsPerCell⟩ := by
    refine Buckets.foldlM_addSpan_of_bare h.recycle halloc ?_ ?_
    · intro s hs
      obtain ⟨r, -, hspan⟩ := mem_spans_iff.mp hs
      by_cases hr : Oversized g.config rects.size r
      · rw [spanOf?_of_oversized hr] at hspan
        cases hspan
      · rw [spanOf?_of_not_oversized hr] at hspan
        cases hspan
        exact List.ne_nil_of_mem (Span.low_mem_cells hconfig r)
    · obtain ⟨r, hr, hsmall⟩ := hrects
      exact ⟨_, mem_spans_iff.mpr ⟨r, hr, spanOf?_of_not_oversized hsmall⟩⟩
  rw [rebuild_eq]
  dsimp only
  rw [hfails]
  rfl

theorem Bare.after_fails (h : Bare config g) (hconfig : config.validate = .ok ())
    (halloc : ¬ config.allocatable) (hop : op.Fills config) :
    g.after op = .error ⟨config.maxObjectsPerCell⟩ := by
  obtain ⟨rects, hbuilt, hrects⟩ := hop
  unfold Grid.after
  rw [hbuilt]
  exact h.rebuild_fails hconfig halloc hrects

theorem Bare.after (h : Bare config g) (hop : ¬ op.Fills config) :
    ∃ g', g.after op = .ok g' ∧ Bare config g' := by
  unfold Grid.after
  cases hbuilt : op.built? with
  | none => exact ⟨g, rfl, h⟩
  | some rects =>
      have hrects : ∀ r ∈ rects, Oversized g.config rects.size r := by
        rw [h.config_eq]
        intro r hr
        by_contra hsmall
        exact hop ⟨rects, hbuilt, r, hr, hsmall⟩
      obtain ⟨spans, oversized, hrebuild⟩ := rebuild_of_oversized hrects
      exact ⟨_, hrebuild, h.config_eq, h.recycle⟩

theorem Bare.remarked (h : Bare config g) (seen : Array ℕ) : Bare config { g with seen } :=
  ⟨h.config_eq, h.empty⟩

theorem Bare.run (h : Bare config g) (hops : ∀ op ∈ ops, ¬ op.Fills config) :
    ∃ g' answers, g.run ops = .ok (g', answers) ∧ Bare config g' := by
  induction ops generalizing g with
  | nil => exact ⟨g, [], rfl, h⟩
  | cons op ops ih =>
      obtain ⟨g₁, hg₁, h₁⟩ := h.after (hops op List.mem_cons_self)
      obtain ⟨g₂, answers, hrun, h₂⟩ :=
        ih (h₁.remarked (g₁.marks op)) fun op hop => hops op (List.mem_cons_of_mem _ hop)
      exact ⟨g₂, _, run_cons_eq_ok_iff.mpr ⟨g₁, answers, hg₁, hrun, rfl⟩, h₂⟩

theorem run_append_of_error {before rest : List GridOp} {answers : List (GridAnswer × GridStats)}
    {e : BucketOverflow} (h : g.run before = .ok (g', answers)) (h' : g'.run rest = .error e) :
    g.run (before ++ rest) = .error e := by
  induction before generalizing g answers with
  | nil =>
      cases h
      exact h'
  | cons op before ih =>
      obtain ⟨g₁, answers₁, hafter, hrun, -⟩ := run_cons_eq_ok_iff.mp h
      rw [List.cons_append, Grid.run, step_eq, hafter]
      show (run { g₁ with seen := g₁.marks op } (before ++ rest) >>= _) = _
      rw [ih hrun]
      rfl

/-- A grid without a bucket fails at the first operation that needs one. -/
theorem Bare.run_fails {before : List GridOp} (h : Bare config g) (hconfig : config.validate = .ok ())
    (halloc : ¬ config.allocatable) (hbefore : ∀ o ∈ before, ¬ o.Fills config)
    (hop : op.Fills config) (rest : List GridOp) :
    ∃ g' answers, g.run before = .ok (g', answers) ∧
      g'.step op = .error ⟨config.maxObjectsPerCell⟩ ∧
      g.run (before ++ op :: rest) = .error ⟨config.maxObjectsPerCell⟩ := by
  obtain ⟨g₁, answers, hrun, h₁⟩ := h.run hbefore
  have hstep : g₁.step op = .error ⟨config.maxObjectsPerCell⟩ := by
    rw [step_eq, h₁.after_fails hconfig halloc hop]
    rfl
  refine ⟨g₁, answers, hrun, hstep, run_append_of_error hrun ?_⟩
  rw [Grid.run, hstep]
  rfl

/-- A run fails if the hint is too large and some operation needs a bucket, and only then. -/
theorem run_fails_iff (hconfig : config.validate = .ok ()) (ops : List GridOp) :
    (∃ e, run { config } ops = .error e) ↔ ¬ config.allocatable ∧ ∃ op ∈ ops, op.Fills config := by
  classical
  constructor
  · rintro ⟨e, he⟩
    have hfails {g : Grid} {answers : List (GridAnswer × GridStats)} :
        run { config } ops ≠ .ok (g, answers) := by
      rw [he]
      exact fun h => by cases h
    constructor
    · intro halloc
      obtain ⟨g, answers, hrun, -⟩ := (kept_empty config).run halloc ops
      exact hfails hrun
    · by_contra hnone
      obtain ⟨g, answers, hrun, -⟩ :=
        (bare_empty config).run fun op hop hfills => hnone ⟨op, hop, hfills⟩
      exact hfails hrun
  · rintro ⟨halloc, op, hop, hfills⟩
    -- cut the operations at the first one that needs a bucket
    have hfound : (ops.find? fun o => decide (o.Fills config)).isSome :=
      List.find?_isSome.mpr ⟨op, hop, decide_eq_true hfills⟩
    obtain ⟨first, hfirst⟩ := Option.isSome_iff_exists.mp hfound
    obtain ⟨hneeds, before, rest, rfl, hbefore⟩ := List.find?_eq_some_iff_append.mp hfirst
    obtain ⟨-, -, -, -, herror⟩ := (bare_empty config).run_fails hconfig halloc
      (fun o ho => by simpa using hbefore o ho) (of_decide_eq_true hneeds) rest
    exact ⟨_, herror⟩

/-- **The expected number of objects is a hint.**  Two grids whose settings agree on the side of a cell
give the same answers, with the same occupancy, to any operations that both survive; only when asked
for its settings does each answer with its own.  A grid fails exactly if the bytes for the expected
entries exceed a signed 64-bit size and some build has a rectangle that is not oversized, and it does
so at the first such build. -/
theorem hint_advisory (config config' : GridConfig) (hconfig : config.validate = .ok ())
    (hconfig' : config'.validate = .ok ()) (hcell : config.cellSize = config'.cellSize)
    (ops : List GridOp) :
    ∃ fresh fresh', make config = .ok fresh ∧ make config' = .ok fresh' ∧
      (∀ g answers g' answers', fresh.run ops = .ok (g, answers) →
        fresh'.run ops = .ok (g', answers') →
        answers' = answers.map fun (a, stats) => (a.under config', stats)) ∧
      ((∃ e, fresh.run ops = .error e) ↔
        2 ^ 63 - 1 < config.maxObjectsPerCell.toNat * 8 ∧ ∃ op ∈ ops, op.Fills config) ∧
      ∀ before op rest, ops = before ++ op :: rest →
        2 ^ 63 - 1 < config.maxObjectsPerCell.toNat * 8 →
        (∀ o ∈ before, ¬ o.Fills config) → op.Fills config →
        ∃ g answers, fresh.run before = .ok (g, answers) ∧
          g.step op = .error ⟨config.maxObjectsPerCell⟩ := by
  refine ⟨{ config }, { config := config' }, exists_make hconfig, exists_make hconfig', ?_, ?_, ?_⟩
  · intro g answers g' answers' hrun hrun'
    have halike : Alike { config } { config := config' } #[] :=
      ⟨hcell, holds_empty config, holds_empty config'⟩
    exact halike.run hrun hrun'
  · rw [run_fails_iff hconfig, GridConfig.not_allocatable_iff]
  · rintro before op rest rfl hlarge hbefore hop
    obtain ⟨g, answers, hrun, hstep, -⟩ := (bare_empty config).run_fails hconfig
      (GridConfig.not_allocatable_iff.mpr hlarge) hbefore hop rest
    exact ⟨g, answers, hrun, hstep⟩

/-- A hint of `2 ^ 60` entries, one too many: an oversized rectangle is detected as with the standard
hint, and the first rectangle that needs a bucket ends the run. -/
theorem hint_advisory_too_large :
    ∃ fresh fresh' g g' answers e,
      make { cellSize := 10, maxObjectsPerCell := 1152921504606846976 } = .ok fresh ∧
      make { cellSize := 10 } = .ok fresh' ∧
      fresh.run [.detect #[⟨0, 0, 5000, 5000, by decide⟩]] = .ok (g, answers) ∧
      fresh'.run [.detect #[⟨0, 0, 5000, 5000, by decide⟩]] =
        .ok (g', answers.map fun (a, stats) => (a.under { cellSize := 10 }, stats)) ∧
      g.step (.rebuild #[⟨0, 0, 4, 4, by decide⟩]) = .error ⟨1152921504606846976⟩ ∧
      fresh.run [.detect #[⟨0, 0, 5000, 5000, by decide⟩], .rebuild #[⟨0, 0, 4, 4, by decide⟩], .copy] =
        .error e := by
  have hadvisory := hint_advisory { cellSize := 10, maxObjectsPerCell := 1152921504606846976 }
    { cellSize := 10 } (by decide) (by decide) rfl
  have hbig : ¬ (GridOp.detect #[⟨0, 0, 5000, 5000, by decide⟩]).Fills
      { cellSize := 10, maxObjectsPerCell := 1152921504606846976 } := by
    rintro ⟨rects, hrects, r, hr, hsmall⟩
    cases hrects
    obtain rfl := Array.mem_singleton.mp hr
    revert hsmall
    decide +kernel
  have hsmall : (GridOp.rebuild #[⟨0, 0, 4, 4, by decide⟩]).Fills
      { cellSize := 10, maxObjectsPerCell := 1152921504606846976 } :=
    ⟨_, rfl, _, Array.mem_singleton.mpr rfl, by decide +kernel⟩
  obtain ⟨fresh, fresh', hmake, hmake', hsame, -, -⟩ :=
    hadvisory [.detect #[⟨0, 0, 5000, 5000, by decide⟩]]
  obtain ⟨fresh₁, -, hmake₁, -, -, hfails, hfirst⟩ :=
    hadvisory [.detect #[⟨0, 0, 5000, 5000, by decide⟩], .rebuild #[⟨0, 0, 4, 4, by decide⟩], .copy]
  obtain rfl := Except.ok.inj (hmake.symm.trans hmake₁)
  obtain ⟨g, answers, hrun, hstep⟩ := hfirst [.detect #[⟨0, 0, 5000, 5000, by decide⟩]]
    (.rebuild #[⟨0, 0, 4, 4, by decide⟩]) [.copy] rfl (by decide) (by simpa using hbig) hsmall
  obtain ⟨e, he⟩ := hfails.mpr ⟨by decide, _, by simp, hsmall⟩
  obtain ⟨-, rfl⟩ := make_eq_ok hmake'
  obtain ⟨g', answers', hrun', -⟩ := (kept_empty { cellSize := 10 }).run (by decide)
    [.detect #[⟨0, 0, 5000, 5000, by decide⟩]]
  rw [hsame g answers g' answers' hrun hrun'] at hrun'
  exact ⟨fresh, _, g, g', answers, e, hmake, hmake', hrun, hrun', hstep, he⟩

end Grid

end Broadphase
