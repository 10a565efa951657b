import Broadphase.Grid.History
import Broadphase.Proofs.Grid.Agreement

/-! # Histories of a grid

An operation may build the grid.  Then it reads its answer off the grid, and what it changes besides are
the marks (`step_eq`).  The answer does not depend on the marks that were there before
(`answer_remarked`), and neither does a build (`rebuild_remarked`); so a grid with other marks goes
through any operations in the same way (`run_remarked`).

Whatever was done with a grid, it is filed (`Kept.run`), and it holds the rectangles of its last build
(`holds_lastBuilt`).  As long as its buckets can be set aside, no operation fails. -/

namespace Broadphase

/-- The rectangles from which an operation builds the grid, if it does. -/
def GridOp.built? : GridOp → Option (Array Rect)
  | .rebuild rects => some rects
  | .detect rects => some rects
  | _ => none

/-- The rectangles of the last build in a history; a grid that was never built holds none. -/
def lastBuilt (ops : List GridOp) : Array Rect := (ops.filterMap GridOp.built?).getLast?.getD #[]

namespace Grid

/-! ### One operation -/

/-- The grid after the build of an operation, if it has one. -/
def after (g : Grid) (op : GridOp) : Allocated Grid :=
  match op.built? with
  | some rects => g.rebuild rects
  | none => .ok g

/-- The answer of a grid to an operation that has already built it. -/
def answer (g : Grid) : GridOp → GridAnswer
  | .rebuild _ => .done
  | .query rects =>
    match (g.query rects).2 with
    | .ok d => .found d
    | .error e => .refused e
  | .detect rects => .found (g.collect rects).2
  | .copy => .done
  | .config => .settings g.config

/-- The marks after an operation that has already built the grid. -/
def marks (g : Grid) : GridOp → Array ℕ
  | .query rects => (g.query rects).1.seen
  | .detect rects => (g.collect rects).1.seen
  | _ => g.seen

variable {config : GridConfig} {g g' : Grid}

theorem query_of_size {rects : Array Rect} (h : rects.size = g.spans.size) :
    g.query rects = ((g.collect rects).1, .ok (g.collect rects).2) := if_pos h

theorem query_of_stale {rects : Array Rect} (h : rects.size ≠ g.spans.size) :
    g.query rects = (g, .error (.staleGrid g.spans.size rects.size)) := if_neg h

/-- Every operation builds the grid or not and then reads its answer off it; besides that it changes
the marks. -/
theorem step_eq (g : Grid) (op : GridOp) :
    g.step op = (g.after op).map fun g' => ({ g' with seen := g'.marks op }, g'.answer op) := by
  cases op with
  | rebuild rects =>
      simp only [step, after, GridOp.built?, marks, answer]
      cases g.rebuild rects <;> rfl
  | query rects =>
      simp only [step, after, GridOp.built?, marks, answer, Except.map]
      by_cases hsize : rects.size = g.spans.size
      · rw [query_of_size hsize]
        rfl
      · rw [query_of_stale hsize]
  | detect rects =>
      simp only [step, after, GridOp.built?, marks, answer, detect]
      cases g.rebuild rects <;> rfl
  | copy => rfl
  | config => rfl

theorem after_cases {op : GridOp} (h : g.after op = .ok g') :
    op.built? = none ∧ g' = g ∨ ∃ rects, op.built? = some rects ∧ g.rebuild rects = .ok g' := by
  unfold after at h
  cases hop : op.built? with
  | none =>
      rw [hop] at h
      cases h
      exact .inl ⟨rfl, rfl⟩
  | some rects =>
      rw [hop] at h
      exact .inr ⟨rects, rfl, h⟩

theorem step_eq_ok_iff {op : GridOp} {a : GridAnswer} :
    g.step op = .ok (g', a) ↔
      ∃ built, g.after op = .ok built ∧ g' = { built with seen := built.marks op } ∧
        a = built.answer op := by
  rw [step_eq]
  cases g.after op with
  | error e => simp [Except.map]
  | ok built =>
      simp only [Except.map, Except.ok.injEq, Prod.mk.injEq]
      constructor
      · rintro ⟨rfl, rfl⟩
        exact ⟨built, rfl, rfl, rfl⟩
      · rintro ⟨_, rfl, rfl, rfl⟩
        exact ⟨rfl, rfl⟩

/-! ### Other marks -/

theorem rebuild_remarked (g : Grid) (seen : Array ℕ) (rects : Array Rect) :
    rebuild { g with seen } rects = (g.rebuild rects).map fun g' => { g' with seen } := by
  rw [rebuild_eq, rebuild_eq]
  dsimp only
  cases (rects.map (spanOf? g.config rects.size)).toList.zipIdx.foldlM (Buckets.addSpan g.config)
    g.buckets.recycle <;> rfl

theorem after_remarked (g : Grid) (seen : Array ℕ) (op : GridOp) :
    after { g with seen } op = (g.after op).map fun g' => { g' with seen } := by
  unfold after
  cases op.built? with
  | none => rfl
  | some rects => exact rebuild_remarked g seen rects

/-- A collection wipes the marks that it finds. -/
theorem collect_remarked (g : Grid) (seen : Array ℕ) (rects : Array Rect) :
    collect { g with seen } rects = g.collect rects := by
  have hscan : scan { g with seen } rects = g.scan rects := by
    funext s e
    obtain ⟨s?, i⟩ := e
    cases s? <;> rfl
  unfold collect
  rw [hscan]

theorem query_remarked (g : Grid) (seen : Array ℕ) (rects : Array Rect) :
    (query { g with seen } rects).2 = (g.query rects).2 := by
  by_cases hsize : rects.size = g.spans.size
  · rw [query_of_size hsize, query_of_size (g := { g with seen }) hsize, collect_remarked]
  · rw [query_of_stale hsize, query_of_stale (g := { g with seen }) hsize]

theorem answer_remarked (g : Grid) (seen : Array ℕ) (op : GridOp) :
    answer { g with seen } op = g.answer op := by
  cases op with
  | query rects => simp only [answer, query_remarked]
  | detect rects => simp only [answer, collect_remarked]
  | _ => rfl

theorem step_remarked {op : GridOp} {a : GridAnswer} (h : g.step op = .ok (g', a)) (seen : Array ℕ) :
    ∃ seen', step { g with seen } op = .ok ({ g' with seen := seen' }, a) := by
  obtain ⟨built, hbuilt, rfl, rfl⟩ := step_eq_ok_iff.mp h
  refine ⟨marks { built with seen } op, ?_⟩
  rw [step_eq, after_remarked, hbuilt]
  simp only [Except.map, answer_remarked]

/-! ### Whole histories -/

theorem run_cons {op : GridOp} {ops : List GridOp} {g'' : Grid} {a : GridAnswer}
    {answers : List (GridAnswer × GridStats)} (h : g.step op = .ok (g', a))
    (h' : g'.run ops = .ok (g'', answers)) :
    g.run (op :: ops) = .ok (g'', (a, g'.stats) :: answers) :=
  bind_eq_ok_iff.mpr ⟨_, h, bind_eq_ok_iff.mpr ⟨_, h', rfl⟩⟩

theorem run_cons_eq_ok_iff {op : GridOp} {ops : List GridOp} {last : Grid}
    {answers : List (GridAnswer × GridStats)} :
    g.run (op :: ops) = .ok (last, answers) ↔ ∃ built rest, g.after op = .ok built ∧
      run { built with seen := built.marks op } ops = .ok (last, rest) ∧
      answers = (built.answer op, built.stats) :: rest := by
  constructor
  · intro h
    obtain ⟨⟨g₁, a⟩, hstep, h⟩ := bind_eq_ok_iff.mp h
    obtain ⟨⟨g₂, rest⟩, hrest, h⟩ := bind_eq_ok_iff.mp h
    obtain ⟨built, hafter, rfl, rfl⟩ := step_eq_ok_iff.mp hstep
    cases h
    exact ⟨built, rest, hafter, hrest, rfl⟩
  · rintro ⟨built, rest, hafter, hrest, rfl⟩
    have hstep : g.step op = .ok ({ built with seen := built.marks op }, built.answer op) :=
      step_eq_ok_iff.mpr ⟨built, hafter, rfl, rfl⟩
    have hrun := run_cons hstep hrest
    exact hrun

theorem run_append {ops ops' : List GridOp} {g'' : Grid}
    {answers answers' : List (GridAnswer × GridStats)} (h : g.run ops = .ok (g', answers))
    (h' : g'.run ops' = .ok (g'', answers')) :
    g.run (ops ++ ops') = .ok (g'', answers ++ answers') := by
  induction ops generalizing g answers with
  | nil =>
      cases h
      exact h'
  | cons op ops ih =>
      obtain ⟨⟨g₁, a⟩, h₁, h⟩ := bind_eq_ok_iff.mp h
      obtain ⟨⟨g₂, rest⟩, h₂, h⟩ := bind_eq_ok_iff.mp h
      cases h
      exact run_cons h₁ (ih h₂)

/-- Whatever marks a grid begins with, its answers and its occupancy are the same all along. -/
theorem run_remarked {ops : List GridOp} {last : Grid} {answers : List (GridAnswer × GridStats)}
    (h : g.run ops = .ok (last, answers)) (seen : Array ℕ) :
    ∃ seen', run { g with seen } ops = .ok ({ last with seen := seen' }, answers) := by
  induction ops generalizing g seen answers with
  | nil =>
      cases h
      exact ⟨seen, rfl⟩
  | cons op ops ih =>
      obtain ⟨⟨g₁, a⟩, h₁, h⟩ := bind_eq_ok_iff.mp h
      obtain ⟨⟨g₂, rest⟩, h₂, h⟩ := bind_eq_ok_iff.mp h
      cases h
      obtain ⟨seen₁, hstep⟩ := step_remarked h₁ seen
      obtain ⟨seen₂, hrest⟩ := ih h₂ seen₁
      have hrun := run_cons hstep hrest
      exact ⟨seen₂, hrun⟩

/-! ### The grids that can be reached -/

/-- The grids that a fresh one with the given settings can become. -/
structure Kept (config : GridConfig) (g : Grid) : Prop where
  config_eq : g.config = config
  filed : g.Filed

theorem kept_empty (config : GridConfig) : Kept config { config } := ⟨rfl, filed_empty config⟩

theorem Kept.remarked (h : Kept config g) (seen : Array ℕ) : Kept config { g with seen } :=
  ⟨h.config_eq, h.filed.remarked seen⟩

theorem Kept.of_rebuild {rects : Array Rect} (h : Kept config g) (hg : g.rebuild rects = .ok g') :
    Kept config g' ∧ g'.Holds rects := by
  obtain ⟨hc, hh⟩ := holds_of_rebuild hg
  exact ⟨⟨hc.trans h.config_eq, hh.filed⟩, hh⟩

theorem Kept.rebuild (h : Kept config g) (halloc : config.allocatable) (rects : Array Rect) :
    ∃ g', g.rebuild rects = .ok g' ∧ Kept config g' ∧ g'.Holds rects := by
  obtain ⟨g', hg'⟩ := exists_rebuild (h.config_eq ▸ halloc) rects
  exact ⟨g', hg', h.of_rebuild hg'⟩

theorem Kept.after (h : Kept config g) (halloc : config.allocatable) (op : GridOp) :
    ∃ g', g.after op = .ok g' ∧ Kept config g' := by
  unfold Grid.after
  cases op.built? with
  | none => exact ⟨g, rfl, h⟩
  | some rects =>
      obtain ⟨g', hg', hk, -⟩ := h.rebuild halloc rects
      exact ⟨g', hg', hk⟩

theorem Kept.run (h : Kept config g) (halloc : config.allocatable) (ops : List GridOp) :
    ∃ g' answers, g.run ops = .ok (g', answers) ∧ Kept config g' := by
  induction ops generalizing g with
  | nil => exact ⟨g, [], rfl, h⟩
  | cons op ops ih =>
      obtain ⟨built, hafter, hk⟩ := h.after halloc op
      obtain ⟨last, answers, hrest, hk'⟩ := ih (hk.remarked (built.marks op))
      exact ⟨last, _, run_cons_eq_ok_iff.mpr ⟨built, answers, hafter, hrest, rfl⟩, hk'⟩

/-! ### The last build of a history -/

theorem holds_empty (config : GridConfig) : Holds { config } #[] :=
  ⟨filed_empty config, Array.map_empty.symm⟩

theorem Holds.after {built : Array Rect} {op : GridOp} (h : g.Holds built)
    (hafter : g.after op = .ok g') : g'.config = g.config ∧ g'.Holds (op.built?.getD built) := by
  rcases after_cases hafter with ⟨hop, rfl⟩ | ⟨rects, hop, hg⟩
  · rw [hop]
    exact ⟨rfl, h⟩
  · rw [hop]
    exact holds_of_rebuild hg

theorem Holds.run {built : Array Rect} {ops : List GridOp}
    {answers : List (GridAnswer × GridStats)} (h : g.Holds built)
    (hrun : g.run ops = .ok (g', answers)) :
    g'.config = g.config ∧ g'.Holds ((ops.filterMap GridOp.built?).getLast?.getD built) := by
  induction ops generalizing g built answers with
  | nil =>
      cases hrun
      exact ⟨rfl, h⟩
  | cons op ops ih =>
      obtain ⟨g₁, rest, hafter, hrest, -⟩ := run_cons_eq_ok_iff.mp hrun
      obtain ⟨hconfig₁, hholds₁⟩ := h.after hafter
      obtain ⟨hconfig₂, hholds₂⟩ := ih (hholds₁.remarked _) hrest
      refine ⟨hconfig₂.trans hconfig₁, ?_⟩
      cases hop : op.built? with
      | none =>
          rw [hop] at hholds₂
          rwa [List.filterMap_cons_none hop]
      | some rects =>
          rw [hop] at hholds₂
          rwa [List.filterMap_cons_some hop, List.getLast?_cons, Option.getD_some]

/-- A grid holds the rectangles of its last build. -/
theorem holds_lastBuilt {fresh : Grid} {ops : List GridOp} {answers : List (GridAnswer × GridStats)}
    (hmake : make config = .ok fresh) (hrun : fresh.run ops = .ok (g, answers)) :
    g.config = config ∧ g.Holds (lastBuilt ops) := by
  obtain ⟨-, rfl⟩ := make_eq_ok hmake
  exact (holds_empty config).run hrun

end Grid

end Broadphase
