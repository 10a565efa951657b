import Broadphase.Proofs.Simulation.Contacts
import Broadphase.Proofs.Simulation.Reachable

/-! # What a completed tick leaves behind

The bodies, pairs and counters after a tick belong together: the pairs are the overlapping ones of the
bodies as they are now, the flags tell which bodies take part in them, and the report to the observer
shows the same bodies and pairs (`tick_result`). -/

namespace Broadphase.Session

/-- **What a completed tick leaves behind**, in whatever state the session was before and whether the
tick was asked for directly or by a frame.  The report carries the frame rate from before the tick. -/
theorem tick_result {config : SimConfig} {s s' : Session} {tick : Tick}
    (h : Reachable config s) (op : SessionOp) (hop : s.perform op = .ok (s', .ticked tick)) :
    (∀ i b, s'.loop.bodies[i]? = some b →
      (b.colliding ↔ Contacts.InContact s'.loop.bodies i)) ∧
    (∀ b ∈ s'.loop.bodies, b.isStatic → b.colliding = false) ∧
    Detection.ListsOverlaps (Contacts.dynamicRects s'.loop.bodies) s'.loop.pairs ∧
    tick.stats = s'.loop.stats ∧
    s'.loop.stats.collisions = s'.loop.pairs.length ∧
    s'.loop.ticks = s.loop.ticks + 1 ∧
    s'.loop.edits = [] ∧
    s'.loop.observer? = s.loop.observer? ∧
    (SessionOutcome.ticked tick).reports = s.loop.observer?.toList.map fun observer =>
      { observer, tick := s'.loop.ticks, bodies := s'.loop.bodies, pairs := s'.loop.pairs,
        stats := { s'.loop.stats with fps := s.loop.stats.fps } } := by
  obtain ⟨dt, grid, found, -, hpairs, hloop, rfl⟩ := h.ticked hop
  rw [hloop]
  have hflags : ∀ i b, (Contacts.reconcile (s.loop.moved dt) found.pairs).1[i]? = some b →
      (b.colliding ↔ Contacts.InContact (Contacts.reconcile (s.loop.moved dt) found.pairs).1 i) :=
    fun i b hb => Contacts.colliding_reconcile_iff hpairs hb
  refine ⟨hflags, ?_, ?_, rfl, rfl, rfl, rfl, rfl, ?_⟩
  · intro b hb hstatic
    obtain ⟨i, hi⟩ := List.mem_iff_getElem?.mp hb
    by_contra hcolliding
    obtain ⟨a, -, -, ha, hdynamic, -⟩ := (hflags i b hi).mp (by simpa using hcolliding)
    cases hi.symm.trans ha
    simp [Body.isDynamic, hstatic] at hdynamic
  · show Detection.ListsOverlaps (Contacts.dynamicRects (Contacts.reconcile _ found.pairs).1) _
    rw [Contacts.dynamicRects_reconcile]
    exact hpairs
  · show (s.loop.observer?.map _).toList = _
    cases s.loop.observer? with
    | none => rfl
    | some observer => rfl

/-- A static body lies on two bodies that overlap, and a flag was put on it from outside: after the tick
the two are flagged and the static body is not, and the observer is told once. -/
theorem tick_result_spawned :
    ∃ s s' tick, Reachable { grid := { enabled := false } } s ∧
      s.perform (.step 1) = .ok (s', .ticked tick) ∧
      Contacts.InContact s'.loop.bodies 0 ∧ ¬ Contacts.InContact s'.loop.bodies 1 ∧
      Contacts.InContact s'.loop.bodies 2 ∧ s'.loop.stats.collisions = 1 ∧
      (SessionOutcome.ticked tick).reports.map Report.tick = [1] := by
  have hmake : Loop.make { grid := { enabled := false } }
      [⟨1, ⟨0, 0, 10, 10, by decide⟩, 1, 0, 1, false, false, by decide⟩,
        ⟨2, ⟨3, 3, 10, 10, by decide⟩, 0, 0, 1, true, true, by decide⟩] = .ok _ := rfl
  have hobserved := (Reachable.made {} hmake).performed (.observe {}) rfl
  have hs := hobserved.performed
    (.enqueue (.spawn ⟨3, ⟨5, 5, 10, 10, by decide⟩, 0, 1, 1, false, false, by decide⟩)) rfl
  obtain ⟨hflags, -, -, -, hcount, -, -, -, hreports⟩ := tick_result hs (.step 1) rfl
  refine ⟨_, _, _, hs, rfl, (hflags 0 _ rfl).mp rfl, ?_, (hflags 2 _ rfl).mp rfl, hcount, ?_⟩
  · intro hcontact
    cases (hflags 1 _ rfl).mpr hcontact
  · rw [hreports]
    rfl

end Broadphase.Session
