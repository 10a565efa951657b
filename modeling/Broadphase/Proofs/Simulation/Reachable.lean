import Broadphase.Proofs.Simulation.Protocol

/-! # The sessions that can be reached

`Reachable config s` says that the session `s` can come about under the given settings, whatever its
bodies are, whatever is done with it and however its host uses the queue.  Its settings are then valid
and its grid is in order (`Reachable.sound`).  An operation that completes a tick is a step of the loop
of a known length; besides that it may only change what the loop waits for (`perform_ticked`).  Such a
step settles exactly the overlapping pairs of the moved bodies (`Reachable.ticked`). -/

namespace Broadphase

theorem Loop.exists_make_of_spawn {config : SimConfig} {l : Loop} (h : Loop.spawn config = .ok l) :
    ∃ bodies, Loop.make config bodies = .ok l := by
  unfold spawn at h
  obtain ⟨bodies, -, h⟩ := bind_eq_ok_iff.mp h
  exact ⟨bodies, h⟩

/-- The loop `l`, but running or stopped as the loop `l'` is. -/
def Loop.pacedAs (l l' : Loop) : Loop :=
  { l with state := l'.state, awaited? := l'.awaited?, since? := l'.since? }

/-- The clock readings that an operation brings for its tick. -/
def SessionOp.time : SessionOp → WorkTime
  | .step _ time => time
  | .frame _ _ time => time
  | _ => {}

/-- What the observer is told in the course of an operation. -/
def SessionOutcome.reports : SessionOutcome → List Report
  | .ticked t => t.report?.toList
  | _ => []

namespace Session

/-- The sessions that can come about under the given settings. -/
inductive Reachable (config : SimConfig) : Session → Prop
  | made {bodies : List Body} {loop : Loop} (queue : FrameQueue) :
      Loop.make config bodies = .ok loop → Reachable config { loop, queue }
  | spawned {loop : Loop} (queue : FrameQueue) :
      Loop.spawn config = .ok loop → Reachable config { loop, queue }
  | performed {s s' : Session} (op : SessionOp) {o : SessionOutcome} :
      Reachable config s → s.perform op = .ok (s', o) → Reachable config s'
  /-- The host may hand in another queue at any time. -/
  | requeued {s : Session} (queue : FrameQueue) :
      Reachable config s → Reachable config { s with queue }

theorem Reachable.sound {config : SimConfig} {s : Session} (h : Reachable config s) :
    config.Valid ∧ s.loop.Sound config := by
  induction h with
  | made queue hmake => exact ⟨(Loop.make_eq_ok hmake).1, Loop.sound_make hmake⟩
  | spawned queue hspawn =>
      obtain ⟨bodies, hmake⟩ := Loop.exists_make_of_spawn hspawn
      exact ⟨(Loop.make_eq_ok hmake).1, Loop.sound_make hmake⟩
  | performed op _ hop ih => exact ⟨ih.1, (perform_protocol ih.2 ih.1 hop).1⟩
  | requeued queue _ ih => exact ih

/-! ### Operations that complete a tick -/

/-- The length of the tick that an operation asks for, if it asks for one. -/
def tickLength? (s : Session) : SessionOp → Option Float
  | .step dt _ => some dt
  | .frame handle now _ => if s.loop.awaits handle then some (s.loop.frameLength now) else none
  | _ => none

/-- A completed tick is a step of the loop; what the loop waits for may change besides. -/
theorem perform_ticked {s s' : Session} {op : SessionOp} {tick : Tick}
    (h : s.perform op = .ok (s', .ticked tick)) :
    ∃ dt l, s.tickLength? op = some dt ∧ s.loop.step dt op.time = .ok (l, .ok tick) ∧
      s'.loop = l.pacedAs s'.loop := by
  cases op with
  | frame handle now time =>
      have h : s.frame handle now time = .ok (s', .ticked tick) := h
      by_cases hawaits : s.loop.awaits handle
      · rw [frame_of_awaits hawaits] at h
        obtain ⟨⟨l, r⟩, hstep, hend⟩ := map_eq_ok_iff.mp h
        cases r with
        | ok t' =>
            cases hend
            exact ⟨_, l, if_pos hawaits, hstep, rfl⟩
        | error e => cases hend
      · rw [frame_of_not_awaits hawaits] at h
        cases h
  | step dt time =>
      obtain ⟨⟨l, r⟩, hstep, h⟩ := bind_eq_ok_iff.mp h
      cases r with
      | ok t =>
          cases h
          exact ⟨dt, l, rfl, hstep, rfl⟩
      | error e => cases h
  | _ => cases h

/-- A completed tick settles the overlapping pairs of the moved bodies. -/
theorem Reachable.ticked {config : SimConfig} {s s' : Session} {op : SessionOp} {tick : Tick}
    (h : Reachable config s) (hop : s.perform op = .ok (s', .ticked tick)) :
    ∃ dt grid found, s.tickLength? op = some dt ∧
      Detection.ListsOverlaps (Contacts.dynamicRects (s.loop.moved dt)) found.pairs ∧
      s'.loop = (s.loop.applyEdits.settle dt (s.loop.moved dt) grid found op.time).1.pacedAs s'.loop ∧
      tick = (s.loop.applyEdits.settle dt (s.loop.moved dt) grid found op.time).2 := by
  obtain ⟨hc, hs⟩ := h.sound
  have hc' : s.loop.config.Valid := hs.config_eq ▸ hc
  obtain ⟨dt, l, hdt, hstep, hloop⟩ := perform_ticked hop
  obtain ⟨-, -, hr⟩ | ⟨-, grid, found, t, hd, hl, hr⟩ := Loop.step_cases hc' hstep
  · cases hr
  · cases hr
    have hpairs : found.pairs = _ := (hs.detect_eq_ok hc hd).2.1
    refine ⟨dt, grid, found, hdt, ?_, ?_, ?_⟩
    · rw [hpairs]
      exact Detection.exhaustive_listsOverlaps _
    · rw [hl]
      exact hloop
    · rw [hl]

end Session

end Broadphase
