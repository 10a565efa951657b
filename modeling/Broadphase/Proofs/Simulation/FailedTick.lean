import Broadphase.Proofs.Binary64.Signs
import Broadphase.Proofs.Simulation.FrameProtocol
import Broadphase.Proofs.Simulation.Reachable

/-! # Ticks that fail

A tick fails for its length only, and a failed tick has applied the edits and done nothing else.  The
length that a frame asks for is never at fault, so a frame completes a tick or is ignored, and an
ignored frame does nothing (`failed_tick`). -/

namespace Broadphase

open Binary64

/-- Edits are applied one after the other. -/
theorem Edit.applyAll_eq_foldl (bounds : Bounds) (edits : List Edit) (bodies : List Body) :
    (applyAll bounds edits bodies).1 =
      edits.foldl (fun bodies e => (e.apply bounds bodies).1) bodies := by
  induction edits generalizing bodies with
  | nil => rfl
  | cons e edits ih => exact ih (e.apply bounds bodies).1

/-- The lengths that no step may have. -/
theorem Motion.not_validStep_iff {dt : Float} :
    ¬ ValidStep dt ↔ dt.isNaN ∨ dt.isInf ∨ dt < 0 := by
  unfold ValidStep
  by_cases hfin : dt.isFinite
  · obtain ⟨r, hr⟩ := exists_hasValue_of_isFinite hfin
    have hspecial : ¬ (dt.isNaN ∨ dt.isInf) := (isFinite_iff dt).mp hfin
    have hsign : ¬ dt ≥ 0 ↔ dt < 0 := by
      show ¬ 0 ≤ dt ↔ dt < 0
      rw [hasValue_zero.le_iff hr, hr.lt_iff hasValue_zero, not_le]
    rw [← or_assoc, or_iff_right hspecial, ← hsign, not_and]
    exact ⟨fun h => h hfin, fun h _ => h⟩
  · have hspecial : dt.isNaN ∨ dt.isInf := not_not.mp fun h => hfin ((isFinite_iff dt).mpr h)
    exact ⟨fun _ => hspecial.imp_right .inl, fun _ h => hfin h.1⟩

namespace Session

variable {config : SimConfig} {s : Session}

theorem perform_step_of_invalid {dt : Float} (h : ¬ Motion.ValidStep dt) (time : WorkTime) :
    s.perform (.step dt time) = .ok ({ s with loop := s.loop.applyEdits }, .failed (.deltaTime dt)) :=
  bind_eq_ok_iff.mpr ⟨_, Loop.step_of_invalid s.loop h time, rfl⟩

theorem exists_perform_step (hc : config.Valid) (hs : s.loop.Sound config)
    (halloc : config.Allocatable) {dt : Float} (h : Motion.ValidStep dt) (time : WorkTime) :
    ∃ s' tick, s.perform (.step dt time) = .ok (s', .ticked tick) := by
  obtain ⟨l, r, hstep, hr⟩ := hs.exists_step hc halloc dt time
  obtain ⟨tick, rfl⟩ := hr h
  exact ⟨{ s with loop := l }, tick, bind_eq_ok_iff.mpr ⟨_, hstep, rfl⟩⟩

/-- **Ticks that fail.**  In every state that a session can reach, a step fails exactly if its length is
no number, infinite or negative.  It then has applied the edits in order and changed nothing else, and
nobody is told of it.  A frame never fails, and a frame that is ignored changes nothing at all. -/
theorem failed_tick (h : Reachable config s) (halloc : config.Allocatable) :
    (∀ (dt : Float) (time : WorkTime), dt.isNaN ∨ dt.isInf ∨ dt < 0 →
      ∃ o, s.perform (.step dt time) = .ok ({ s with
        loop := { s.loop with
          bodies := s.loop.edits.foldl (fun bodies e => (e.apply config.bounds bodies).1) s.loop.bodies
          edits := [] } }, o) ∧
        o = .failed (.deltaTime dt) ∧ o.reports = []) ∧
    (∀ (dt : Float) (time : WorkTime), ¬ (dt.isNaN ∨ dt.isInf ∨ dt < 0) →
      ∃ s' tick, s.perform (.step dt time) = .ok (s', .ticked tick)) ∧
    (∀ handle now time, now < Instant.limit →
      s.perform (.frame handle now time) = .ok (s, .ignored) ∨
      ∃ s' tick, s.perform (.frame handle now time) = .ok (s', .ticked tick)) := by
  obtain ⟨hc, hs⟩ := h.sound
  refine ⟨?_, ?_, ?_⟩
  · intro dt time hdt
    refine ⟨_, ?_, rfl, rfl⟩
    rw [perform_step_of_invalid (Motion.not_validStep_iff.mpr hdt), ← Edit.applyAll_eq_foldl,
      ← hs.config_eq]
    rfl
  · intro dt time hdt
    exact exists_perform_step hc hs halloc (not_not.mp (mt Motion.not_validStep_iff.mp hdt)) time
  · intro handle now time hnow
    by_cases hawaits : s.loop.awaits handle
    · have hp := (hs.coherent.awaits_iff handle).mp hawaits
      obtain ⟨s', tick, hframe, -⟩ :=
        (ticked_of_awaited hc hs hp hnow time).resolve_right fun h => h.1 halloc
      exact .inr ⟨s', tick, hframe⟩
    · exact .inl (frame_of_not_awaits hawaits now time)

/-- A running loop with an edit that removes its only body: a step back in time fails and leaves no
body behind, a step of no length succeeds, and the awaited frame does not fail. -/
theorem failed_tick_backwards :
    ∃ s s' s₁ tick s₂ o, Reachable {} s ∧ s.loop.isRunning ∧ s.loop.bodies.length = 1 ∧
      s.perform (.step (-1)) = .ok (s', .failed (.deltaTime (-1))) ∧ s'.loop.bodies.length = 0 ∧
      s'.loop.isRunning ∧ s.perform (.step 0) = .ok (s₁, .ticked tick) ∧
      s.perform (.frame 1 16670000) = .ok (s₂, o) ∧ ∀ e, o ≠ .failed e := by
  have hmake : Loop.make {} [⟨1, ⟨0, 0, 10, 10, by decide⟩, 1, 0, 1, false, false, by decide⟩] =
      .ok _ := rfl
  have hstarted := (Reachable.made {} hmake).performed (.start 0) rfl
  have hs := hstarted.performed (.enqueue (.remove 1)) rfl
  obtain ⟨hfailed, hticked, hframe⟩ := failed_tick hs fun _ => by decide
  obtain ⟨_, hback, rfl, -⟩ := hfailed (-1) {} (by decide)
  obtain ⟨s₁, tick, hzero⟩ := hticked 0 {} (by decide)
  obtain hignored | ⟨s₂, tick', hnext⟩ := hframe 1 16670000 {} (by decide)
  · exact ⟨_, _, s₁, tick, _, _, hs, rfl, rfl, hback, rfl, rfl, hzero, hignored, nofun⟩
  · exact ⟨_, _, s₁, tick, s₂, _, hs, rfl, rfl, hback, rfl, rfl, hzero, hnext, nofun⟩

end Session

end Broadphase
