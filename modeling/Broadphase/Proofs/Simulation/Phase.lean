import Mathlib.Logic.Basic
import Broadphase.Simulation.Loop

/-! # The phases of a loop

Whether a loop runs, which frame it waits for and since when it counts the time stand in three fields,
and the operations write them one by one.  A loop is `Coherent` if the three fit together: they are
those of a `Phase`, which is either stopped or running with a frame and a time.  That every loop is
coherent is an invariant of sessions, proved along with the rest of `Loop.Sound`. -/

namespace Broadphase

/-- What a loop waits for. -/
inductive Phase where
  | stopped
  /-- The frame that the loop waits for, and since when it counts the time. -/
  | running (awaited : FrameHandle) (since : Instant)
deriving DecidableEq, Repr

namespace Phase

/-! ### The fields of a phase -/

def state : Phase → LoopState
  | .stopped => .stopped
  | .running _ _ => .running

def awaited? : Phase → Option FrameHandle
  | .stopped => none
  | .running h _ => some h

def since? : Phase → Option Instant
  | .stopped => none
  | .running _ t => some t

/-- The phase is that of a loop which waits for the given frame. -/
def Awaits (p : Phase) (h : FrameHandle) : Prop := ∃ since, p = .running h since

theorem not_awaits_stopped (x : FrameHandle) : ¬ stopped.Awaits x := by
  rintro ⟨t, ht⟩
  cases ht

theorem awaits_running {h x : FrameHandle} {t : Instant} : (running h t).Awaits x ↔ x = h := by
  constructor
  · rintro ⟨t, ht⟩
    cases ht
    rfl
  · rintro rfl
    exact ⟨t, rfl⟩

end Phase

namespace Loop

variable {l l' : Loop} {p : Phase}

/-- The fields of the loop are those of the phase. -/
structure InPhase (l : Loop) (p : Phase) : Prop where
  state : l.state = p.state
  awaited : l.awaited? = p.awaited?
  since : l.since? = p.since?

/-- The phase of a loop whose fields fit together. -/
def phase (l : Loop) : Phase :=
  match l.state, l.awaited?, l.since? with
  | .running, some h, some t => .running h t
  | _, _, _ => .stopped

/-- The three fields fit together. -/
def Coherent (l : Loop) : Prop := l.InPhase l.phase

/-- The loop with the fields of a phase. -/
def withPhase (l : Loop) (p : Phase) : Loop :=
  { l with state := p.state, awaited? := p.awaited?, since? := p.since? }

theorem InPhase.phase_eq (h : l.InPhase p) : l.phase = p := by
  unfold phase
  rw [h.state, h.awaited, h.since]
  cases p with
  | stopped => rfl
  | running h t => rfl

theorem InPhase.coherent (h : l.InPhase p) : l.Coherent := by
  unfold Coherent
  rwa [h.phase_eq]

theorem InPhase.isRunning_iff (h : l.InPhase p) : l.isRunning ↔ p.state = .running := by
  unfold isRunning
  rw [h.state, decide_eq_true_iff]

theorem InPhase.awaits_iff (h : l.InPhase p) (x : FrameHandle) : l.awaits x ↔ p.Awaits x := by
  unfold awaits
  rw [Bool.and_eq_true, h.isRunning_iff, h.awaited, decide_eq_true_iff]
  cases p with
  | stopped => simp [Phase.state, Phase.not_awaits_stopped]
  | running handle t => simp [Phase.state, Phase.awaited?, Phase.awaits_running, eq_comm]

theorem InPhase.withPhase_eq (h : l.InPhase p) : l.withPhase p = l := by
  unfold withPhase
  rw [← h.state, ← h.awaited, ← h.since]

theorem inPhase_withPhase (l : Loop) (p : Phase) : (l.withPhase p).InPhase p := ⟨rfl, rfl, rfl⟩

theorem Coherent.of_eq (h : l.Coherent) (hstate : l'.state = l.state)
    (hawaited : l'.awaited? = l.awaited?) (hsince : l'.since? = l.since?) : l'.Coherent := by
  have hp : l'.InPhase l.phase :=
    ⟨hstate.trans h.state, hawaited.trans h.awaited, hsince.trans h.since⟩
  exact hp.coherent

theorem Coherent.inPhase (h : l.Coherent) (hp : l.phase = p) : l.InPhase p := hp ▸ h

theorem Coherent.inPhase_stopped (h : l.Coherent) (hstopped : l.state = .stopped) :
    l.InPhase .stopped := by
  refine h.inPhase ?_
  have hstate : l.phase.state = .stopped := h.state.symm.trans hstopped
  cases hp : l.phase with
  | stopped => rfl
  | running handle t =>
      rw [hp] at hstate
      cases hstate

/-- Of the three fields each one tells whether the loop runs. -/
theorem Coherent.isRunning_iff (h : l.Coherent) :
    (l.isRunning ↔ l.awaited?.isSome) ∧ (l.isRunning ↔ l.since?.isSome) ∧
      (l.isRunning ↔ ∃ x, l.phase.Awaits x) := by
  rw [InPhase.isRunning_iff h, h.awaited, h.since]
  cases l.phase with
  | stopped => simp [Phase.state, Phase.awaited?, Phase.since?, Phase.not_awaits_stopped]
  | running handle t => simp [Phase.state, Phase.awaited?, Phase.since?, Phase.awaits_running]

/-! ### What the operations do to it -/

theorem start_of_stopped (h : l.InPhase .stopped) (now : Instant) (q : FrameQueue) :
    l.start now q =
      ({ l with rate := l.rate.reset }.withPhase (.running (q.last + 1) now), q.request.2) := by
  unfold start isRunning
  rw [h.state]
  rfl

theorem start_of_running {h : FrameHandle} {t : Instant} (hp : l.InPhase (.running h t))
    (now : Instant) (q : FrameQueue) : l.start now q = (l, q) := by
  unfold start isRunning
  rw [hp.state]
  rfl

theorem stop_of_running {h : FrameHandle} {t : Instant} (hp : l.InPhase (.running h t))
    (q : FrameQueue) : l.stop q = (l.withPhase .stopped, q.cancel h) := by
  unfold stop
  rw [hp.awaited]
  rfl

theorem stop_of_stopped (h : l.InPhase .stopped) (q : FrameQueue) : l.stop q = (l, q) := by
  have hstop : l.stop q = (l.withPhase .stopped, q) := by
    unfold stop
    rw [h.awaited]
    rfl
  rw [hstop, h.withPhase_eq]

theorem frameLength_of_running {h : FrameHandle} {t : Instant} (hp : l.InPhase (.running h t))
    (now : Instant) : l.frameLength now = deltaTimeUnits (Clock.elapsedMs t now) := by
  unfold frameLength
  rw [hp.since]
  rfl

end Loop

end Broadphase
