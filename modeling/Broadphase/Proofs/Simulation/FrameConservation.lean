import Broadphase.Simulation.FrameQueue
import Mathlib

/-! # No frame is lost and none comes twice

A host requests frames, cancels them and takes those that are due, in any order.  One operation moves
handles between the lists of what is pending, what was cancelled and what was delivered, and adds only
the handle that it gives out (`Ordered.perform_conserves`).  So after any operations these three lists
make up the handles that were given out (`Ordered.conservation`), which are the numbers from one on
(`issued_eq`).  What is due are the frames requested since the frames were taken last and not cancelled
since they were requested (`mem_pending_iff`). -/

namespace Broadphase

/-- What a host can do with a frame queue. -/
inductive QueueOp where
  | request
  | cancel (h : FrameHandle)
  | takeDue
deriving DecidableEq

namespace FrameQueue

/-- The queue after an operation. -/
def perform (q : FrameQueue) : QueueOp → FrameQueue
  | .request => q.request.2
  | .cancel h => q.cancel h
  | .takeDue => q.takeDue.2

/-- The queue after operations. -/
def performAll (q : FrameQueue) (ops : List QueueOp) : FrameQueue := ops.foldl perform q

/-! ### What the operations did -/

/-- The handle that an operation gives out. -/
def issuedBy (q : FrameQueue) : QueueOp → List FrameHandle
  | .request => [q.request.1]
  | _ => []

/-- The handle that an operation cancels while it is pending. -/
def cancelledBy (q : FrameQueue) : QueueOp → List FrameHandle
  | .cancel h => if h ∈ q.pending then [h] else []
  | _ => []

/-- The handles that an operation delivers. -/
def deliveredBy (q : FrameQueue) : QueueOp → List FrameHandle
  | .takeDue => q.takeDue.1
  | _ => []

/-- The handles that `f` reads off the operations, each together with the queue that it meets. -/
def logged (f : FrameQueue → QueueOp → List FrameHandle) (q : FrameQueue) :
    List QueueOp → List FrameHandle
  | [] => []
  | op :: ops => f q op ++ logged f (q.perform op) ops

/-- The handles that the requests return. -/
def issued : FrameQueue → List QueueOp → List FrameHandle := logged issuedBy

/-- The handles that are cancelled while they are pending. -/
def cancelled : FrameQueue → List QueueOp → List FrameHandle := logged cancelledBy

/-- The handles that are delivered, with those of the first delivery first. -/
def delivered : FrameQueue → List QueueOp → List FrameHandle := logged deliveredBy

variable {q : FrameQueue} {op : QueueOp} {ops : List QueueOp} {h : FrameHandle}

theorem performAll_append (q : FrameQueue) (ops ops' : List QueueOp) :
    q.performAll (ops ++ ops') = (q.performAll ops).performAll ops' := List.foldl_append

/-! ### Handles are given out in order -/

theorem last_perform (q : FrameQueue) (op : QueueOp) :
    (q.perform op).last = q.last + (q.issuedBy op).length := by
  cases op <;> rfl

theorem issuedBy_eq (q : FrameQueue) (op : QueueOp) :
    q.issuedBy op = List.range' (q.last + 1) (q.issuedBy op).length := by
  cases op <;> rfl

theorem issued_eq (q : FrameQueue) (ops : List QueueOp) :
    q.issued ops = List.range' (q.last + 1) (q.issued ops).length := by
  induction ops generalizing q with
  | nil => rfl
  | cons op ops ih =>
      have hnext : (q.perform op).issued ops =
          List.range' (q.last + 1 + (q.issuedBy op).length) ((q.perform op).issued ops).length := by
        rw [Nat.add_right_comm, ← last_perform]
        exact ih (q.perform op)
      calc q.issuedBy op ++ (q.perform op).issued ops
          = List.range' (q.last + 1) (q.issuedBy op).length ++
            List.range' (q.last + 1 + (q.issuedBy op).length)
              ((q.perform op).issued ops).length := by rw [← issuedBy_eq, ← hnext]
        _ = List.range' (q.last + 1)
              ((q.issuedBy op).length + ((q.perform op).issued ops).length) := List.range'_append_1
        _ = _ := by rw [← List.length_append]; rfl

/-! ### One operation -/

/-- The pending handles are in the order in which they were given out. -/
structure Ordered (q : FrameQueue) : Prop where
  increasing : q.pending.Pairwise (· < ·)
  le_last : ∀ h ∈ q.pending, h ≤ q.last

theorem ordered_fresh : Ordered {} := ⟨List.Pairwise.nil, fun _ h => absurd h List.not_mem_nil⟩

theorem Ordered.perform (hq : q.Ordered) (op : QueueOp) : (q.perform op).Ordered := by
  cases op with
  | request =>
      refine ⟨List.pairwise_append.mpr ⟨hq.increasing, List.pairwise_singleton _ _, ?_⟩, ?_⟩
      · intro a ha b hb
        rw [List.mem_singleton.mp hb]
        exact Nat.lt_succ_of_le (hq.le_last a ha)
      · intro a ha
        rcases List.mem_append.mp ha with ha | ha
        · exact (hq.le_last a ha).trans (Nat.le_succ _)
        · exact (List.mem_singleton.mp ha).le
  | cancel h =>
      exact ⟨hq.increasing.filter _, fun a ha => hq.le_last a (List.mem_of_mem_filter ha)⟩
  | takeDue => exact ⟨List.Pairwise.nil, fun a ha => absurd ha List.not_mem_nil⟩

theorem Ordered.performAll (hq : q.Ordered) (ops : List QueueOp) : (q.performAll ops).Ordered := by
  induction ops generalizing q with
  | nil => exact hq
  | cons op ops ih => exact ih (hq.perform op)

theorem Ordered.nodup (hq : q.Ordered) : q.pending.Nodup := hq.increasing.imp LT.lt.ne

theorem cancel_of_not_mem (hh : h ∉ q.pending) : q.cancel h = q := by
  have hkept : q.pending.filter (· ≠ h) = q.pending :=
    List.filter_eq_self.mpr fun a ha => decide_eq_true fun he => hh (he ▸ ha)
  unfold cancel
  rw [hkept]

/-- An operation loses no handle and makes none up. -/
theorem Ordered.perform_conserves (hq : q.Ordered) (op : QueueOp) :
    (q.pending ++ q.issuedBy op).Perm
      ((q.perform op).pending ++ (q.cancelledBy op ++ q.deliveredBy op)) := by
  cases op with
  | request =>
      show (q.pending ++ [q.last + 1]).Perm (q.pending ++ [q.last + 1] ++ [])
      rw [List.append_nil]
  | cancel h =>
      show (q.pending ++ []).Perm ((q.cancel h).pending ++ ((if h ∈ q.pending then [h] else []) ++ []))
      rw [List.append_nil, List.append_nil]
      split_ifs with hh
      · have herase : (q.cancel h).pending = q.pending.erase h := by
          rw [hq.nodup.erase_eq_filter]
          exact List.filter_congr fun a _ => by simp [bne, Bool.beq_eq_decide_eq]
        rw [herase]
        exact (List.perm_cons_erase hh).trans (List.perm_append_singleton h _).symm
      · rw [cancel_of_not_mem hh, List.append_nil]
  | takeDue => exact .of_eq (List.append_nil _)

/-! ### Whole runs -/

/-- The handles that are pending, cancelled or delivered in the end are those that were pending at first
or given out since. -/
theorem Ordered.conservation (hq : q.Ordered) (ops : List QueueOp) :
    (q.pending ++ q.issued ops).Perm
      ((q.performAll ops).pending ++ (q.cancelled ops ++ q.delivered ops)) := by
  induction ops generalizing q with
  | nil => exact .refl _
  | cons op ops ih =>
      refine List.perm_iff_count.mpr fun h => ?_
      have hstep := (hq.perform_conserves op).count_eq h
      have hrest := (ih (hq.perform op)).count_eq h
      show List.count h (q.pending ++ (q.issuedBy op ++ (q.perform op).issued ops)) =
        List.count h (((q.perform op).performAll ops).pending ++
          ((q.cancelledBy op ++ (q.perform op).cancelled ops) ++
            (q.deliveredBy op ++ (q.perform op).delivered ops)))
      simp only [List.count_append] at hstep hrest ⊢
      omega

theorem perform_sublist (q : FrameQueue) (op : QueueOp) :
    (q.perform op).pending.Sublist (q.pending ++ q.issuedBy op) := by
  cases op with
  | request => exact .refl _
  | cancel h => exact List.filter_sublist.trans (List.sublist_append_left _ _)
  | takeDue => exact List.nil_sublist _

/-- What is pending is pending in the order of the requests. -/
theorem pending_sublist (q : FrameQueue) (ops : List QueueOp) :
    (q.performAll ops).pending.Sublist (q.pending ++ q.issued ops) := by
  induction ops generalizing q with
  | nil => exact List.sublist_append_left _ _
  | cons op ops ih =>
      have hrest := (ih (q.perform op)).trans
        ((q.perform_sublist op).append_right ((q.perform op).issued ops))
      rwa [List.append_assoc] at hrest

/-! ### What is due -/

/-- The handle was given out to one of the requests and not cancelled after it. -/
def Outstanding (q : FrameQueue) (ops : List QueueOp) (h : FrameHandle) : Prop :=
  ∃ before after, ops = before ++ .request :: after ∧ (q.performAll before).request.1 = h ∧
    .cancel h ∉ after

theorem outstanding_concat :
    q.Outstanding (ops ++ [op]) h ↔
      q.Outstanding ops h ∧ op ≠ .cancel h ∨ op = .request ∧ (q.performAll ops).request.1 = h := by
  constructor
  · rintro ⟨before, after, hops, hissued, hkept⟩
    rcases after.eq_nil_or_concat' with rfl | ⟨after, op', rfl⟩
    · obtain ⟨rfl, hop⟩ := List.append_inj' hops rfl
      exact .inr ⟨List.singleton_inj.mp hop, hissued⟩
    · rw [← List.cons_append, ← List.append_assoc] at hops
      obtain ⟨rfl, hop⟩ := List.append_inj' hops rfl
      cases List.singleton_inj.mp hop
      simp only [List.mem_append, List.mem_singleton, not_or] at hkept
      exact .inl ⟨⟨before, after, rfl, hissued, hkept.1⟩, Ne.symm hkept.2⟩
  · rintro (⟨⟨before, after, rfl, hissued, hkept⟩, hop⟩ | ⟨rfl, hissued⟩)
    · refine ⟨before, after ++ [op], by simp, hissued, ?_⟩
      simp only [List.mem_append, List.mem_singleton, not_or]
      exact ⟨hkept, Ne.symm hop⟩
    · exact ⟨ops, [], rfl, hissued, List.not_mem_nil⟩

/-- As long as no frames are taken, the pending ones are those requested and not cancelled since. -/
theorem mem_pending_iff (hempty : q.pending = []) (hops : .takeDue ∉ ops) :
    h ∈ (q.performAll ops).pending ↔ q.Outstanding ops h := by
  induction ops using List.reverseRecOn with
  | nil => simp [performAll, hempty, Outstanding]
  | append_singleton ops op ih =>
      simp only [List.mem_append, List.mem_singleton, not_or] at hops
      rw [outstanding_concat, ← ih hops.1, performAll_append]
      show h ∈ ((q.performAll ops).perform op).pending ↔ _
      cases op with
      | request =>
          show h ∈ (q.performAll ops).pending ++ [(q.performAll ops).last + 1] ↔ _
          simp only [List.mem_append, List.mem_singleton, ne_eq, reduceCtorEq, not_false_eq_true,
            and_true, true_and]
          exact or_congr_right eq_comm
      | cancel h' =>
          show h ∈ (q.performAll ops).pending.filter (· ≠ h') ↔ _
          simp only [List.mem_filter, decide_eq_true_eq, ne_eq, QueueOp.cancel.injEq, reduceCtorEq,
            false_and, or_false]
          exact and_congr_right fun _ => not_congr eq_comm
      | takeDue => exact absurd rfl hops.2

/-- Nothing is pending at first, and nothing after frames were taken. -/
theorem pending_of_taken {before : List QueueOp}
    (h : before = [] ∨ before.getLast? = some .takeDue) : (performAll {} before).pending = [] := by
  rcases h with rfl | hlast
  · rfl
  · obtain ⟨before, rfl⟩ := List.getLast?_eq_some_iff.mp hlast
    rw [performAll_append]
    rfl

/-! ### The fate of a frame -/

/-- What may have become of a frame that was requested. -/
inductive Fate where
  | pending
  | cancelled
  | delivered

/-- After the operations on a fresh queue, the frame has the given fate: it waits, it was cancelled
while it waited, or it was delivered. -/
def HasFate (ops : List QueueOp) (h : FrameHandle) : Fate → Prop
  | .pending => h ∈ (performAll {} ops).pending
  | .cancelled => h ∈ cancelled {} ops
  | .delivered => h ∈ delivered {} ops

instance (ops : List QueueOp) (h : FrameHandle) : (fate : Fate) → Decidable (HasFate ops h fate)
  | .pending => inferInstanceAs (Decidable (h ∈ (performAll {} ops).pending))
  | .cancelled => inferInstanceAs (Decidable (h ∈ cancelled {} ops))
  | .delivered => inferInstanceAs (Decidable (h ∈ delivered {} ops))

theorem issued_increasing (q : FrameQueue) (ops : List QueueOp) :
    (q.issued ops).Pairwise (· < ·) := by
  rw [issued_eq]
  exact List.pairwise_lt_range'

theorem fates_nodup (ops : List QueueOp) :
    ((performAll {} ops).pending ++ (cancelled {} ops ++ delivered {} ops)).Nodup := by
  have hissued : (issued {} ops).Nodup := (issued_increasing {} ops).imp LT.lt.ne
  exact (ordered_fresh.conservation ops).nodup_iff.mp hissued

theorem mem_issued_iff : h ∈ issued {} ops ↔ ∃ fate, HasFate ops h fate := by
  have hmem := (ordered_fresh.conservation ops).mem_iff (a := h)
  simp only [List.mem_append] at hmem
  constructor
  · intro hissued
    rcases hmem.mp (.inr hissued) with hpending | hcancelled | hdelivered
    · exact ⟨.pending, hpending⟩
    · exact ⟨.cancelled, hcancelled⟩
    · exact ⟨.delivered, hdelivered⟩
  · rintro ⟨fate, hfate⟩
    refine (hmem.mpr ?_).resolve_left List.not_mem_nil
    cases fate with
    | pending => exact .inl hfate
    | cancelled => exact .inr (.inl hfate)
    | delivered => exact .inr (.inr hfate)

theorem HasFate.unique {fate fate' : Fate} (hfate : HasFate ops h fate) (hfate' : HasFate ops h fate') :
    fate = fate' := by
  obtain ⟨-, hrest, hpending⟩ := List.nodup_append.mp (fates_nodup ops)
  obtain ⟨-, -, hcancelled⟩ := List.nodup_append.mp hrest
  have hpc : HasFate ops h .pending → ¬ HasFate ops h .cancelled := fun hp hc =>
    hpending h hp h (List.mem_append_left _ hc) rfl
  have hpd : HasFate ops h .pending → ¬ HasFate ops h .delivered := fun hp hd =>
    hpending h hp h (List.mem_append_right _ hd) rfl
  have hcd : HasFate ops h .cancelled → ¬ HasFate ops h .delivered := fun hc hd =>
    hcancelled h hc h hd rfl
  cases fate <;> cases fate'
  case pending.cancelled => exact absurd hfate' (hpc hfate)
  case pending.delivered => exact absurd hfate' (hpd hfate)
  case cancelled.pending => exact absurd hfate (hpc hfate')
  case cancelled.delivered => exact absurd hfate' (hcd hfate)
  case delivered.pending => exact absurd hfate (hpd hfate')
  case delivered.cancelled => exact absurd hfate (hcd hfate')
  all_goals rfl

/-- **No frame is lost and none comes twice.**  After any operations on a fresh queue, the handles that were
given out increase, and each of them is pending, was cancelled while it was pending or was delivered, and
no two of these; no other handle is any of these, and none was delivered twice.  Frames that are taken are
those requested since the last time and not cancelled since, in the order of the requests.  To cancel
a handle that is not pending, be it an old one or one to come, does nothing. -/
theorem frames_conserved (ops : List QueueOp) :
    (issued {} ops).Pairwise (· < ·) ∧
    ((issued {} ops).length < 2 ^ 64 → ∀ h ∈ issued {} ops, h < 2 ^ 64) ∧
    (∀ h ∈ issued {} ops, ∃! fate, HasFate ops h fate) ∧
    (∀ h ∉ issued {} ops, ∀ fate, ¬ HasFate ops h fate) ∧
    (delivered {} ops).Nodup ∧
    (∀ before between rest, ops = before ++ between ++ .takeDue :: rest →
      (before = [] ∨ before.getLast? = some .takeDue) → .takeDue ∉ between →
      let q := performAll {} before
      let due := (q.performAll between).takeDue.1
      due.Sublist (q.issued between) ∧ ∀ h, h ∈ due ↔ q.Outstanding between h) ∧
    (∀ h ∉ (performAll {} ops).pending, (performAll {} ops).cancel h = performAll {} ops) := by
  refine ⟨issued_increasing {} ops, ?_, ?_, ?_, ?_, ?_, fun h => cancel_of_not_mem⟩
  · intro hlength h hh
    rw [issued_eq, List.mem_range'_1] at hh
    have hle : h ≤ (issued {} ops).length := Nat.lt_succ_iff.mp (hh.2.trans_eq (Nat.add_comm 1 _))
    exact hle.trans_lt hlength
  · intro h hissued
    obtain ⟨fate, hfate⟩ := mem_issued_iff.mp hissued
    exact ⟨fate, hfate, fun fate' hfate' => hfate'.unique hfate⟩
  · intro h hissued fate hfate
    exact hissued (mem_issued_iff.mpr ⟨fate, hfate⟩)
  · exact (fates_nodup ops).of_append_right.of_append_right
  · intro before between rest _ htaken hbetween
    have hempty := pending_of_taken htaken
    have hsublist := pending_sublist (performAll {} before) between
    rw [hempty] at hsublist
    exact ⟨hsublist, fun h => mem_pending_iff hempty hbetween⟩

/-- A handle that is cancelled before it is given out is delivered all the same, one that was cancelled
while it was pending is not, and one that was delivered cannot be cancelled any more. -/
theorem frames_conserved_ahead :
    let ops : List QueueOp :=
      [.request, .request, .cancel 3, .request, .cancel 1, .takeDue, .cancel 2, .request]
    issued {} ops = [1, 2, 3, 4] ∧ delivered {} ops = [2, 3] ∧
      (∀ fate, HasFate ops 1 fate → fate = .cancelled) ∧
      (∀ fate, HasFate ops 2 fate → fate = .delivered) ∧
      (∀ fate, HasFate ops 4 fate → fate = .pending) ∧
      (∀ h, h ∈ [2, 3] ↔ Outstanding {} [.request, .request, .cancel 3, .request, .cancel 1] h) ∧
      (performAll {} ops).cancel 2 = performAll {} ops := by
  intro ops
  obtain ⟨-, -, hfate, -, -, hdue, hcancel⟩ := frames_conserved ops
  have hone : HasFate ops 1 .cancelled := by decide
  have htwo : HasFate ops 2 .delivered := by decide
  have hfour : HasFate ops 4 .pending := by decide
  refine ⟨rfl, rfl, fun fate h => ?_, fun fate h => ?_, fun fate h => ?_, ?_, hcancel 2 (by decide)⟩
  · exact (hfate 1 (by decide)).unique h hone
  · exact (hfate 2 (by decide)).unique h htwo
  · exact (hfate 4 (by decide)).unique h hfour
  · exact (hdue [] [.request, .request, .cancel 3, .request, .cancel 1] [.cancel 2, .request] rfl
      (.inl rfl) (by decide)).2

end FrameQueue

end Broadphase
