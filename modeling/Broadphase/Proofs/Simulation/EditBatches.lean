import Broadphase.Simulation.Loop
import Mathlib

/-! # What a batch of edits leaves

Identifiers may repeat and come back after a removal, so a body is named by when and where it entered the
collection (`Entrant`).  Who is in the collection after some edits is said without running them
(`live`), and so is by which edits a body was dragged (`Dragged`).  Both are followed over one more edit
(`live_concat`, `dragged_concat`); from this, by induction over the batch, the bodies that it leaves are
the live ones in the order in which they entered, each as the last edit that dragged it left it
(`settled_applyAll`).  `batch_leaves` puts this together with the count of edits and with batches that are
cut in two. -/

namespace Broadphase

namespace Edit

/-! ### Who is in the collection -/

/-- A body that entered the collection: how many edits had been done when it was in, and its place among
the bodies that entered with it.  These two tell bodies apart that are equal otherwise. -/
structure Entrant where
  moment : ℕ
  place : ℕ
  body : Body

/-- The bodies that enter together. -/
def enter (moment : ℕ) (bodies : List Body) : List Entrant :=
  bodies.zipIdx.map fun (b, place) => { moment, place, body := b }

/-- When all bodies were replaced for the last time, and by which ones; if they never were, the
bodies at first. -/
def start (bodies : List Body) (edits : List Edit) : ℕ × List Body :=
  (edits.zipIdx.filterMap fun
    | (.replaceAll next, t) => some (t + 1, next)
    | _ => none).getLast?.getD (0, bodies)

/-- The bodies that are spawned after the first `moment` edits. -/
def spawnedAfter (moment : ℕ) (edits : List Edit) : List Entrant :=
  (edits.zipIdx.drop moment).filterMap fun
    | (.spawn b, t) => some { moment := t + 1, place := 0, body := b }
    | _ => none

/-- The bodies that entered since all were replaced for the last time. -/
def entrants (bodies : List Body) (edits : List Edit) : List Entrant :=
  enter (start bodies edits).1 (start bodies edits).2 ++ spawnedAfter (start bodies edits).1 edits

/-- The edit removes the bodies with the given identifier. -/
def removes (id : UInt64) : Edit → Bool
  | .remove id' => id' = id
  | _ => false

/-- No edit after the body entered removes it. -/
def kept (edits : List Edit) (e : Entrant) : Bool := !(edits.drop e.moment).any (removes e.body.id)

/-- The bodies that are in the collection after the edits, as they entered. -/
def live (bodies : List Body) (edits : List Edit) : List Entrant :=
  (entrants bodies edits).filter (kept edits)

variable {bounds : Bounds} {bodies : List Body} {edits : List Edit} {e : Entrant}

/-! ### One more edit -/

theorem start_concat (bodies : List Body) (edits : List Edit) (edit : Edit) :
    start bodies (edits ++ [edit]) = match edit with
      | .replaceAll next => (edits.length + 1, next)
      | _ => start bodies edits := by
  unfold start
  rw [List.zipIdx_append, List.filterMap_append, Nat.zero_add]
  cases edit <;> simp

theorem start_le (bodies : List Body) (edits : List Edit) : (start bodies edits).1 ≤ edits.length := by
  induction edits using List.reverseRecOn with
  | nil => exact le_rfl
  | append_singleton edits edit ih =>
      rw [start_concat, List.length_append]
      cases edit with
      | replaceAll next => exact le_rfl
      | _ => exact ih.trans (Nat.le_add_right _ _)

theorem spawnedAfter_concat {moment : ℕ} (h : moment ≤ edits.length) (edit : Edit) :
    spawnedAfter moment (edits ++ [edit]) = spawnedAfter moment edits ++ match edit with
      | .spawn b => [{ moment := edits.length + 1, place := 0, body := b }]
      | _ => [] := by
  unfold spawnedAfter
  rw [List.zipIdx_append, List.drop_append_of_le_length (by simpa using h), List.filterMap_append,
    Nat.zero_add]
  cases edit <;> simp

theorem entrants_concat (bodies : List Body) (edits : List Edit) (edit : Edit) :
    entrants bodies (edits ++ [edit]) = match edit with
      | .replaceAll next => enter (edits.length + 1) next
      | .spawn b => entrants bodies edits ++ [{ moment := edits.length + 1, place := 0, body := b }]
      | _ => entrants bodies edits := by
  have hstart := start_le bodies edits
  unfold entrants
  rw [start_concat]
  cases edit with
  | replaceAll next =>
      have hnone : spawnedAfter (edits.length + 1) (edits ++ [.replaceAll next]) = [] := by
        unfold spawnedAfter
        rw [List.drop_eq_nil_of_le (by simp)]
        rfl
      simp only [hnone, List.append_nil]
  | spawn b => simp only [spawnedAfter_concat hstart, List.append_assoc]
  | remove id => simp only [spawnedAfter_concat hstart, List.append_nil]
  | drag id x y => simp only [spawnedAfter_concat hstart, List.append_nil]

theorem moment_of_mem_enter {moment : ℕ} (h : e ∈ enter moment bodies) : e.moment = moment := by
  obtain ⟨_, -, rfl⟩ := List.mem_map.mp h
  rfl

theorem entrants_nil (bodies : List Body) : entrants bodies [] = enter 0 bodies := List.append_nil _

theorem moment_le (h : e ∈ entrants bodies edits) : e.moment ≤ edits.length := by
  induction edits using List.reverseRecOn with
  | nil =>
      rw [entrants_nil] at h
      exact (moment_of_mem_enter h).le
  | append_singleton edits edit ih =>
      rw [entrants_concat] at h
      rw [List.length_append, List.length_singleton]
      cases edit with
      | replaceAll next => exact (moment_of_mem_enter h).le
      | spawn b =>
          rcases List.mem_append.mp h with h | h
          · exact (ih h).trans (Nat.le_succ _)
          · rw [List.mem_singleton.mp h]
      | _ => exact (ih h).trans (Nat.le_succ _)

theorem kept_concat (h : e.moment ≤ edits.length) (edit : Edit) :
    kept (edits ++ [edit]) e = (kept edits e && !edit.removes e.body.id) := by
  unfold kept
  rw [List.drop_append_of_le_length h, List.any_append, Bool.not_or]
  simp

theorem kept_of_length_le (h : edits.length ≤ e.moment) : kept edits e := by
  unfold kept
  rw [List.drop_eq_nil_of_le h]
  rfl

theorem live_concat (bodies : List Body) (edits : List Edit) (edit : Edit) :
    live bodies (edits ++ [edit]) = match edit with
      | .replaceAll next => enter (edits.length + 1) next
      | .spawn b => live bodies edits ++ [{ moment := edits.length + 1, place := 0, body := b }]
      | .remove id => (live bodies edits).filter fun e => e.body.id ≠ id
      | .drag .. => live bodies edits := by
  -- of the entrants from before, those stay live that the edit does not remove
  have hold : (entrants bodies edits).filter (kept (edits ++ [edit])) =
      (live bodies edits).filter fun e => !edit.removes e.body.id := by
    rw [live, List.filter_filter]
    refine List.filter_congr fun e he => ?_
    rw [kept_concat (moment_le he), Bool.and_comm]
  have hnew (e : Entrant) (he : e.moment = edits.length + 1) : kept (edits ++ [edit]) e :=
    kept_of_length_le (by rw [he, List.length_append]; rfl)
  rw [live, entrants_concat]
  cases edit with
  | replaceAll next =>
      exact List.filter_eq_self.mpr fun e he => hnew e (moment_of_mem_enter he)
  | spawn b =>
      rw [List.filter_append, hold]
      exact congrArg₂ (· ++ ·) (List.filter_eq_self.mpr fun _ _ => rfl)
        (List.filter_eq_self.mpr fun e he => hnew e (by rw [List.mem_singleton.mp he]))
  | remove id =>
      rw [hold]
      exact List.filter_congr fun e _ => by simp [removes, eq_comm]
  | drag id x y =>
      rw [hold]
      exact List.filter_eq_self.mpr fun _ _ => rfl

theorem live_nil (bodies : List Body) : live bodies [] = enter 0 bodies := by
  rw [live, entrants_nil]
  exact List.filter_eq_self.mpr fun e he => kept_of_length_le (Nat.zero_le _)

theorem moment_le_of_live (h : e ∈ live bodies edits) : e.moment ≤ edits.length :=
  moment_le (List.mem_of_mem_filter h)

/-! ### Entrants are told apart -/

/-- One body entered before the other, or at the same time and before it in place. -/
def Entrant.Before (e e' : Entrant) : Prop :=
  e.moment < e'.moment ∨ e.moment = e'.moment ∧ e.place < e'.place

theorem enter_pairwise (moment : ℕ) (bodies : List Body) :
    (enter moment bodies).Pairwise Entrant.Before := by
  have hplaces : (bodies.zipIdx.map Prod.snd).Pairwise (· < ·) := by
    rw [List.zipIdx_map_snd]
    exact List.pairwise_lt_range'
  exact List.pairwise_map.mpr ((List.pairwise_map.mp hplaces).imp fun h => .inr ⟨rfl, h⟩)

theorem live_pairwise (bodies : List Body) (edits : List Edit) :
    (live bodies edits).Pairwise Entrant.Before := by
  induction edits using List.reverseRecOn with
  | nil =>
      rw [live_nil]
      exact enter_pairwise 0 bodies
  | append_singleton edits edit ih =>
      rw [live_concat]
      cases edit with
      | replaceAll next => exact enter_pairwise _ next
      | spawn b =>
          refine List.pairwise_append.mpr ⟨ih, List.pairwise_singleton _ _, ?_⟩
          intro e he e' he'
          rw [List.mem_singleton.mp he']
          exact .inl (Nat.lt_succ_of_le (moment_le_of_live he))
      | remove id => exact ih.filter _
      | drag id x y => exact ih

theorem live_nodup (bodies : List Body) (edits : List Edit) : (live bodies edits).Nodup := by
  refine (live_pairwise bodies edits).imp ?_
  rintro e _ h rfl
  rcases h with h | ⟨-, h⟩
  · exact lt_irrefl _ h
  · exact lt_irrefl _ h

/-! ### What edits do to the bodies that are in -/

/-- The edit at time `t` drags the entrant: it has a finite target, and the entrant is the first of
those that are in with the identifier that it names. -/
structure Dragged (bodies : List Body) (edits : List Edit) (e : Entrant) (t : ℕ) (x y : Float) : Prop where
  edit : edits[t]? = some (.drag e.body.id x y)
  later : e.moment ≤ t
  finite : x.isFinite ∧ y.isFinite
  first : (live bodies (edits.take t)).find? (·.body.id = e.body.id) = some e

variable {t : ℕ} {x y : Float}

theorem Dragged.lt (h : Dragged bodies edits e t x y) : t < edits.length :=
  (List.getElem?_eq_some_iff.mp h.edit).1

theorem dragged_concat {edit : Edit} :
    Dragged bodies (edits ++ [edit]) e t x y ↔ Dragged bodies edits e t x y ∨
      t = edits.length ∧ edit = .drag e.body.id x y ∧ (x.isFinite ∧ y.isFinite) ∧
        (live bodies edits).find? (·.body.id = e.body.id) = some e := by
  rcases lt_trichotomy t edits.length with hlt | rfl | hgt
  · have hget : (edits ++ [edit])[t]? = edits[t]? := List.getElem?_append_left hlt
    have htake : (edits ++ [edit]).take t = edits.take t := List.take_append_of_le_length hlt.le
    constructor
    · intro h
      exact .inl ⟨hget ▸ h.edit, h.later, h.finite, htake ▸ h.first⟩
    · rintro (h | ⟨rfl, -⟩)
      · exact ⟨hget.trans h.edit, h.later, h.finite, htake.symm ▸ h.first⟩
      · exact absurd hlt (lt_irrefl _)
  · have hget : (edits ++ [edit])[edits.length]? = some edit := List.getElem?_concat_length
    have htake : (edits ++ [edit]).take edits.length = edits := List.take_left
    constructor
    · intro h
      exact .inr ⟨rfl, Option.some.inj (hget.symm.trans h.edit), h.finite, htake ▸ h.first⟩
    · rintro (h | ⟨-, rfl, hfinite, hfirst⟩)
      · exact absurd h.lt (lt_irrefl _)
      · have hlive : e ∈ live bodies edits := List.mem_of_find?_eq_some hfirst
        exact ⟨hget, moment_le_of_live hlive, hfinite, htake.symm ▸ hfirst⟩
  · constructor
    · intro h
      have hlt := h.lt
      rw [List.length_append, List.length_singleton] at hlt
      omega
    · rintro (h | ⟨rfl, -⟩)
      · exact absurd h.lt hgt.not_gt
      · exact absurd hgt (lt_irrefl _)

/-- What has become of an entrant: apart from its corner and its velocity it is the body that entered, and
these are as the last edit that dragged it left them. -/
structure Settled (bounds : Bounds) (bodies : List Body) (edits : List Edit) (e : Entrant) (b : Body) :
    Prop where
  rest : b = { e.body.moveTo b.rect.x b.rect.y with vx := b.vx, vy := b.vy }
  /-- Only a body that was dragged is not as it entered. -/
  moved : b ≠ e.body → ∃ t x y, Dragged bodies edits e t x y
  /-- A body that was dragged is where the last edit that did it put it. -/
  dragged : ∀ t x y, Dragged bodies edits e t x y →
    (∀ t' x' y', Dragged bodies edits e t' x' y' → t' ≤ t) → b = dragTo bounds x y e.body

theorem Settled.id_eq {b : Body} (h : Settled bounds bodies edits e b) : b.id = e.body.id :=
  (congrArg Body.id h.rest).trans rfl

/-- A body that has just entered. -/
theorem settled_of_length_le (h : edits.length ≤ e.moment) : Settled bounds bodies edits e e.body where
  rest := rfl
  moved := fun hne => absurd rfl hne
  dragged := fun _ _ _ hd _ => absurd (h.trans hd.later) hd.lt.not_ge

/-- An edit that does not drag the entrant leaves it as it was. -/
theorem Settled.concat {b : Body} {edit : Edit} (h : Settled bounds bodies edits e b)
    (hedit : ∀ x y, ¬ Dragged bodies (edits ++ [edit]) e edits.length x y) :
    Settled bounds bodies (edits ++ [edit]) e b := by
  have hsame (t : ℕ) (x y : Float) :
      Dragged bodies (edits ++ [edit]) e t x y ↔ Dragged bodies edits e t x y := by
    constructor
    · intro hd
      rcases dragged_concat.mp hd with hd' | ⟨rfl, -⟩
      · exact hd'
      · exact absurd hd (hedit x y)
    · exact fun hd => dragged_concat.mpr (.inl hd)
  refine ⟨h.rest, ?_, ?_⟩
  · simpa only [hsame] using h.moved
  · simpa only [hsame] using h.dragged

theorem dragged_now {edit : Edit} (h : Dragged bodies (edits ++ [edit]) e edits.length x y) :
    edit = .drag e.body.id x y ∧ (x.isFinite ∧ y.isFinite) ∧
      (live bodies edits).find? (·.body.id = e.body.id) = some e := by
  rcases dragged_concat.mp h with h | ⟨-, h⟩
  · exact absurd h.lt (lt_irrefl _)
  · exact h

/-- Where a body is dragged to does not depend on where it was. -/
theorem dragTo_of_rest {a b : Body} (hx : x.isFinite ∧ y.isFinite)
    (h : b = { a.moveTo b.rect.x b.rect.y with vx := b.vx, vy := b.vy }) :
    dragTo bounds x y b = dragTo bounds x y a := by
  rw [h]
  unfold dragTo
  rw [if_pos hx, if_pos hx]
  rfl

theorem dragTo_rest (bounds : Bounds) (x y : Float) (b : Body) :
    let moved := dragTo bounds x y b
    moved = { b.moveTo moved.rect.x moved.rect.y with vx := moved.vx, vy := moved.vy } := by
  unfold dragTo
  by_cases hfinite : x.isFinite ∧ y.isFinite
  · simp only [if_pos hfinite]
    rfl
  · simp only [if_neg hfinite]
    rfl

theorem Settled.drag {b : Body} (h : Settled bounds bodies edits e b)
    (hfirst : (live bodies edits).find? (·.body.id = e.body.id) = some e) :
    Settled bounds bodies (edits ++ [.drag e.body.id x y]) e (dragTo bounds x y b) := by
  by_cases hfinite : x.isFinite ∧ y.isFinite
  · have hnow : Dragged bodies (edits ++ [.drag e.body.id x y]) e edits.length x y :=
      dragged_concat.mpr (.inr ⟨rfl, rfl, hfinite, hfirst⟩)
    rw [dragTo_of_rest hfinite h.rest]
    refine ⟨dragTo_rest bounds x y e.body, fun _ => ⟨_, x, y, hnow⟩, ?_⟩
    intro t x' y' hd hlast
    rcases dragged_concat.mp hd with hd' | ⟨-, hedit, -⟩
    · exact absurd (hlast _ _ _ hnow) hd'.lt.not_ge
    · cases hedit
      rfl
  · have hstay : dragTo bounds x y b = b := if_neg hfinite
    rw [hstay]
    refine h.concat fun x' y' hd => ?_
    obtain ⟨hedit, hfinite', -⟩ := dragged_now hd
    cases hedit
    exact hfinite hfinite'

/-- If bodies correspond to entrants and have their identifiers, the first body with an identifier is that
of the first entrant with it. -/
theorem forall₂_modifyFirst {R S : Entrant → Body → Prop} {id : UInt64} {f : Body → Body}
    {present : List Entrant} {bodies : List Body} (h : List.Forall₂ R present bodies)
    (hnodup : present.Nodup) (hid : ∀ e b, R e b → b.id = e.body.id)
    (hfirst : ∀ e b, present.find? (·.body.id = id) = some e → R e b → S e (f b))
    (hother : ∀ e b, present.find? (·.body.id = id) ≠ some e → R e b → S e b) :
    List.Forall₂ S present (modifyFirst id f bodies) := by
  induction h with
  | nil => exact .nil
  | @cons e b present bodies hb h ih =>
      obtain ⟨hnotMem, hnodup⟩ := List.nodup_cons.mp hnodup
      unfold modifyFirst
      by_cases hbid : b.id = id
      · have hfound : (e :: present).find? (·.body.id = id) = some e :=
          List.find?_cons_of_pos (decide_eq_true ((hid e b hb).symm.trans hbid))
        rw [if_pos hbid]
        refine .cons (hfirst e b hfound hb) ?_
        have hrest : List.Forall₂ (fun e' b' => e' ≠ e ∧ R e' b') present bodies :=
          (List.forall₂_and_left _ _).mpr ⟨fun e' he' => ne_of_mem_of_not_mem he' hnotMem, h⟩
        refine hrest.imp fun e' b' hb' => hother e' b' ?_ hb'.2
        rw [hfound]
        exact fun heq => hb'.1 (Option.some.inj heq).symm
      · have hskip : (e :: present).find? (·.body.id = id) = present.find? (·.body.id = id) :=
          List.find?_cons_of_neg (by simpa [← hid e b hb] using hbid)
        rw [hskip] at hfirst hother
        rw [if_neg hbid]
        refine .cons (hother e b ?_ hb) (ih hnodup hfirst hother)
        exact fun hfound => hnotMem (List.mem_of_find?_eq_some hfound)

/-! ### Whole batches -/

theorem applyAll_append (bounds : Bounds) (first second : List Edit) (bodies : List Body) :
    applyAll bounds (first ++ second) bodies =
      ((applyAll bounds second (applyAll bounds first bodies).1).1,
        (applyAll bounds first bodies).2 +
          (applyAll bounds second (applyAll bounds first bodies).1).2) := by
  induction first generalizing bodies with
  | nil => simp [applyAll]
  | cons edit first ih =>
      simp only [List.cons_append, applyAll, ih, Nat.add_assoc]

theorem applyAll_concat (bounds : Bounds) (edits : List Edit) (edit : Edit) (bodies : List Body) :
    applyAll bounds (edits ++ [edit]) bodies =
      ((edit.apply bounds (applyAll bounds edits bodies).1).1, (applyAll bounds edits bodies).2 +
        if (edit.apply bounds (applyAll bounds edits bodies).1).2 then 1 else 0) :=
  applyAll_append bounds edits [edit] bodies

theorem settled_enter {moment : ℕ} (h : edits.length ≤ moment) (entering : List Body) :
    List.Forall₂ (Settled bounds bodies edits) (enter moment entering) entering := by
  have hself : List.Forall₂ (Settled bounds bodies edits) (enter moment entering)
      (entering.zipIdx.map Prod.fst) := by
    rw [enter, List.forall₂_map_left_iff, List.forall₂_map_right_iff, List.forall₂_same]
    exact fun _ _ => settled_of_length_le h
  rwa [List.zipIdx_map_fst] at hself

/-- The bodies after a batch are the entrants that are in, in their order, each as it has become. -/
theorem settled_applyAll (bounds : Bounds) (bodies : List Body) (edits : List Edit) :
    List.Forall₂ (Settled bounds bodies edits) (live bodies edits) (applyAll bounds edits bodies).1 := by
  induction edits using List.reverseRecOn with
  | nil =>
      rw [live_nil]
      exact settled_enter le_rfl bodies
  | append_singleton edits edit ih =>
      rw [live_concat, applyAll_concat]
      cases edit with
      | replaceAll next => exact settled_enter (List.length_append ..).le next
      | spawn b =>
          refine List.rel_append ?_ ?_
          · exact ih.imp fun e b h => h.concat fun x y hd => by cases (dragged_now hd).1
          · exact .cons (settled_of_length_le (List.length_append ..).le) .nil
      | remove id =>
          have hstay : List.Forall₂ (Settled bounds bodies (edits ++ [.remove id])) (live bodies edits)
              (applyAll bounds edits bodies).1 :=
            ih.imp fun e b h => h.concat fun x y hd => by cases (dragged_now hd).1
          refine List.rel_filter (fun e b h => ?_) hstay
          simp [h.id_eq]
      | drag id x y =>
          refine forall₂_modifyFirst ih (live_nodup bodies edits) (fun e b h => h.id_eq) ?_ ?_
          · intro e b hfound h
            obtain rfl : e.body.id = id := by simpa using List.find?_some hfound
            exact h.drag hfound
          · intro e b hother h
            refine h.concat fun x' y' hd => ?_
            obtain ⟨hedit, -, hfound⟩ := dragged_now hd
            cases hedit
            exact hother hfound

/-! ### The count -/

/-- The edit concerns someone: it brings bodies in, or it names an identifier that a body has. -/
def concerns (present : List Entrant) : Edit → Bool
  | .spawn _ => true
  | .replaceAll _ => true
  | .remove id => present.any (·.body.id = id)
  | .drag id _ _ => present.any (·.body.id = id)

theorem any_id_of_settled {present : List Entrant} {after : List Body} (id : UInt64)
    (h : List.Forall₂ (Settled bounds bodies edits) present after) :
    after.any (·.id = id) = present.any (·.body.id = id) := by
  induction h with
  | nil => rfl
  | cons hb _ ih => rw [List.any_cons, List.any_cons, ih, hb.id_eq]

theorem apply_snd_eq_concerns (bounds : Bounds) (bodies : List Body) (edits : List Edit) (edit : Edit) :
    (edit.apply bounds (applyAll bounds edits bodies).1).2 = edit.concerns (live bodies edits) := by
  have hany (id : UInt64) := any_id_of_settled id (settled_applyAll bounds bodies edits)
  cases edit with
  | spawn b => rfl
  | remove id => exact hany id
  | drag id x y => exact hany id
  | replaceAll next => rfl

theorem applyAll_count (bounds : Bounds) (bodies : List Body) (edits : List Edit) :
    (applyAll bounds edits bodies).2 =
      edits.zipIdx.countP fun (edit, t) => edit.concerns (live bodies (edits.take t)) := by
  induction edits using List.reverseRecOn with
  | nil => rfl
  | append_singleton edits edit ih =>
      rw [applyAll_concat, apply_snd_eq_concerns, List.zipIdx_append, List.countP_append, ih]
      refine congrArg₂ (· + ·) (List.countP_congr ?_) ?_
      · rintro ⟨edit', t⟩ hmem
        have hlt : t < edits.length := (List.mem_zipIdx' hmem).1
        simp only [List.take_append_of_le_length hlt.le]
      · rw [List.zipIdx_singleton, List.countP_singleton, Nat.zero_add]
        simp only [List.take_left]

/-- **What a batch of edits leaves.**  The bodies after a batch are those of the last replacement, or else
those from before it, followed by the spawned ones, without those that were removed after they entered; they
stand in the order in which they entered.  Nothing but corner and velocity changes, and only of a body that
a later edit with a finite target dragged while it was the first one with its identifier; the last such edit
tells where it is.  Counted are the edits that bring bodies in or name a body that is there.  A batch may be
cut in two, and a loop has no edits left after it. -/
theorem batch_leaves (bounds : Bounds) (bodies : List Body) (edits : List Edit) :
    List.Forall₂ (Settled bounds bodies edits) (live bodies edits) (applyAll bounds edits bodies).1 ∧
    (live bodies edits).Pairwise Entrant.Before ∧
    (applyAll bounds edits bodies).2 =
      (edits.zipIdx.countP fun (edit, t) => edit.concerns (live bodies (edits.take t))) ∧
    (∀ first second, edits = first ++ second →
      let after := applyAll bounds first bodies
      applyAll bounds edits bodies =
        ((applyAll bounds second after.1).1, after.2 + (applyAll bounds second after.1).2)) ∧
    (∀ l : Loop, l.config.bounds = bounds → l.bodies = bodies → l.edits = edits →
      l.applyEdits = { l with bodies := (applyAll bounds edits bodies).1, edits := [] }) := by
  refine ⟨settled_applyAll bounds bodies edits, live_pairwise bodies edits,
    applyAll_count bounds bodies edits, ?_, ?_⟩
  · rintro first second rfl
    exact applyAll_append bounds first second bodies
  · rintro l rfl rfl rfl
    rfl

/-- Two equal bodies of which the first is dragged, by the second edit only since the target of the first one
is no number; and a body that is spawned, removed and spawned again. -/
theorem batch_leaves_twins :
    ∃ (twin other : Body) (edits : List Edit) (first : Entrant) (b : Body),
      edits = [.drag 1 (0 / 0) 0, .drag 1 100 50, .spawn other, .remove 2, .spawn other, .remove 9] ∧
      (live [twin, twin] edits).map (fun e => (e.moment, e.place)) = [(0, 0), (0, 1), (5, 0)] ∧
      (applyAll {} edits [twin, twin]).2 = 5 ∧ (applyAll {} edits [twin, twin]).1.head? = some b ∧
      first.body = twin ∧ b ≠ twin ∧ ∃ t x y, Dragged [twin, twin] edits first t x y := by
  obtain ⟨hsettled, -, hcount, -⟩ := batch_leaves {}
    [⟨1, ⟨0, 0, 10, 10, by decide⟩, 3, 0, 1, false, false, by decide⟩,
      ⟨1, ⟨0, 0, 10, 10, by decide⟩, 3, 0, 1, false, false, by decide⟩]
    [.drag 1 (0 / 0) 0, .drag 1 100 50,
      .spawn ⟨2, ⟨0, 0, 10, 10, by decide⟩, 0, 0, 1, false, false, by decide⟩, .remove 2,
      .spawn ⟨2, ⟨0, 0, 10, 10, by decide⟩, 0, 0, 1, false, false, by decide⟩, .remove 9]
  obtain ⟨hfirst, -⟩ := List.forall₂_cons.mp hsettled
  refine ⟨_, _, _, _, _, rfl, rfl, hcount.trans rfl, rfl, rfl, ?_, hfirst.moved ?_⟩
  · decide +kernel
  · decide +kernel

end Edit

end Broadphase
