import Broadphase.Proofs.Sampling.Spawn

/-! # Sets of different size from one seed

How many numbers a draw takes from the generator depends on what was drawn before, since an empty range
takes none.  So a longer run of draws agrees with a shorter one only because it passes through the state in
which the shorter one ends: a run that succeeded can be resumed there (`drawMany_resume`), and one that
failed fails for good (`drawMany_fails`).  Drawn values are never touched again (`drawMany_extends`).

`PrefixStable` says what follows for lists that are generated for every count, and both bodies and
rectangles have it (`generated_prefixes`). -/

namespace Broadphase

theorem map_eq_error_iff {ε α β : Type} {f : α → β} {x : Except ε α} {e : ε} :
    x.map f = .error e ↔ x = .error e := by
  cases x <;> simp [Except.map]

namespace ShapeRanges

section runs
variable {α : Type} {draw : ℕ → Random → Except GeometryError (α × Random)} {n : ℕ} {g : Random}
  {drawn all : Array α}

/-! ### Runs of draws -/

/-- A run of draws succeeds if its first draw does and the others do after it. -/
theorem drawMany_succ_eq_ok_iff : drawMany draw (n + 1) g drawn = .ok all ↔
    ∃ a g', draw drawn.size g = .ok (a, g') ∧ drawMany draw n g' (drawn.push a) = .ok all := by
  rw [drawMany]
  cases hdraw : draw drawn.size g with
  | error e =>
      constructor
      · intro h
        cases h
      · rintro ⟨a, g', h, -⟩
        cases h
  | ok p =>
      constructor
      · intro h
        exact ⟨p.1, p.2, rfl, h⟩
      · rintro ⟨a, g', h, hrest⟩
        cases h
        exact hrest

theorem drawMany_succ_eq_error_iff {e : GeometryError} :
    drawMany draw (n + 1) g drawn = .error e ↔ draw drawn.size g = .error e ∨
      ∃ a g', draw drawn.size g = .ok (a, g') ∧ drawMany draw n g' (drawn.push a) = .error e := by
  rw [drawMany]
  cases hdraw : draw drawn.size g with
  | error e' => simp
  | ok p =>
      obtain ⟨a, g'⟩ := p
      simp

/-- A run that succeeded ends in a state from which every longer run goes on. -/
theorem drawMany_resume (h : drawMany draw n g drawn = .ok all) :
    ∃ g', ∀ k, drawMany draw (n + k) g drawn = drawMany draw k g' all := by
  induction n generalizing g drawn with
  | zero =>
      cases h
      exact ⟨g, fun k => by rw [Nat.zero_add]⟩
  | succ n ih =>
      obtain ⟨a, g₁, hdraw, hrest⟩ := drawMany_succ_eq_ok_iff.mp h
      obtain ⟨g', hresume⟩ := ih hrest
      refine ⟨g', fun k => ?_⟩
      rw [Nat.succ_add, drawMany, hdraw]
      exact hresume k

/-- A run that failed fails with every larger count, in the same way. -/
theorem drawMany_fails {e : GeometryError} (h : drawMany draw n g drawn = .error e) (k : ℕ) :
    drawMany draw (n + k) g drawn = .error e := by
  induction n generalizing g drawn with
  | zero => cases h
  | succ n ih =>
      rw [Nat.succ_add, drawMany_succ_eq_error_iff]
      rcases drawMany_succ_eq_error_iff.mp h with hfirst | ⟨a, g', hdraw, hrest⟩
      · exact .inl hfirst
      · exact .inr ⟨a, g', hdraw, ih hrest⟩

/-- A run keeps what was drawn before it and adds as many values as it is asked for. -/
theorem drawMany_extends (h : drawMany draw n g drawn = .ok all) :
    drawn.toList <+: all.toList ∧ all.size = drawn.size + n := by
  induction n generalizing g drawn with
  | zero =>
      cases h
      exact ⟨List.prefix_rfl, rfl⟩
  | succ n ih =>
      obtain ⟨a, g', -, hrest⟩ := drawMany_succ_eq_ok_iff.mp h
      obtain ⟨hbegins, hsize⟩ := ih hrest
      rw [Array.toList_push] at hbegins
      rw [Array.size_push] at hsize
      exact ⟨(List.prefix_append _ _).trans hbegins, by omega⟩

/-- If a draw that succeeds yields a value that fits its number, so does a run of them. -/
theorem drawMany_fits {Fits : ℕ → α → Prop} (hdraw : ∀ k g a g', draw k g = .ok (a, g') → Fits k a)
    (hdrawn : EachFits Fits drawn) (h : drawMany draw n g drawn = .ok all) : EachFits Fits all := by
  induction n generalizing g drawn with
  | zero =>
      cases h
      exact hdrawn
  | succ n ih =>
      obtain ⟨a, g', ha, hrest⟩ := drawMany_succ_eq_ok_iff.mp h
      exact ih (hdrawn.push (hdraw _ _ _ _ ha)) hrest

end runs

/-! ### Lists for every count -/

/-- Lists that are generated for every count, such that a longer one begins with the shorter ones. -/
structure PrefixStable {α : Type} (generate : ℕ → Except GeometryError (List α)) : Prop where
  /-- A list has as many values as were asked for, and smaller counts yield its first values. -/
  take : ∀ {m : ℕ} {all : List α}, generate m = .ok all →
    all.length = m ∧ ∀ n ≤ m, generate n = .ok (all.take n)
  /-- If a count fails, larger counts fail in the same way. -/
  fails : ∀ {n : ℕ} {e : GeometryError}, generate n = .error e → ∀ m, n ≤ m → generate m = .error e

theorem prefixStable_error {α : Type} (e : GeometryError) :
    PrefixStable fun _ => (.error e : Except GeometryError (List α)) where
  take h := by cases h
  fails h _ _ := h

theorem prefixStable_drawMany {α : Type} (draw : ℕ → Random → Except GeometryError (α × Random))
    (g : Random) : PrefixStable fun n => (drawMany draw n g #[]).map Array.toList where
  take := by
    intro m all hall
    obtain ⟨long, hlong, rfl⟩ := map_eq_ok_iff.mp hall
    refine ⟨by simpa using (drawMany_extends hlong).2, fun n hn => ?_⟩
    obtain ⟨k, rfl⟩ := Nat.exists_eq_add_of_le hn
    cases h : drawMany draw n g #[] with
    | error e =>
        rw [drawMany_fails h k] at hlong
        cases hlong
    | ok short =>
        -- the longer run passes through the values of the shorter one
        obtain ⟨g', hresume⟩ := drawMany_resume h
        rw [hresume k] at hlong
        have hsize : short.toList.length = n := by simpa using (drawMany_extends h).2
        have htake : short.toList = long.toList.take n := by
          rw [← hsize]
          exact List.prefix_iff_eq_take.mp (drawMany_extends hlong).1
        exact congrArg Except.ok htake
  fails := by
    intro n e he m hm
    obtain ⟨k, rfl⟩ := Nat.exists_eq_add_of_le hm
    exact map_eq_error_iff.mpr (drawMany_fails (map_eq_error_iff.mp he) k)

/-! ### Bodies and rectangles -/

variable {d : ShapeRanges} {m : ℕ} {firstId seed : UInt64}

theorem bodies_eq (d : ShapeRanges) (count : ℕ) (firstId seed : UInt64) :
    d.bodies count firstId seed = (do
      d.validate
      (drawMany (fun k => d.drawBody (firstId + k.toUInt64)) count (.ofSeed seed) #[]).map
        Array.toList) := by
  unfold bodies
  cases d.validate with
  | error e => rfl
  | ok u => cases drawMany _ count (.ofSeed seed) #[] <;> rfl

theorem bodies_prefixStable (d : ShapeRanges) (firstId seed : UInt64) :
    PrefixStable fun n => d.bodies n firstId seed := by
  simp only [bodies_eq]
  cases d.validate with
  | error e => exact prefixStable_error e
  | ok u => exact prefixStable_drawMany _ _

theorem rects_prefixStable (d : ShapeRanges) (seed : UInt64) :
    PrefixStable fun n => (d.rects n seed).map Array.toList := by
  unfold rects
  cases d.validate with
  | error e => exact prefixStable_error e
  | ok u => exact prefixStable_drawMany _ _

theorem id_of_drawBody {id : UInt64} {g g' : Random} {b : Body} (h : d.drawBody id g = .ok (b, g')) :
    b.id = id := by
  unfold drawBody at h
  obtain ⟨⟨r, g₁⟩, -, h⟩ := bind_eq_ok_iff.mp h
  obtain ⟨b₁, hmake, h⟩ := bind_eq_ok_iff.mp h
  obtain ⟨b₂, hvelocity, h⟩ := bind_eq_ok_iff.mp h
  cases h
  unfold Body.make at hmake
  split_ifs at hmake
  cases hmake
  unfold Body.withVelocity at hvelocity
  split_ifs at hvelocity
  cases hvelocity
  rfl

/-- As long as the identifiers fit into a word, they count up from the first one. -/
theorem ids_of_bodies {all : List Body} (h : d.bodies m firstId seed = .ok all)
    (hfirst : firstId.toNat + m < 2 ^ 64) :
    all.map (fun b => b.id.toNat) = List.range' firstId.toNat m := by
  rw [bodies_eq] at h
  obtain ⟨-, -, h⟩ := bind_eq_ok_iff.mp h
  obtain ⟨drawn, hdrawn, rfl⟩ := map_eq_ok_iff.mp h
  have hnone : EachFits (fun k (b : Body) => b.id = firstId + k.toUInt64) #[] :=
    fun k hk => absurd hk (Nat.not_lt_zero k)
  have hdraw (k : ℕ) (g : Random) (b : Body) (g' : Random)
      (h : d.drawBody (firstId + k.toUInt64) g = .ok (b, g')) : b.id = firstId + k.toUInt64 :=
    id_of_drawBody h
  have heach := drawMany_fits hdraw hnone hdrawn
  have hsize := (drawMany_extends hdrawn).2
  rw [Array.size_empty, Nat.zero_add] at hsize
  apply List.ext_getElem
  · simpa using hsize
  · intro k hk _
    have hk : k < drawn.size := by simpa using hk
    have hword : (firstId + k.toUInt64).toNat = firstId.toNat + k := by
      rw [UInt64.toNat_add, show k.toUInt64.toNat = k % 2 ^ 64 from UInt64.toNat_ofNat']
      omega
    simp [heach k hk, hword]

/-- **Sets of different size from one seed agree as far as the smaller one goes.**  If `m` bodies can be
drawn, then so can any smaller number, and these are the first of the `m`; if a number of bodies cannot be
drawn, then no larger number can, for the same reason.  The same holds for rectangles.  Bodies are numbered
from the first identifier on, so no two have the same one. -/
theorem generated_prefixes (d : ShapeRanges) (firstId seed : UInt64) :
    PrefixStable (fun n => d.bodies n firstId seed) ∧
    PrefixStable (fun n => (d.rects n seed).map Array.toList) ∧
    ∀ m all, firstId.toNat + m < 2 ^ 64 → d.bodies m firstId seed = .ok all →
      all.map (fun b => b.id.toNat) = List.range' firstId.toNat m ∧ (all.map (·.id)).Nodup := by
  refine ⟨bodies_prefixStable d firstId seed, rects_prefixStable d seed, ?_⟩
  intro m all hfirst hall
  have hids := ids_of_bodies hall hfirst
  refine ⟨hids, List.Nodup.of_map UInt64.toNat ?_⟩
  rw [List.map_map]
  show (all.map fun b => b.id.toNat).Nodup
  rw [hids]
  exact List.nodup_range'

/-- Three bodies of one size with the last identifiers that a word holds, of which two are drawn from the
same seed; speeds whose range is too wide for one body and hence for three; and sizes in the wrong order,
with which not even an empty set is drawn. -/
theorem generated_prefixes_last :
    (∃ all, bodies { minSize := 4, maxSize := 4 } 3 18446744073709551612 7 = .ok all ∧
      bodies { minSize := 4, maxSize := 4 } 2 18446744073709551612 7 = .ok (all.take 2) ∧
      all.map (fun b => b.id.toNat) =
        [18446744073709551612, 18446744073709551613, 18446744073709551614] ∧
      (all.map (·.id)).Nodup) ∧
    (bodies { maxSpeed := 1e308 } 1 0 7 = .error (.velocity (1 / 0) (1 / 0)) ∧
      bodies { maxSpeed := 1e308 } 3 0 7 = .error (.velocity (1 / 0) (1 / 0))) ∧
    (rects { minSize := 10, maxSize := 5 } 0 7).map Array.toList = .error (.distribution .sizeRange) ∧
      (rects { minSize := 10, maxSize := 5 } 3 7).map Array.toList =
        .error (.distribution .sizeRange) := by
  refine ⟨?_, ?_, ?_⟩
  · obtain ⟨hbodies, -, hids⟩ := generated_prefixes { minSize := 4, maxSize := 4 } 18446744073709551612 7
    have hok : (bodies { minSize := 4, maxSize := 4 } 3 18446744073709551612 7).isOk := by
      decide +kernel
    obtain ⟨all, hall⟩ : ∃ all, bodies { minSize := 4, maxSize := 4 } 3 18446744073709551612 7 =
        .ok all := by
      cases h : bodies { minSize := 4, maxSize := 4 } 3 18446744073709551612 7 with
      | error e =>
          rw [h] at hok
          cases hok
      | ok all => exact ⟨all, rfl⟩
    obtain ⟨hnumbers, hnodup⟩ := hids 3 all (by decide) hall
    exact ⟨all, hall, (hbodies.take hall).2 2 (by decide), hnumbers, hnodup⟩
  · obtain ⟨hbodies, -, -⟩ := generated_prefixes { maxSpeed := 1e308 } 0 7
    have hone : bodies { maxSpeed := 1e308 } 1 0 7 = .error (.velocity (1 / 0) (1 / 0)) := by
      decide +kernel
    exact ⟨hone, hbodies.fails hone 3 (by decide)⟩
  · obtain ⟨-, hrects, -⟩ := generated_prefixes { minSize := 10, maxSize := 5 } 0 7
    have hnone : (rects { minSize := 10, maxSize := 5 } 0 7).map Array.toList =
        .error (.distribution .sizeRange) := by
      decide +kernel
    exact ⟨hnone, hrects.fails hnone 3 (by decide)⟩

end ShapeRanges

end Broadphase
