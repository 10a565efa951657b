import Broadphase.Proofs.Json.Text
import Broadphase.Storage.FileTree
import Broadphase.Storage.Service

/-! # Stores as maps

`store.Maps keys` says that a store acts as a map from the given keys to bytes: loading yields what is
held, and saving replaces what is held under one key and nothing else.  The store in memory does so
for all keys (`Store.memoryMaps`).  The store in a directory does so if the directory acts as a map
from file names to bytes (`FileSystem.Maps`, `Store.directoryMaps`), as a directory of a `FileTree`
does (`FileTree.directoryMaps`).

After any run of saves a map holds under each key what was saved there last (`Store.Maps.run_saves`). -/

namespace Broadphase

/-- A store acts as a map from keys to bytes. -/
structure Store.Maps {σ : Type} (store : Store (StateM σ)) (keys : String → Prop) where
  /-- The states in which the store works. -/
  Good : σ → Prop
  held : σ → String → Option ByteArray
  load : ∀ s k, Good s → keys k → (store.load k).run s =
    (match held s k with
      | some data => .ok data
      | none => .error (.notFound k), s)
  save : ∀ s k data, Good s → keys k → ∃ s', (store.save k data).run s = (.ok (), s') ∧ Good s' ∧
    ∀ k', keys k' → held s' k' = if k' = k then some data else held s k'

/-- A directory acts as a map from file names to bytes. -/
structure FileSystem.Maps {σ : Type} (fs : FileSystem (StateM σ)) (base : String)
    (names : String → Prop) where
  /-- The states in which the directory is in order. -/
  Good : σ → Prop
  files : σ → String → Option ByteArray
  /-- A name is a single part of a path. -/
  single : ∀ n, names n → '/' ∉ n.toList
  read : ∀ s n, Good s → names n → (fs.read (joinPath base n)).run s =
    (match files s n with
      | some data => .ok data
      | none => .error .notFound, s)
  write : ∀ s n data, Good s → names n → ∃ s',
    (fs.write (joinPath base n) data).run s = (.ok (), s') ∧ Good s' ∧
    ∀ n', names n' → files s' n' = if n' = n then some data else files s n'

namespace Store

/-- The store in memory is a map for all keys. -/
def memoryMaps : memory.Maps fun _ => True where
  Good := fun _ => True
  held := fun held k => held[k]?
  load := by
    intro held k _ _
    show memory.load k held = _
    simp only [memory]
    cases held[k]? with
    | none => rfl
    | some data => rfl
  save := by
    intro held k data _ _
    refine ⟨held.insert k data, rfl, trivial, ?_⟩
    intro k' _
    rw [Std.HashMap.getElem?_insert]
    by_cases h : k' = k
    · simp [h]
    · have hne : (k == k') = false := by simpa using Ne.symm h
      simp [h, hne]

variable {σ : Type} {fs : FileSystem (StateM σ)} {base : String} {names : String → Prop}

/-- The store in a directory is a map for the keys whose files the directory can hold.  Keys do not
get into each other's way because they are written out in the names of their files. -/
def directoryMaps (dir : fs.Maps base names) :
    (directory fs base).Maps fun k => names (k ++ ".json") where
  Good := dir.Good
  held := fun s k => dir.files s (k ++ ".json")
  load := by
    intro s k hs hk
    have hread := dir.read s _ hs hk
    simp only [directory, filePath, StateT.run_bind, hread]
    cases dir.files s (k ++ ".json") with
    | none => rfl
    | some data => rfl
  save := by
    intro s k data hs hk
    obtain ⟨s', hwrite, hgood, hfiles⟩ := dir.write s _ data hs hk
    refine ⟨s', ?_, hgood, ?_⟩
    · simp only [directory, filePath, StateT.run_bind, hwrite]
      rfl
    · intro k' hk'
      rw [hfiles _ hk']
      simp

/-! ### Runs of saves -/

namespace Maps

variable {store : Store (StateM σ)} {keys : String → Prop} (M : store.Maps keys)

/-- After a run of saves every key holds what was saved there last. -/
theorem run_saves {α : Type} (data : α → ByteArray) {saves : List (String × α)}
    (hkeys : ∀ p ∈ saves, keys p.1) {s : σ} (hs : M.Good s) :
    ∃ s', (saves.mapM fun p => store.save p.1 (data p.2)).run s = (saves.map fun _ => .ok (), s') ∧
      M.Good s' ∧
      ∀ k, keys k → M.held s' k = ((saves.reverse.lookup k).map data).or (M.held s k) := by
  induction saves generalizing s with
  | nil => exact ⟨s, rfl, hs, fun k _ => rfl⟩
  | cons p saves ih =>
    obtain ⟨s₁, hsave, hgood₁, hheld₁⟩ := M.save s p.1 (data p.2) hs (hkeys p List.mem_cons_self)
    obtain ⟨s₂, hrest, hgood₂, hheld₂⟩ := ih (fun q hq => hkeys q (List.mem_cons_of_mem p hq)) hgood₁
    refine ⟨s₂, ?_, hgood₂, ?_⟩
    · rw [List.mapM_cons, StateT.run_bind, hsave]
      show (StateT.run (do let rs ← saves.mapM _; pure (Except.ok () :: rs)) s₁) = _
      rw [StateT.run_bind, hrest]
      rfl
    · intro k hk
      rw [hheld₂ k hk, hheld₁ k hk, List.reverse_cons, List.lookup_append, Option.map_or,
        Option.or_assoc]
      congr 1
      by_cases h : k = p.1
      · simp [h, List.lookup]
      · have hne : (k == p.1) = false := by simpa using h
        simp [h, List.lookup, hne]

end Maps

end Store

/-! ### Directories of a tree -/

namespace FileNode

theorem lookup_setChild (name : String) (node : FileNode) (children : List (String × FileNode))
    (k : String) :
    (setChild name node children).lookup k = if k = name then some node else children.lookup k := by
  induction children with
  | nil =>
    by_cases h : k = name
    · simp [setChild, h]
    · have hne : (k == name) = false := by simpa using h
      simp [setChild, List.lookup, h, hne]
  | cons p children ih =>
    obtain ⟨other, held⟩ := p
    rw [setChild]
    by_cases hother : other = name
    · subst hother
      by_cases h : k = other
      · simp [h]
      · have hne : (k == other) = false := by simpa using h
        simp [List.lookup, h, hne]
    · rw [if_neg hother]
      by_cases h : k = other
      · have hname : k ≠ name := by rwa [h]
        simp [List.lookup, h, hother]
      · have hne : (k == other) = false := by simpa using h
        simp [List.lookup, hne, ih]

end FileNode

namespace FileTree

/-- A name that a file may have. -/
structure IsName (n : String) : Prop where
  noSlash : '/' ∉ n.toList
  noNul : Char.ofNat 0 ∉ n.toList
  active : isIdle n = false
  notUp : n ≠ ".."
  short : n.utf8ByteSize ≤ maxName

theorem IsName.toList_ne_nil {n : String} (h : IsName n) : n.toList ≠ [] := by
  intro hnil
  have hn : n = "" := String.toList_eq_nil_iff.mp hnil
  have hactive := h.active
  rw [hn] at hactive
  cases hactive

theorem joinPath_name {base n : String} (hbase : IsName base) (hn : IsName n) :
    joinPath base n = base ++ "/" ++ n := by
  have hstart : n.startsWith "/" = false := by
    rw [String.startsWith_string_eq_false_iff]
    rintro ⟨rest, hrest⟩
    apply hn.noSlash
    rw [← hrest]
    exact List.mem_append_left rest (List.mem_singleton_self '/')
  have hend : base.endsWith "/" = false := by
    rw [String.endsWith_eq_endsWith_toSlice, String.Slice.endsWith_string_eq_false_iff,
      String.copy_toSlice]
    rintro ⟨rest, hrest⟩
    apply hbase.noSlash
    rw [← hrest]
    exact List.mem_append_right rest (List.mem_singleton_self '/')
  have hempty : base.isEmpty = false := by
    rw [String.isEmpty_eq_false_iff]
    intro hb
    exact hbase.toList_ne_nil (String.toList_eq_nil_iff.mpr hb)
  simp [joinPath, hstart, hend, hempty]

theorem ofString?_joinPath {base n : String} (hbase : IsName base) (hn : IsName n) :
    Path.ofString? (joinPath base n) = .ok { absolute := false, parts := [n, base] } := by
  have hlist : (base ++ "/" ++ n).toList = base.toList ++ '/' :: n.toList := by simp
  have hnul : (base ++ "/" ++ n).toList.contains (Char.ofNat 0) = false := by
    simp [hlist, hbase.noNul, hn.noNul]
  have hsize : ¬ maxPath < (base ++ "/" ++ n).utf8ByteSize := by
    have hb := hbase.short
    have hn := hn.short
    have hslash : "/".utf8ByteSize = 1 := rfl
    rw [String.utf8ByteSize_append, String.utf8ByteSize_append, hslash]
    unfold maxName at hb hn
    unfold maxPath
    omega
  have hempty : (base ++ "/" ++ n).isEmpty = false := by
    rw [String.isEmpty_eq_false_iff]
    intro h
    have hnil := String.toList_eq_nil_iff.mpr h
    rw [hlist] at hnil
    simp at hnil
  have habsolute : (base ++ "/" ++ n).startsWith "/" = false := by
    rw [String.startsWith_string_eq_false_iff, hlist]
    rintro ⟨rest, hrest⟩
    cases hb : base.toList with
    | nil => exact hbase.toList_ne_nil hb
    | cons c cs =>
      rw [hb] at hrest
      have hc : '/' = c := (List.cons.inj hrest).1
      apply hbase.noSlash
      rw [hb, hc]
      exact List.mem_cons_self
  have hparts : (base ++ "/" ++ n).toList.splitOn '/' = [base.toList, n.toList] := by
    rw [hlist, List.splitOn_append_cons_self_of_not_mem hbase.noSlash,
      List.splitOn_eq_singleton hn.noSlash]
  simp only [joinPath_name hbase hn, Path.ofString?, hnul, hsize, hempty, Bool.false_eq_true, if_false,
    Path.ofString, habsolute, hparts, List.map_cons, List.map_nil, String.ofList_toList]
  rfl

theorem enter_name {n : String} (hn : IsName n) {s : Spot} {children : List (String × FileNode)}
    (hs : s.node? = some (.dir children)) :
    s.enter n = .ok { place := n :: s.place, node? := children.lookup n,
                      above := .dir children :: s.above } := by
  have hshort : ¬ maxName < n.utf8ByteSize := by
    have h := hn.short
    omega
  simp [Spot.enter, hs, hn.active, hn.notUp, hshort]

/-- The tree has a directory at its root that holds files only. -/
structure HoldsFiles (t : FileTree) (base : String) (children files : List (String × FileNode)) :
    Prop where
  current : t.current = []
  root : t.root = .dir children
  base : children.lookup base = some (.dir files)
  files : ∀ n node, files.lookup n = some node → ∃ data, node = .file data

variable {t : FileTree} {base n : String} {children files : List (String × FileNode)}

/-- The path of a file leads into the directory. -/
theorem HoldsFiles.find (h : t.HoldsFiles base children files) (hbase : IsName base) (hn : IsName n) :
    t.find (joinPath base n) = .ok
      { place := [n, base], node? := files.lookup n, above := [.dir files, .dir children] } := by
  have hfirst := enter_name hbase (s := { node? := some t.root }) (by rw [h.root])
  have hsecond := enter_name hn
    (s := { place := [base], node? := children.lookup base, above := [.dir children] }) h.base
  rw [FileTree.find, ofString?_joinPath hbase hn, Json.ok_bind, walk]
  simp only [Bool.false_eq_true, if_false, h.current, List.reverse_nil, List.foldlM_nil, pure_bind,
    List.reverse_cons, List.nil_append, List.cons_append, List.foldlM_cons, hfirst, Json.ok_bind,
    hsecond]
  rfl

theorem HoldsFiles.file? (h : t.HoldsFiles base children files) (n : String) :
    t.file? [n, base] =
      match files.lookup n with
      | some (.file data) => some data
      | _ => none := by
  have hnode : t.node? [n, base] = files.lookup n := by
    simp [node?, h.root, FileNode.child?, h.base]
  rw [← hnode]
  rfl

theorem HoldsFiles.put (h : t.HoldsFiles base children files) (n : String) (data : ByteArray) :
    (t.put [n, base] (.file data)).HoldsFiles base
      (FileNode.setChild base (.dir (FileNode.setChild n (.file data) files)) children)
      (FileNode.setChild n (.file data) files) where
  current := h.current
  root := by simp [FileTree.put, h.root, FileNode.insert, h.base]
  base := by rw [FileNode.lookup_setChild, if_pos rfl]
  files := by
    intro n' node hnode
    rw [FileNode.lookup_setChild] at hnode
    split_ifs at hnode with hn'
    · exact ⟨data, (Option.some.inj hnode).symm⟩
    · exact h.files n' node hnode

/-- A directory at the root of a tree is a map from names to files. -/
def directoryMaps (base : String) (hbase : IsName base) : fileSystem.Maps base IsName where
  Good := fun t => ∃ children files, t.HoldsFiles base children files
  files := fun t n => t.file? [n, base]
  single := fun n hn => hn.noSlash
  read := by
    rintro t n ⟨children, files, h⟩ hn
    show (t.read (joinPath base n), t) = _
    rw [FileTree.read, h.find hbase hn, Json.ok_bind, h.file? n]
    cases hnode : files.lookup n with
    | none => rfl
    | some node =>
      obtain ⟨data, rfl⟩ := h.files n node hnode
      rfl
  write := by
    rintro t n data ⟨children, files, h⟩ hn
    have hwrite : t.write (joinPath base n) data = .ok (t.put [n, base] (.file data)) := by
      rw [FileTree.write, h.find hbase hn, Json.ok_bind]
      cases hnode : files.lookup n with
      | none => rfl
      | some node =>
        obtain ⟨held, rfl⟩ := h.files n node hnode
        rfl
    have hput := h.put n data
    refine ⟨t.put [n, base] (.file data), ?_, ⟨_, _, hput⟩, ?_⟩
    · simp only [fileSystem, StateT.run, hwrite]
    · intro n' _
      rw [hput.file? n', FileNode.lookup_setChild, h.file? n']
      split_ifs with hn'
      · rfl
      · rfl

end FileTree

end Broadphase
