import Broadphase.Storage.Files

/-! # A file system in memory

A tree of directories and files that obeys the usual rules: every part of a path but the last must be
an existing directory, `.` stays and `..` goes up, a name has at most 255 bytes, and a path fewer than
4096.  It serves as the file system of programs that must not touch a real one.

A path is walked part by part.  The walk keeps the directories that it has come through, so that each
step looks at one directory only. -/

namespace Broadphase

/-- A file, or a directory with the names in it. -/
inductive FileNode where
  | file (data : ByteArray)
  | dir (children : List (String × FileNode))

namespace FileNode

/-- What a directory holds under a name. -/
def child? : FileNode → String → Option FileNode
  | file _, _ => none
  | dir children, name => children.lookup name

/-- Puts a node under a name, in place of the one that has it. -/
def setChild (name : String) (node : FileNode) :
    List (String × FileNode) → List (String × FileNode)
  | [] => [(name, node)]
  | (other, held) :: rest =>
    if other = name then (name, node) :: rest else (other, held) :: setChild name node rest

/-- Puts a node at the end of a way down from a directory. -/
def insert : FileNode → List String → FileNode → FileNode
  | _, [], node => node
  | file data, _ :: _, _ => file data
  | dir children, name :: names, node =>
    dir (setChild name (insert ((children.lookup name).getD (dir [])) names node) children)

/-- The names in a directory in increasing order. -/
def names : FileNode → List String
  | file _ => []
  | dir children => (children.map (·.1)).mergeSort fun a b => a ≤ b

end FileNode

/-- The place of a file or directory: the names on the way to it from the root, the last one first. -/
abbrev Place := List String

/-- A file system. -/
structure FileTree where
  root : FileNode := .dir []
  /-- The directory from which relative paths start. -/
  current : Place := []

namespace FileTree

/-- The longest name in bytes. -/
def maxName : Nat := 255

/-- The longest path in bytes. -/
def maxPath : Nat := 4095

/-- A path in its parts, the last one first. -/
structure Path where
  absolute : Bool
  parts : List String
deriving DecidableEq, Repr

/-- Whether a part of a path leads nowhere. -/
def isIdle (part : String) : Bool := part = "" || part = "."

namespace Path

/-- The parts of a path as it is written. -/
def ofString (path : String) : Path :=
  { absolute := path.startsWith "/",
    parts := ((path.toList.splitOn '/').map String.ofList).reverse }

/-- Takes a written path if it can name anything. -/
def ofString? (path : String) : Except FileFault Path :=
  if path.toList.contains (Char.ofNat 0) then .error .nulInPath
  else if maxPath < path.utf8ByteSize then .error .nameTooLong
  else if path.isEmpty then .error .notFound
  else .ok (ofString path)

/-- The path of the directory above.  Idle parts at the end do not count. -/
def parent (path : Path) : Path := { path with parts := (path.parts.dropWhile isIdle).tail }

/-- The path without slashes at its end. -/
def trim (path : Path) : Path := { path with parts := path.parts.dropWhile (· = "") }

end Path

/-- Where a walk has come to. -/
structure Spot where
  place : Place := []
  /-- What is there. -/
  node? : Option FileNode
  /-- The directories above, the nearest one first. -/
  above : List FileNode := []

/-- One step of a walk from a directory that must exist. -/
def Spot.enter (s : Spot) (name : String) : Except FileFault Spot :=
  match s.node? with
  | none => .error .notFound
  | some (.file _) => .error .notDirectory
  | some (.dir children) =>
    if isIdle name then .ok s
    else if name = ".." then
      match s.above with
      | [] => .ok s
      | node :: above => .ok { place := s.place.tail, node? := some node, above }
    else if maxName < name.utf8ByteSize then .error .nameTooLong
    else .ok { place := name :: s.place, node? := children.lookup name,
               above := .dir children :: s.above }

/-- Walks a path to its end, where there need not be anything yet. -/
def walk (t : FileTree) (path : Path) : Except FileFault Spot := do
  let top : Spot := { node? := some t.root }
  let start ← if path.absolute then pure top else t.current.reverse.foldlM Spot.enter top
  path.parts.reverse.foldlM Spot.enter start

/-- Walks a written path. -/
def find (t : FileTree) (path : String) : Except FileFault Spot := do t.walk (← Path.ofString? path)

/-- The place that a path names. -/
def resolve (t : FileTree) (path : String) : Except FileFault Place := return (← t.find path).place

/-- What is at a place. -/
def node? (t : FileTree) (p : Place) : Option FileNode := p.reverse.foldlM FileNode.child? t.root

/-- The contents of the file at a place. -/
def file? (t : FileTree) (p : Place) : Option ByteArray :=
  match t.node? p with
  | some (.file data) => some data
  | _ => none

/-- The names in the directory at a place in increasing order. -/
def names (t : FileTree) (p : Place) : List String := ((t.node? p).map FileNode.names).getD []

/-- Puts a file or directory at a place. -/
def put (t : FileTree) (p : Place) (node : FileNode) : FileTree :=
  { t with root := t.root.insert p.reverse node }

/-- Makes one directory. -/
def makeDir (t : FileTree) (path : Path) : Except FileFault FileTree := do
  let s ← t.walk path.trim
  if s.node?.isSome then throw .alreadyExists
  return t.put s.place (.dir [])

/-- Whether a path names a directory. -/
def namesDir (t : FileTree) (path : Path) : Bool :=
  match t.walk path with
  | .ok { node? := some (.dir _), .. } => true
  | _ => false

/-- Makes a directory unless there is one. -/
def ensureDir (t : FileTree) (path : Path) : Except FileFault Unit × FileTree :=
  match t.makeDir path with
  | .ok t => (.ok (), t)
  | .error e => (if t.namesDir path then .ok () else .error e, t)

/-- Makes a directory unless there is one, if need be after `above` has made those above it.  What was
made before a failure stays. -/
def ensureDirAfter (path : Path) (above : FileTree → Except FileFault Unit × FileTree)
    (t : FileTree) : Except FileFault Unit × FileTree :=
  match t.ensureDir path with
  | (.error .notFound, t) =>
    match above t with
    | (.ok (), t) => t.ensureDir path
    | failed => failed
  | done => done

/-- Makes the directory with the given parts, and those above it that are missing.  Idle parts at the
end do not count. -/
def ensureDirs (absolute : Bool) : List String → FileTree → Except FileFault Unit × FileTree
  | [], t => (.ok (), t)
  | part :: above, t =>
    if isIdle part then ensureDirs absolute above t
    else ensureDirAfter { absolute, parts := part :: above } (ensureDirs absolute above) t

/-- Makes the directories above a path that are missing. -/
def makeDirsAbove (path : Path) (t : FileTree) : Except FileFault Unit × FileTree :=
  ensureDirs path.absolute path.parent.parts t

/-- Makes a directory and those above it that are missing.  A path with an idle part at its end names a
directory only if it is there already. -/
def makeDirs (t : FileTree) (path : String) : Except FileFault Unit × FileTree :=
  if path.isEmpty then (.ok (), t)
  else
    match Path.ofString? path with
    | .error e => (.error e, t)
    | .ok path => ensureDirAfter path (makeDirsAbove path) t

/-- Reads a file. -/
def read (t : FileTree) (path : String) : Except FileFault ByteArray := do
  match (← t.find path).node? with
  | some (.file data) => return data
  | some (.dir _) => throw .isDirectory
  | none => throw .notFound

/-- Replaces the contents of a file. -/
def write (t : FileTree) (path : String) (data : ByteArray) : Except FileFault FileTree := do
  let s ← t.find path
  match s.node? with
  | some (.dir _) => throw .isDirectory
  | _ => return t.put s.place (.file data)

/-- The operations of the tree as a file system. -/
def fileSystem : FileSystem (StateM FileTree) where
  makeDirs := fun path t => t.makeDirs path
  read := fun path t => (t.read path, t)
  write := fun path data t =>
    match t.write path data with
    | .ok t => (.ok (), t)
    | .error e => (.error e, t)

end FileTree

end Broadphase
