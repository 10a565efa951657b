import Broadphase.Json.Error
import Broadphase.Simulation.Error
import Broadphase.Storage.Files
import Std.Data.HashMap

/-! # Stores for settings

A store keeps raw bytes under keys.  One kind of store keeps them in memory, another one in the files
of a directory. -/

namespace Broadphase

/-- The causes for which settings cannot be stored or loaded. -/
inductive StorageError where
  | notFound (key : String)
  | file (fault : FileFault)
  | json (cause : JsonError)
  | invalid (cause : SimulationError)
deriving DecidableEq, Repr

namespace StorageError

/-- The wording of the cause below a failed load or store, where there is one. -/
def cause? : StorageError → Option String
  | notFound _ => none
  | file fault => some fault.message
  | json cause => some cause.message
  | invalid cause => some cause.message

/-- The wording of a failed load or store. -/
def message : StorageError → String
  | notFound key => s!"no config stored under `{key}`"
  | file fault => "config storage: " ++ fault.message
  | json cause => "malformed config json: " ++ cause.message
  | invalid cause => "invalid config: " ++ cause.message

end StorageError

/-- A store of raw bytes under keys. -/
structure Store (m : Type → Type) where
  load : String → m (Except StorageError ByteArray)
  save : String → ByteArray → m (Except StorageError Unit)

/-- What a store in memory holds. -/
abbrev Memory := Std.HashMap String ByteArray

namespace Store

/-- The store in memory. -/
def memory : Store (StateM Memory) where
  load := fun key held =>
    match held[key]? with
    | some data => (.ok data, held)
    | none => (.error (.notFound key), held)
  save := fun key data held => (.ok (), held.insert key data)

variable {m : Type → Type} [Monad m]

/-- The file that holds the bytes of a key. -/
def filePath (base key : String) : String := joinPath base (key ++ ".json")

/-- The store in the files of a directory. -/
def directory (fs : FileSystem m) (base : String) : Store m where
  load := fun key => do
    match ← fs.read (filePath base key) with
    | .ok data => return .ok data
    | .error .notFound => return .error (.notFound key)
    | .error fault => return .error (.file fault)
  save := fun key data => do
    match ← fs.write (filePath base key) data with
    | .ok () => return .ok ()
    | .error fault => return .error (.file fault)

/-- Makes the directory if need be and opens the store in it. -/
def openDirectory (fs : FileSystem m) (base : String) : m (Except StorageError (Store m)) := do
  match ← fs.makeDirs base with
  | .ok () => return .ok (directory fs base)
  | .error fault => return .error (.file fault)

end Store

end Broadphase
