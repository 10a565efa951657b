import Broadphase.Storage.Schemas
import Broadphase.Storage.Store

/-! # Saving and loading settings

Settings are saved as indented JSON.  What was never saved, or saved as nothing at all, is loaded as
absent. -/

namespace Broadphase.Service

/-- The key of the settings of the simulation. -/
def simKey : String := "sim"

/-- The value in the bytes that a store returned, if there is one. -/
def decode {α : Type} (read : Reader α) : Except StorageError ByteArray →
    Except StorageError (Option α)
  | .error (.notFound _) => .ok none
  | .error e => .error e
  | .ok data =>
    if data.isEmpty then .ok none
    else
      match Json.whole read data.toList with
      | .ok a => .ok (some a)
      | .error e => .error (.json e)

variable {m : Type → Type} [Monad m]

/-- Loads the value under a key. -/
def load {α : Type} (store : Store m) (read : Reader α) (key : String) :
    m (Except StorageError (Option α)) := do
  return decode read (← store.load key)

/-- Saves a document under a key. -/
def save (store : Store m) (key : String) (j : Json) : m (Except StorageError Unit) :=
  store.save key j.pretty.toUTF8

/-- The settings that were loaded, or the standard ones, if they are valid. -/
def checked (loaded : Except StorageError (Option SimConfig)) : Except StorageError SimConfig := do
  let config := (← loaded).getD {}
  match config.validate with
  | .ok () => return config
  | .error e => throw (.invalid e)

/-- Loads valid settings of the simulation. -/
def loadSim (store : Store m) : m (Except StorageError SimConfig) := do
  return checked (← load store SimConfig.schema.read simKey)

end Broadphase.Service
