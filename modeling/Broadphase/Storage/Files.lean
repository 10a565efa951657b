/-! # Files and what goes wrong with them

A `FileSystem` offers the three file operations that settings need, in a monad of the caller's
choice.  A path is a text with its parts divided by slashes. -/

namespace Broadphase

/-- The causes for which a file operation fails. -/
inductive FileFault where
  | notFound
  | alreadyExists
  | notDirectory
  | isDirectory
  | nameTooLong
  /-- The path holds a NUL character. -/
  | nulInPath
  /-- Anything else that the operating system reports. -/
  | other (code : Nat) (text : String)
deriving DecidableEq, Repr

/-- The wording of a failed file operation. -/
def FileFault.message : FileFault → String
  | notFound => "No such file or directory (os error 2)"
  | alreadyExists => "File exists (os error 17)"
  | notDirectory => "Not a directory (os error 20)"
  | isDirectory => "Is a directory (os error 21)"
  | nameTooLong => "File name too long (os error 36)"
  | nulInPath => "file name contained an unexpected NUL byte"
  | other code text => s!"{text} (os error {code})"

/-- The file operations that settings need. -/
structure FileSystem (m : Type → Type) where
  /-- Makes a directory and those above it that are missing. -/
  makeDirs : String → m (Except FileFault Unit)
  read : String → m (Except FileFault ByteArray)
  /-- Replaces the contents of a file, which need not exist before. -/
  write : String → ByteArray → m (Except FileFault Unit)

/-- A path below another one; an absolute path stands for itself. -/
def joinPath (base path : String) : String :=
  if path.startsWith "/" then path
  else if base.isEmpty || base.endsWith "/" then base ++ path
  else base ++ "/" ++ path

end Broadphase
