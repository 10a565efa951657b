import Broadphase.CommandLine.Run

/-! # The program

Gives the commands a real clock, the real files, and the terminal. -/

namespace Broadphase.Terminal

/-- The cause of an error that the operating system reports. -/
def fault : IO.Error → FileFault
  | .noFileOrDirectory .. => .notFound
  | .alreadyExists .. => .alreadyExists
  | .inappropriateType _ code details =>
    if code = 20 then .notDirectory
    else if code = 21 then .isDirectory
    else .other code.toNat details
  | e => .other 5 (toString e)

/-- Keeps the cause of an error as a value. -/
def guarded {α : Type} (act : IO α) : IO (Except FileFault α) := do
  try return .ok (← act)
  catch e => return .error (fault e)

/-- The files of the operating system. -/
def files : FileSystem IO where
  makeDirs := fun path => guarded (IO.FS.createDirAll path)
  read := fun path => guarded (IO.FS.readBinFile path)
  write := fun path data => guarded (IO.FS.writeBinFile path data)

/-- A pacer that keeps to multiples of the interval and leaves out frames that are late. -/
def pacer (due : IO.Ref (Option Nat)) : Pacer IO where
  now := IO.monoNanosNow
  nextFrame := fun interval => do
    let now ← IO.monoNanosNow
    match ← due.get with
    | none => due.set (some (now + interval))
    | some next =>
      if now < next then IO.sleep ((next - now + 999999) / 1000000).toUInt32
      let now ← IO.monoNanosNow
      due.set (some (next + interval * ((now - next) / interval + 1)))
    IO.monoNanosNow

end Broadphase.Terminal

open Broadphase in
/-- Runs the program on the words of the command line. -/
def main (arguments : List String) : IO UInt32 := do
  let due ← IO.mkRef none
  let platform : CommandLine.Platform IO :=
    { pacer := Terminal.pacer due, files := Terminal.files, tell := IO.eprintln }
  match ← (CommandLine.run platform arguments).run with
  | .ok outcome =>
    match outcome.output with
    | .nothing => pure ()
    | output => IO.println output.render
    return outcome.code
  | .error _ =>
    IO.eprintln "capacity overflow"
    return 101
