import Checksum.Command.Run

/-!
# The command line

The outer layer: files and the standard streams of the system, and the exit code.
-/

namespace Checksum.Command

/-- The system's reason for a failure, as far as it is one of those that have a name here. -/
def SystemError.ofError (e : IO.Error) : SystemError :=
  match e with
  | .noFileOrDirectory _ _ _ => notFound
  | .noSuchThing _ _ _ => notFound
  | .inappropriateType _ code _ => if code == 21 then isADirectory else notADirectory
  | .invalidArgument _ code _ => if code == 36 then nameTooLong else ⟨"Invalid argument", code.toNat⟩
  | .permissionDenied _ code _ => ⟨"Permission denied", code.toNat⟩
  | .resourceExhausted _ 28 _ => noSpace
  | e => ⟨toString e, 5⟩

/-- Everything that a stream still holds, in the portions in which it comes. -/
partial def drain (next : IO ByteArray) (done : List Bytes) : IO (List Bytes) := do
  let portion ← next
  if portion.isEmpty then return done.reverse
  drain next (portion.data.toList :: done)

def portionSize : USize := 65536

def readFile (path : String) : IO (Except ReadError (List Bytes)) := do
  match ← (IO.FS.Handle.mk path .read).toBaseIO with
  | .error e => return .error (.opening (.ofError e))
  | .ok handle =>
      match ← (drain (handle.read portionSize) []).toBaseIO with
      | .error e => return .error (.reading (.ofError e))
      | .ok portions => return .ok portions

def readStandardInput : IO (Except SystemError (List Bytes)) := do
  let input ← IO.getStdin
  match ← (drain (input.read portionSize) []).toBaseIO with
  | .error e => return .error (.ofError e)
  | .ok portions => return .ok portions

def writeFile (path : String) (content : Bytes) : IO (Except WriteError Unit) := do
  match ← (IO.FS.Handle.mk path .write).toBaseIO with
  | .error e => return .error (.opening (.ofError e))
  | .ok handle =>
      let writing : IO Unit := do
        handle.write ⟨content.toArray⟩
        handle.flush
      match ← writing.toBaseIO with
      | .error e => return .error (.writing (.ofError e))
      | .ok () => return .ok ()

instance : Files IO where
  read := readFile
  readInput := readStandardInput
  write := writeFile

end Checksum.Command

open Checksum in
def main (argv : List String) : IO UInt32 := do
  let forcePortable ← IO.getEnv Backend.forcePortableVariable
  let filter ← IO.getEnv Log.Filter.variableName
  let env : Command.Environment := ⟨forcePortable.map Bytes.ofText, filter.map Bytes.ofText⟩
  let report ← Command.execute .generic env argv
  for line in report.log do
    IO.eprintln line
  IO.eprint report.complaint
  IO.print report.output
  return UInt32.ofNat report.exit
