import PageTemplate.Command.Run
import Std.Time.DateTime

/-!
# The program

The command line at work on the files of the machine.

## Main definitions

* `main` — runs a command line, prints what it gives, and ends with its exit code.
-/

namespace PageTemplate.Machine

/-- The fault behind an error of the system. -/
def faultOf : IO.Error → FileFault
  | .noFileOrDirectory _ _ _ => .notFound
  | .alreadyExists _ _ _ => .alreadyExists
  | .inappropriateType _ code _ => if code == 21 then .isAFolder else .notAFolder
  | .permissionDenied _ 13 _ => .denied
  | .resourceExhausted _ 28 _ => .noSpace
  | e => .other e.toString.toList

/-- The result of an action, or the fault behind its error. -/
def attempt {α : Type} (action : IO α) : IO (Except FileFault α) := do
  match ← action.toBaseIO with
  | .ok a => return .ok a
  | .error e => return .error (faultOf e)

/-- Whether a path leads to a file. -/
def isFile (p : FilePath) : IO Bool := do
  let entry : IO.FS.DirEntry := ⟨String.ofList p.text, ""⟩
  match ← entry.root.metadata.toBaseIO with
  | .ok metadata => return metadata.type == .file
  | .error _ => return false

/-- The files of the machine. -/
instance : Files IO where
  isFile := isFile
  read p := attempt do return (← IO.FS.readBinFile (String.ofList p.text)).toList
  makeFolders p := attempt (IO.FS.createDirAll (String.ofList p.text))
  write p octets := attempt (IO.FS.writeBinFile (String.ofList p.text) ⟨octets.toArray⟩)

/-- The year at this moment, in UTC. -/
def currentYear : IO Int := do
  let now ← Std.Time.Timestamp.now
  return (Std.Time.PlainDate.ofEpochDay now.toDaysSinceUnixEpoch).year.toInt

end PageTemplate.Machine

/-- Runs a command line, prints what it gives, and ends with its exit code. -/
def main (args : List String) : IO UInt32 := do
  let year ← PageTemplate.Machine.currentYear
  let outcome ← PageTemplate.Command.runArgs year (args.map String.toList)
  IO.print (String.ofList outcome.output)
  IO.eprint (String.ofList outcome.complaint)
  return UInt32.ofNat outcome.code
