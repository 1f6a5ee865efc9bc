/-
# `EntitySchema.Main` — the program

The outer layer of the command line: it gives the command line the files of the system, and writes
what comes out of it.
-/
import EntitySchema.Command.Check

namespace EntitySchema

/-- The fault that a system reports with a number. -/
def FileFault.ofNumber (number : Nat) (wording : String) : FileFault :=
  match number with
  | 2 => .notFound
  | 13 => .noPermission
  | 20 => .notADirectory
  | 21 => .isADirectory
  | 36 => .nameTooLong
  | _ => .other number wording

/-- The fault of a file that an error is about.  Its number may be there as a negative one. -/
def FileFault.ofError : IO.Error → FileFault
  | .noFileOrDirectory _ _ _ => .notFound
  | .permissionDenied _ number wording | .inappropriateType _ number wording
  | .invalidArgument _ number wording | .resourceExhausted _ number wording
  | .noSuchThing _ number wording => .ofNumber (min number (0 - number)).toNat wording
  | error => .other 0 (toString error)

/-- The bytes of a file of the system. -/
def readSystemFile (path : Path) : IO (Except FileFault (List UInt8)) := do
  try
    return .ok (← IO.FS.readBinFile path.toString).toList
  catch error =>
    return .error (.ofError error)

/-- What is at a path of the system. -/
def systemStatus (path : Path) : IO FileStatus := do
  try
    let entry := (← IO.currentDir) / path.toString
    return if (← entry.metadata).type == .dir then .directory else .file
  catch error =>
    return .ofFault (.ofError error)

/-- The files of the system. -/
def systemFiles : Files IO := ⟨systemStatus, readSystemFile⟩

/-- The setting that the program is run in. -/
def systemSetting : IO Command.Setting := do
  let directory := toString (← IO.currentDir)
  return ⟨Path.join ⟨[]⟩ directory, ← (← IO.getStdout).isTty⟩

end EntitySchema

/-- Runs the command line. -/
def main (arguments : List String) : IO UInt32 := do
  let setting ← EntitySchema.systemSetting
  match ← EntitySchema.Command.run EntitySchema.systemFiles setting arguments with
  | .error breakdown =>
      IO.eprintln breakdown.message
      return 1
  | .ok outcome =>
      IO.print outcome.stdout
      IO.eprint outcome.stderr
      return outcome.exit.toUInt32
