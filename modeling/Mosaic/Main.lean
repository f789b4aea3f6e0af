import Mosaic.Command.Run

/-!
# The program

Carries out the command that its arguments spell, on the real file system.

- `systemDisk`: the operations of the real file system.
- `FileError.ofSystem`: what its failures mean.
- `main`: prints the answer to a command and returns its exit code.

This is the only module with effects. All decisions are made by
`Command.answer`, which takes the disk as a parameter; here a disk is put in that
reads and writes files, and what comes of it is printed. Failures of the file
system are told apart by their numbers, since it is these numbers that appear in
messages.
-/

namespace Mosaic

/-- The number of a failure, which may come negated. -/
def failureNumber (code : UInt32) : Nat := min code.toNat (UInt32.size - code.toNat)

/-- The number and the wording of a failure of the file system, if it has them. -/
def numbered? (e : IO.Error) : Option (Nat × String) :=
  match e with
  | .noFileOrDirectory _ code details
  | .inappropriateType _ code details
  | .alreadyExists _ code details
  | .permissionDenied _ code details
  | .resourceExhausted _ code details
  | .invalidArgument _ code details
  | .otherError code details => some (failureNumber code, details)
  | _ => none

/-- A failure of the file system as a file error. -/
def FileError.ofSystem (e : IO.Error) : FileError :=
  match numbered? e with
  | some (2, _) => .missing
  | some (17, _) => .exists
  | some (20, _) => .notFolder
  | some (21, _) => .isFolder
  | some (36, _) => .nameTooLong
  | some (number, details) =>
    .other (details.capitalize ++ " (os error " ++ toString number ++ ")")
  | none => .other (toString e)

/-- An attempt, with its failure as a file error. -/
def attempt {α : Type} (action : IO α) : IO (Except FileError α) := do
  match ← action.toBaseIO with
  | .ok a => return .ok a
  | .error e => return .error (.ofSystem e)

def systemDisk : Disk IO where
  read path := attempt (IO.FS.readBinFile path.text)
  makeFolder path := attempt (IO.FS.createDir path.text)
  write path text := attempt (IO.FS.writeFile path.text text)

end Mosaic

/-- Carries out a command and returns its exit code. -/
def main (args : List String) : IO UInt32 := do
  let answer ← Mosaic.Command.answer Mosaic.systemDisk args
  IO.print answer.stdout
  IO.eprint answer.stderr
  return UInt32.ofNat answer.code
