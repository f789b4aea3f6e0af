import Mosaic.Command.Path

/-!
# Disks

A file system, as far as commands make use of one: reading a file, making a
folder, and writing a file. The same commands run on the real file system and
on a tree of files that is a value.

- `Disk`: the operations of a file system.
- `FileError`: why one of them fails.
- `Disk.makeFolders`: makes a folder with all folders on the way to it.

A disk works in a monad of its own. On the real file system that is `IO`, and on a
`FileTree` it is a state that the operations change; the definitions below and in
`Mosaic.Command.Run` do not know which. The operations may fail and say so in
their results, so no exceptions are needed.

A folder with everything above it is made from the inside out: first the folder
itself is tried, and only if the one that should hold it is missing that one is
made first, in the same way. What exists already is accepted if it is a folder.
There is no operation that asks what a path leads to. An attempt to read it says
as much: reading a folder fails in its own way.
-/

namespace Mosaic

/-! ## Errors -/

/-- Why a file or folder cannot be used. -/
inductive FileError
  | missing
  | exists
  | notFolder
  | isFolder
  | nameTooLong
  /-- Another reason, with its wording. -/
  | other (wording : String)
deriving DecidableEq, Repr

/-- The wording of a file error. -/
def FileError.message : FileError → String
  | .missing => "No such file or directory (os error 2)"
  | .exists => "File exists (os error 17)"
  | .notFolder => "Not a directory (os error 20)"
  | .isFolder => "Is a directory (os error 21)"
  | .nameTooLong => "File name too long (os error 36)"
  | .other wording => wording

/-! ## Operations -/

/-- The operations of a file system. -/
structure Disk (m : Type → Type) where
  read : Path → m (Except FileError ByteArray)
  /-- Makes a folder in one that is there. -/
  makeFolder : Path → m (Except FileError Unit)
  /-- Writes a text into a file in a folder that is there. -/
  write : Path → String → m (Except FileError Unit)

namespace Disk

variable {m : Type → Type} [Monad m]

/-- Whether a path leads to a folder: that is what there is to say about reading it. -/
def isFolder (disk : Disk m) (path : Path) : m Bool := do
  match ← disk.read path with
  | .error .isFolder => return true
  | _ => return false

/-- What comes of an attempt to make a folder. One that exists is as good as a new one. -/
def settle (disk : Disk m) (path : Path) : Except FileError Unit → m (Except FileError Unit)
  | .ok () => return .ok ()
  | .error e => do
    if ← disk.isFolder path then return .ok () else return .error e

/-- Makes a folder, after the one that holds it if that is missing. `depth` bounds how many
folders have to be made. A path without steps leads to a folder that is there. -/
def makeFoldersWithin (disk : Disk m) : Nat → Path → m (Except FileError Unit)
  | 0, _ => return .ok ()
  | depth + 1, path => do
    if path.steps = [] then return .ok ()
    match ← disk.makeFolder path with
    -- The folder that should hold it may be missing. If that can be made, there is one more try.
    | .error .missing =>
      match ← disk.makeFoldersWithin depth path.outer with
      | .error e => return .error e
      | .ok () => disk.settle path (← disk.makeFolder path)
    | attempt => disk.settle path attempt

/-- Makes a folder with all folders on the way to it. -/
def makeFolders (disk : Disk m) (path : Path) : m (Except FileError Unit) :=
  disk.makeFoldersWithin path.steps.length path

end Disk

end Mosaic
