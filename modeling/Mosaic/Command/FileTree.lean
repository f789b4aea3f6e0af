import Mosaic.Command.Disk

/-!
# File trees

A file system as a value: the files and folders that are known.

- `Address`: where a file or folder is.
- `FileTree.locate`: where a path leads.
- `FileTree.read`, `FileTree.makeFolder`, `FileTree.write`.
- `FileTree.disk`: a tree as a disk.

The current folder is there from the start, and so are the folders above it and
the top of the file system, with nothing known to be in them. Hence `..` always
leads to a folder, while another step out of the tree leads to nothing.

Paths and addresses are different things. A path is what someone has written, with
its detours and its slashes; an address is where a path leads, and it has neither.
`FileTree.locate` follows a path step by step, as a file system does: each step
needs a folder to start from, so `a/..` leads nowhere if there is no `a`.

What is at an address is looked up in two lists. Nothing forces a file not to be
listed as a folder as well, or its folder to be there. The operations keep such
trees from arising, and a folder wins over a file where they do not. There are no
links and no permissions.
-/

namespace Mosaic

/-! ## Addresses -/

/-- A folder from which others are reached by name. -/
inductive Base
  /-- The current folder, or the one that many levels above it. -/
  | above (levels : Nat)
  | top
deriving DecidableEq

/-- Where a file or folder is: the names on the way to it from a folder. -/
structure Address where
  base : Base := .above 0
  names : List String := []
deriving DecidableEq

namespace Address

/-- The address of what a folder holds under a name. -/
def inside (folder : Address) (name : String) : Address :=
  { folder with names := folder.names ++ [name] }

/-- The folder that holds a folder. Nothing is above the top. -/
def outside : Address → Address
  | ⟨.above levels, []⟩ => ⟨.above (levels + 1), []⟩
  | ⟨base, names⟩ => ⟨base, names.dropLast⟩

end Address

def Path.start (path : Path) : Address := if path.isAbsolute then ⟨.top, []⟩ else {}

/-! ## Trees -/

structure FileTree where
  /-- The folders, without those from which the names of addresses start. -/
  folders : List Address := []
  /-- The files with their texts, each file once. -/
  files : List (Address × String) := []
deriving DecidableEq

inductive Place
  | folder (address : Address)
  | file (address : Address) (text : String)
  /-- To a name in a folder that nothing has. -/
  | vacant (address : Address)
deriving DecidableEq

namespace FileTree

/-- Where steps lead from a folder. -/
def locateFrom (tree : FileTree) (here : Address) : List String → Except FileError Place
  | [] => .ok (.folder here)
  | step :: rest =>
    if Path.stays step then tree.locateFrom here rest
    else if step = ".." then tree.locateFrom here.outside rest
    else if !Path.nameFits step then .error .nameTooLong
    else
      let there := here.inside step
      if tree.folders.contains there then tree.locateFrom there rest
      else
        match tree.files.lookup there with
        | some text => if rest = [] then .ok (.file there text) else .error .notFolder
        -- Behind a name that nothing has, only slashes may follow.
        | none => if rest.all (· = "") then .ok (.vacant there) else .error .missing

def locate (tree : FileTree) (path : Path) : Except FileError Place :=
  if path.fits then tree.locateFrom path.start path.steps else .error .nameTooLong

/-! ## Operations -/

def read (tree : FileTree) (path : Path) : Except FileError String :=
  match tree.locate path with
  | .ok (.file _ text) => .ok text
  | .ok (.folder _) => .error .isFolder
  | .ok (.vacant _) => .error .missing
  | .error e => .error e

/-- A tree with a text in a file. -/
def put (tree : FileTree) (file : Address) (text : String) : FileTree :=
  { tree with files := (file, text) :: tree.files.filter fun f => f.1 ≠ file }

/-- A tree in which a path leads to a file with the given text. -/
def write (tree : FileTree) (path : Path) (text : String) : Except FileError FileTree :=
  match tree.locate path with
  | .ok (.folder _) => .error .isFolder
  | .ok (.file there _) | .ok (.vacant there) => .ok (tree.put there text)
  | .error e => .error e

/-- A tree with a file more, and the folders on the way to it. -/
def add (tree : FileTree) (path : Path) (text : String) : FileTree :=
  let names := path.steps.filter fun step => !Path.stays step
  let folders := (List.range (names.length - 1)).map fun n =>
    { path.start with names := names.take (n + 1) }
  { tree with folders := folders ++ tree.folders }.put { path.start with names } text

/-- A tree with a new folder. Slashes at the end of the path do not count. -/
def makeFolder (tree : FileTree) (path : Path) : Except FileError FileTree :=
  if !path.fits then .error .nameTooLong
  else
    match tree.locate path.withoutSlashes with
    | .ok (.vacant there) => .ok { tree with folders := there :: tree.folders }
    | .ok _ => .error .exists
    | .error e => .error e

/-! ## A tree as a disk -/

/-- A change to the tree in the state, if it succeeds. -/
def change (f : FileTree → Except FileError FileTree) :
    StateM FileTree (Except FileError Unit) := do
  match f (← get) with
  | .ok tree =>
    set tree
    return .ok ()
  | .error e => return .error e

def disk : Disk (StateM FileTree) where
  read path := return ((← get).read path).map String.toUTF8
  makeFolder path := change fun tree => tree.makeFolder path
  write path text := change fun tree => tree.write path text

end FileTree

end Mosaic
