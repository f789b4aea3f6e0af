/-!
# Paths

A path is a list of steps that starts in the current folder or, behind a slash,
at the top of the file system. An empty step and `.` stay in a folder, `..`
leaves it, and any other step goes to the file or folder of that name.

- `Path.ofString`, `Path.text`: the path that a text spells, and that text.
- `Path.outer`: the path to the folder that holds what a path leads to.
- `Path.fits`, `Path.nameFits`: how long paths and names can be.

Nothing is simplified when a text is read: two slashes in a row leave an empty
step between them, and a slash at the end one behind it. So a path has exactly
one text, and messages show a path the way it was written. What steps that stay
mean is left to who follows the path. Only `Path.outer` has to look through them,
because the last step that counts may be hidden behind some that do not.

Lengths are in bytes, as file systems count them, and not in characters.
-/

namespace Mosaic

/-- A path to a file or folder. -/
structure Path where
  /-- Whether it starts at the top of the file system, and not in the current folder. -/
  isAbsolute : Bool
  steps : List String
deriving DecidableEq

namespace Path

/-- The steps between the slashes of a text. -/
def split (cs : List Char) : List String := (cs.splitOnP (· == '/')).map String.ofList

/-- The path that a text spells. -/
def ofString (text : String) : Path :=
  match text.toList with
  | '/' :: cs => ⟨true, split cs⟩
  | cs => ⟨false, split cs⟩

/-- The text that spells a path. -/
def text (path : Path) : String :=
  (if path.isAbsolute then "/" else "") ++ String.intercalate "/" path.steps

/-! ## Outer folders -/

/-- Whether a step stays in a folder. -/
def stays (step : String) : Bool := step == "" || step == "."

/-- Steps without those at the end that `p` holds for. -/
def dropEnd (p : String → Bool) (steps : List String) : List String :=
  (steps.reverse.dropWhile p).reverse

/-- A path without the empty steps at its end. -/
def withoutSlashes (path : Path) : Path := { path with steps := dropEnd (· == "") path.steps }

/-- The path to the folder that holds what a path leads to: the path without its last step that
does not stay, and without the steps that stay around it. -/
def outer (path : Path) : Path :=
  { path with steps := dropEnd stays (dropEnd stays path.steps).dropLast }

/-! ## Lengths -/

/-- Whether a path is short enough to be followed: it has less than 4096 bytes. -/
def fits (path : Path) : Bool := path.text.utf8ByteSize < 4096

/-- Whether a name is short enough for a file or folder: it has less than 256 bytes. -/
def nameFits (name : String) : Bool := name.utf8ByteSize < 256

end Path

end Mosaic
