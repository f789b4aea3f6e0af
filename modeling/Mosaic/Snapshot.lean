import Mosaic.Script

/-!
# Snapshots

A saved script together with a list of slots to empty before it is used, as
when a puzzle is made out of a finished program.

- `Line.clear`, `Script.clear`: empties one slot of a line or script.
- `Snapshot.prepare`: empties all the slots that a snapshot asks for.
- `SnapshotError`: why a snapshot cannot be used, with the wording of each error.

A blank names its line by id. Where several lines have the id, the first one is
meant, here as in all other look-ups. A blank names its slot by number, counting
empty slots, so the same slot can be emptied twice and stays empty.

Blanks are applied one after the other, each to the script as the ones before it
have left it, and the first that does not fit ends the matter. Emptying a slot
changes neither the ids of lines nor the number of their slots, so whether a blank
fits does not depend on the others. `Mosaic.Proofs.Blanking` takes this further:
all blanks can be applied in one go.

`SnapshotError` also has the errors that come before there is a snapshot, since
they are reported in the same way.
-/

namespace Mosaic

structure Blank where
  line : String
  slot : UInt64
deriving DecidableEq

structure Snapshot where
  script : Script
  blanks : List Blank := []
deriving DecidableEq

/-! ## Errors -/

/-- Why a snapshot cannot be used. -/
inductive SnapshotError
  /-- Its file cannot be read, for the given reason. -/
  | unreadable (reason : String)
  | malformed
  /-- A blank names a line that does not exist. -/
  | unknownLine (id : String)
  /-- A blank names a slot that its line does not have. -/
  | slotOutOfRange (id : String) (slot : Nat) (count : Nat)
deriving DecidableEq

namespace SnapshotError

def message : SnapshotError → String
  | .unreadable _ => "failed to read snapshot"
  | .malformed => "malformed snapshot"
  | .unknownLine id => "blank refers to unknown line `" ++ id ++ "`"
  | .slotOutOfRange id slot count =>
    "blank refers to slot " ++ toString slot ++ " of line `" ++ id ++ "`, which has "
      ++ toString count ++ " slots"

/-- The wording of an error and of what is behind it, outermost first. -/
def chain (e : SnapshotError) : List String :=
  match e with
  | .unreadable reason => [e.message, reason]
  | .malformed => [e.message, "<json>"]
  | _ => [e.message]

end SnapshotError

/-! ## Emptying slots -/

/-- A line with one slot emptied. -/
def Line.clear (slot : Nat) (line : Line) : Line :=
  { line with slots := line.slots.set slot none }

/-- A script with one slot emptied, on the first line with the id. -/
def Script.clear (script : Script) (blank : Blank) : Except SnapshotError Script :=
  let named := fun line : Line => line.id == blank.line
  -- The line that is found and the line that is changed are the same: the first with the id.
  match script.find? named with
  | none => .error (.unknownLine blank.line)
  | some line =>
    if blank.slot.toNat < line.slots.length then
      .ok (script.modify (script.findIdx named) (Line.clear blank.slot.toNat))
    else .error (.slotOutOfRange blank.line blank.slot.toNat line.slots.length)

/-- The script of a snapshot, with all its blanks applied in order. -/
def Snapshot.prepare (snapshot : Snapshot) : Except SnapshotError Script :=
  snapshot.blanks.foldlM Script.clear snapshot.script

end Mosaic
