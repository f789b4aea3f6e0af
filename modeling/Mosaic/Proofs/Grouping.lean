import Mosaic.Proofs.Corners
import Mosaic.Proofs.Firsts
import Mosaic.Report

/-!
# Failures summed up

The failures of a run are reported by their messages. Counting them in place, while one comes after
the other, comes to the same as going through the distinct messages.

- `Failure.message_inj`: different failures have different messages, whatever the names of variables
  are.
- `CellGroup.Tallies`: groups that count each failure where its message belongs.
- `Report.tallies_groupCells`: counting in place gives such groups.
- `Report.SumUp`: reports that lose and merge no messages.
- `Program.ToldBy`: reports that tell which cells failed alike.
- `Report.failures_summed_up`: the reports on failures are such reports.

The invariant of the loop over failures is `Tallies`, with the failures seen so far. A failure with
a known message adds to the count of one group and leaves the others alone. A failure with a new
message has a group of its own, behind the others. Each of the three fields is kept in either case.

Groups are made by message, and messages are texts. That two cells have a report in common exactly
if they failed in the same way rests on messages telling failures apart. They do: the first
character of a message tells the sort of the failure. The message of a type mismatch has an
operator and two kinds in it, and it can be taken apart again, since the operator is in quotes and
holds none, and since the name of a kind holds no blank.

The same messages may come from elsewhere: `SumUp` is about any list of errors, also one that no
program has. `ToldBy` is about the errors of a grid.
-/

namespace Mosaic

/-! ## Messages of failures -/

theorem Kind.name_inj {k l : Kind} : k.name = l.name ↔ k = l := by
  cases k <;> cases l <;> decide

theorem BinaryOperator.symbol_inj {op op' : BinaryOperator} :
    op.symbol = op'.symbol ↔ op = op' := by
  refine ⟨fun same => ?_, congrArg symbol⟩
  have read := Operator.ofSymbol?_symbol (.binary op)
  rw [show (Operator.binary op).symbol = op'.symbol from same,
    show op'.symbol = (Operator.binary op').symbol from rfl, Operator.ofSymbol?_symbol] at read
  cases read
  rfl

/-- The front of a text tells its first character. -/
theorem head?_append {front : String} {c : Char} (first : front.toList.head? = some c)
    (rest : String) : (front ++ rest).toList.head? = some c := by
  rw [String.toList_append, List.head?_append, first]
  rfl

/-- Characters in front of the first mark can be told from what is behind it. -/
theorem append_mark_inj {mark : Char} {xs ys s t : List Char} (hx : mark ∉ xs) (hy : mark ∉ ys)
    (same : xs ++ mark :: s = ys ++ mark :: t) : xs = ys ∧ s = t := by
  -- What stands in front of the first mark is what a search for the mark passes over.
  have front {zs rest : List Char} (h : mark ∉ zs) :
      (zs ++ mark :: rest).takeWhile (· ≠ mark) = zs := by
    rw [List.takeWhile_append_of_pos fun c hc => by simpa using ne_of_mem_of_not_mem hc h,
      List.takeWhile_cons_of_neg (by simp), List.append_nil]
  have fronts : xs = ys := by rw [← front hx, same, front hy]
  subst fronts
  exact ⟨rfl, (List.cons.inj (List.append_cancel_left same)).2⟩

namespace Failure

/-- The first character of a message, which tells of what sort the failure is. -/
def initial : Failure → Char
  | .undefinedVariable _ => 'U'
  | .typeMismatch _ _ _ => 'T'
  | .divisionByZero => 'D'
  | .overflow _ => 'A'

theorem head?_message (f : Failure) : f.message.toList.head? = some f.initial := by
  cases f with
  | undefinedVariable name =>
    have first : "Undefined variable: ".toList.head? = some 'U' := by simp
    exact head?_append first name
  | typeMismatch op left right =>
    have first : "Type mismatch: cannot apply `".toList.head? = some 'T' := by simp
    exact head?_append (head?_append (head?_append (head?_append (head?_append first _) _) _) _) _
  | divisionByZero => rfl
  | overflow op =>
    have first : "Arithmetic overflow in `".toList.head? = some 'A' := by simp
    exact head?_append (head?_append first _) _

/-- The operator is in quotes, and the name of a kind ends in front of a blank. -/
theorem eq_of_typeMismatch_message {op op' : BinaryOperator} {left left' right right' : Kind}
    (same : (typeMismatch op left right).message = (typeMismatch op' left' right').message) :
    op = op' ∧ left = left' ∧ right = right' := by
  have quote (op : BinaryOperator) : '`' ∉ op.symbol.toList := by
    rcases op with (op | op) <;> cases op <;> decide
  have blank (k : Kind) : ' ' ∉ k.name.toList := by cases k <;> decide
  have parts (op : BinaryOperator) (left right : Kind) :
      (typeMismatch op left right).message.toList = "Type mismatch: cannot apply `".toList ++
        (op.symbol.toList ++ '`' :: (" to ".toList ++
          (left.name.toList ++ ' ' :: ("and ".toList ++ right.name.toList)))) := by
    show ("Type mismatch: cannot apply `" ++ op.symbol ++ "` to " ++ left.name ++ " and "
      ++ right.name).toList = _
    simp only [String.toList_append, List.append_assoc]
    rfl
  rw [← String.toList_inj, parts, parts] at same
  obtain ⟨symbols, behind⟩ := append_mark_inj (quote op) (quote op') (List.append_cancel_left same)
  obtain ⟨lefts, behind⟩ := append_mark_inj (blank left) (blank left')
    (List.append_cancel_left behind)
  rw [String.toList_inj] at symbols lefts
  have rights := String.toList_inj.1 (List.append_cancel_left behind)
  exact ⟨BinaryOperator.symbol_inj.1 symbols, Kind.name_inj.1 lefts, Kind.name_inj.1 rights⟩

theorem message_inj {f g : Failure} : f.message = g.message ↔ f = g := by
  refine ⟨fun same => ?_, congrArg message⟩
  -- Failures of different sorts are told apart by the first character; those of one sort by the
  -- rest.
  have sort : f.initial = g.initial := by
    rw [← Option.some_inj, ← head?_message, ← head?_message, same]
  cases f with
  | undefinedVariable name =>
    cases g with
    | undefinedVariable name' => rw [(String.append_right_inj _).1 same]
    | _ => simp [initial] at sort
  | typeMismatch op left right =>
    cases g with
    | typeMismatch op' left' right' =>
      obtain ⟨rfl, rfl, rfl⟩ := eq_of_typeMismatch_message same
      rfl
    | _ => simp [initial] at sort
  | divisionByZero =>
    cases g with
    | divisionByZero => rfl
    | _ => simp [initial] at sort
  | overflow op =>
    cases g with
    | overflow op' =>
      have symbols : (BinaryOperator.compute op).symbol = (BinaryOperator.compute op').symbol :=
        (String.append_right_inj _).1 ((String.append_left_inj _).1 same)
      cases BinaryOperator.symbol_inj.1 symbols
      rfl
    | _ => simp [initial] at sort

end Failure

namespace Report

/-! ## Counting in place -/

/-- The message that the failures of a group have. -/
def CellGroup.message (g : CellGroup) : String := g.first.message

/-- A group with one failure more. -/
def CellGroup.more (g : CellGroup) : CellGroup := { g with count := g.count + 1 }

/-- Groups with one failure for each message of a list, where they first occur: the first failure
that has the message, and how many have it. -/
structure CellGroup.Tallies (errors : List CellError) (groups : List CellGroup) : Prop where
  messages : Firsts (errors.map CellError.message) (groups.map message)
  first : ∀ g ∈ groups, errors.find? (fun e => e.message = g.message) = some g.first
  count : ∀ g ∈ groups, g.count = (errors.map CellError.message).count g.message

open CellGroup (Tallies)

variable {errors : List CellError} {groups : List CellGroup} {e : CellError}

/-- A failure with a new message has a group of its own, behind the others. -/
theorem add_of_not_mem (new : e.message ∉ groups.map CellGroup.message) :
    groupCells.add e groups = groups ++ [⟨e, 1⟩] := by
  -- No group has the message, so the search goes on to the end.
  induction groups with
  | nil => rfl
  | cons g groups ih =>
    rw [List.map_cons, List.mem_cons, not_or] at new
    have other : g.first.message ≠ e.message := Ne.symm new.1
    rw [groupCells.add, if_neg other, ih new.2]
    rfl

/-- A failure with a known message is counted in the one group that has it. -/
theorem add_of_mem (known : e.message ∈ groups.map CellGroup.message)
    (once : (groups.map CellGroup.message).Nodup) :
    groupCells.add e groups = groups.map fun g => if g.message = e.message then g.more else g := by
  induction groups with
  | nil => cases known
  | cons g groups ih =>
    rw [List.map_cons, List.nodup_cons] at once
    show (if g.message = e.message then g.more :: groups else g :: groupCells.add e groups) = _
    rw [List.map_cons]
    by_cases here : g.message = e.message
    · -- No group behind this one has the message.
      have others : groups.map (fun g => if g.message = e.message then g.more else g) = groups := by
        refine (List.map_congr_left fun g' member => if_neg fun same => ?_).trans (List.map_id _)
        exact once.1 (List.mem_map.2 ⟨g', member, same.trans here.symm⟩)
      rw [if_pos here, if_pos here, others]
    · rw [List.map_cons, List.mem_cons] at known
      rw [if_neg here, if_neg here, ih (known.resolve_left (Ne.symm here)) once.2]

/-- **Counting one failure more keeps the tally.** -/
theorem tallies_add (h : Tallies errors groups) :
    Tallies (errors ++ [e]) (groupCells.add e groups) := by
  -- The failures found first stay the first ones.
  have first : ∀ g ∈ groups,
      (errors ++ [e]).find? (fun d => d.message = g.message) = some g.first := fun g member => by
    rw [List.find?_append, h.first g member]
    rfl
  -- Whether some group has the message decides which of the two steps is made.
  by_cases known : e.message ∈ groups.map CellGroup.message
  · rw [add_of_mem known h.messages.nodup]
    constructor
    case messages =>
      rw [List.map_append, List.map_map]
      have same : groups.map (CellGroup.message ∘
          fun g => if g.message = e.message then g.more else g) = groups.map CellGroup.message := by
        refine List.map_congr_left fun g _ => ?_
        rw [Function.comp_apply]
        split <;> rfl
      rw [same]
      exact h.messages.seen ((h.messages.mem_iff _).1 known)
    case first =>
      intro _ counted
      obtain ⟨g, member, rfl⟩ := List.mem_map.1 counted
      split
      · exact first g member
      · exact first g member
    case count =>
      intro _ counted
      obtain ⟨g, member, rfl⟩ := List.mem_map.1 counted
      rw [List.map_append, List.count_append]
      split
      · next same =>
        show g.count + 1 = _
        rw [h.count g member]
        simp [CellGroup.more, CellGroup.message, ← same]
      · next other =>
        rw [h.count g member]
        simp [Ne.symm other]
  · have new : e.message ∉ errors.map CellError.message := mt (h.messages.mem_iff _).2 known
    rw [add_of_not_mem known]
    constructor
    case messages =>
      rw [List.map_append, List.map_append]
      exact h.messages.unseen new
    case first =>
      intro g member
      rcases List.mem_append.1 member with member | member
      · exact first g member
      · rw [List.mem_singleton.1 member, List.find?_append]
        have missing : errors.find? (fun d => d.message = e.message) = none := by
          rw [List.find?_eq_none]
          intro d found same
          exact new (List.mem_map.2 ⟨d, found, by simpa using same⟩)
        show (errors.find? fun d => d.message = e.message).or _ = _
        simp [missing, CellGroup.message]
    case count =>
      intro g member
      rw [List.map_append, List.count_append]
      rcases List.mem_append.1 member with member | member
      · have other : e.message ≠ g.message := fun same =>
          known (same ▸ List.mem_map_of_mem member)
        simp [h.count g member, other]
      · rw [List.mem_singleton.1 member]
        show 1 = (errors.map CellError.message).count e.message + _
        simp [List.count_eq_zero.2 new, CellGroup.message]

/-- **Counting in place gives the tally**, however many failures there are. -/
theorem tallies_groupCells (errors : List CellError) : Tallies errors (groupCells errors) := by
  -- From the end of the list, since the loop has seen what stands in front.
  induction errors using List.reverseRecOn with
  | nil => exact ⟨.nil, nofun, nofun⟩
  | append_singleton errors e ih =>
    rw [groupCells, List.foldl_append]
    exact tallies_add ih

/-! ## Reports on groups -/

/-- The note on cells that failed alike: how many there are, and where the first of them is. -/
def affected (count x y : Nat) : String :=
  toString count ++ " cell(s) affected, first at x=" ++ toString x ++ ", y=" ++ toString y

/-- Reports that lose and merge none of the messages of failures. -/
structure SumUp (errors : List CellError) (reports : List Report) : Prop where
  /-- There is one report for each message, in the order in which the messages first occur. -/
  messages : Firsts (errors.map CellError.message) (reports.map message)
  noted : ∀ r ∈ reports, ∃ e, errors.find? (fun e => e.message = r.message) = some e ∧
    r.notes = [affected ((errors.map CellError.message).count r.message) e.x e.y]
  /-- The numbers in the notes add up. -/
  total : (reports.map fun r => (errors.map CellError.message).count r.message).sum = errors.length

section Groups

variable (g : CellGroup)

theorem message_ofCellGroup : (ofCellGroup g).message = g.message := by
  show (if startsWith g.message "Undefined variable" then _ else _ : Report).message = _
  split <;> rfl

theorem notes_ofCellGroup : (ofCellGroup g).notes = [affected g.count g.first.x g.first.y] := by
  show (if startsWith g.message "Undefined variable" then _ else _ : Report).notes = _
  split <;> rfl

theorem help_ofCellGroup : (ofCellGroup g).help =
    if startsWith g.message "Undefined variable" then
      some "assign the variable before it is read, or use x, y or p"
    else none := by
  show (if startsWith g.message "Undefined variable" then _ else _ : Report).help = _
  split <;> rfl

end Groups

theorem sumUp_ofCellErrors (errors : List CellError) : SumUp errors (ofCellErrors errors) := by
  have tallies := tallies_groupCells errors
  have messages : (ofCellErrors errors).map message =
      (groupCells errors).map CellGroup.message := by
    rw [ofCellErrors, List.map_map]
    exact List.map_congr_left fun g _ => message_ofCellGroup g
  have firsts : Firsts (errors.map CellError.message) ((ofCellErrors errors).map message) :=
    messages ▸ tallies.messages
  constructor
  case messages => exact firsts
  case noted =>
    intro r member
    obtain ⟨g, counted, rfl⟩ := List.mem_map.1 member
    rw [message_ofCellGroup, notes_ofCellGroup, ← tallies.count g counted]
    exact ⟨g.first, tallies.first g counted, rfl⟩
  case total =>
    rw [← errors.length_map CellError.message, ← firsts.count_sum, List.map_map]
    rfl

end Report

/-! ## Reports on the cells of a grid -/

/-- What helps against a failure: nothing helps, unless a variable has no value. -/
def Failure.help? : Failure → Option String
  | .undefinedVariable _ => some "assign the variable before it is read, or use x, y or p"
  | _ => none

/-- A message starts as those on variables do exactly if it is one of them. -/
theorem Failure.help?_eq (f : Failure) : f.help? =
    if Report.startsWith f.message "Undefined variable" then
      some "assign the variable before it is read, or use x, y or p"
    else none := by
  have start (other : f.initial ≠ 'U') :
      Report.startsWith f.message "Undefined variable" = false := by
    have first : "Undefined variable".toList.head? = some 'U' := by simp
    rw [Report.startsWith, Bool.eq_false_iff, Ne, List.isPrefixOf_iff_prefix]
    intro front
    obtain ⟨rest, whole⟩ := front
    have same := f.head?_message
    rw [← whole, List.head?_append, first] at same
    exact other (Option.some.inj same).symm
  -- Only one sort of failure has a message with this front; the others differ in the first
  -- character.
  cases f with
  | undefinedVariable name =>
    rw [if_pos]
    · rfl
    · rw [Report.startsWith, List.isPrefixOf_iff_prefix]
      show _ <+: ("Undefined variable" ++ ": " ++ name).toList
      rw [String.append_assoc, String.toList_append]
      exact List.prefix_append _ _
  | typeMismatch op left right =>
    rw [start (by simp [initial]), if_neg Bool.false_ne_true]
    rfl
  | divisionByZero =>
    rw [start (by simp [initial]), if_neg Bool.false_ne_true]
    rfl
  | overflow op =>
    rw [start (by simp [initial]), if_neg Bool.false_ne_true]
    rfl

/-- What is found first in a list comes before everything else that could have been found. -/
theorem eq_or_of_find? {α : Type} {R : α → α → Prop} {p : α → Bool} {xs : List α} {a b : α}
    (ordered : xs.Pairwise R) (found : xs.find? p = some a) (member : b ∈ xs) (hb : p b) :
    b = a ∨ R a b := by
  obtain ⟨-, front, back, rfl, refused⟩ := List.find?_eq_some_iff_append.1 found
  rcases List.mem_append.1 member with member | member
  · exact absurd hb (by simpa using refused b member)
  · rcases List.mem_cons.1 member with same | member
    · exact .inl same
    · exact .inr ((List.pairwise_cons.1 (List.pairwise_append.1 ordered).2.1).1 b member)

namespace Program

variable (program : Program) (size : GridSize)

/-- A program fails in a cell of a grid. -/
structure FailsAt (x y : Nat) (f : Failure) : Prop where
  column : x < size.width
  row : y < size.height
  fails : program.cell x y = .error f

/-- A report tells of the cells of a grid in which a program fails in a certain way, and of no
others. -/
structure TellsOf (f : Failure) (r : Report) : Prop where
  message : r.message = f.message
  /-- The cell that is named is the first one, row by row and from left to right in each row. -/
  first : ∃ x y, program.FailsAt size x y f ∧
    (∀ x' y', program.FailsAt size x' y' f → y < y' ∨ y = y' ∧ x ≤ x') ∧
    r.notes = [Report.affected
      (((program.evaluate size).errors.map CellError.message).count f.message) x y]
  help : r.help = f.help?

/-- Reports tell which cells of a grid failed in the same way. -/
structure ToldBy (reports : List Report) : Prop where
  /-- Two cells have a report in common exactly if they failed in the same way. -/
  alike : ∀ {x y x' y' f f'}, program.FailsAt size x y f → program.FailsAt size x' y' f' →
    ((∃ r ∈ reports, r.message = f.message ∧ r.message = f'.message) ↔ f = f')
  tells : ∀ r ∈ reports, ∃ f, program.TellsOf size f r

theorem mem_errors_iff_failsAt {x y : Nat} {f : Failure} :
    ⟨x, y, f.message⟩ ∈ (program.evaluate size).errors ↔ program.FailsAt size x y f := by
  rw [program.mem_errors_evaluate size]
  constructor
  · rintro ⟨column, row, f', failed, same⟩
    exact ⟨column, row, Failure.message_inj.1 same ▸ failed⟩
  · rintro ⟨column, row, failed⟩
    exact ⟨column, row, f, failed, rfl⟩

/-- A failure that is named first for its message comes first among those of its kind. -/
theorem first_of_find? {message : String} {e : CellError} (found :
    (program.evaluate size).errors.find? (fun e => e.message = message) = some e) :
    ∃ f, f.message = message ∧ program.FailsAt size e.x e.y f ∧
      ∀ x' y', program.FailsAt size x' y' f → e.y < y' ∨ e.y = y' ∧ e.x ≤ x' := by
  have named : e.message = message := by simpa using List.find?_some found
  obtain ⟨column, row, f, failed, told⟩ :=
    (program.mem_errors_evaluate size).1 (List.mem_of_find?_eq_some found)
  refine ⟨f, told.symm.trans named, ⟨column, row, failed⟩, fun x' y' failed' => ?_⟩
  have member := (program.mem_errors_iff_failsAt size).2 failed'
  -- Errors stand in the order of cells, so the first one with a message is that of the first cell.
  rcases eq_or_of_find? (program.ordered_evaluate size) found member
    (by simpa using told.symm.trans named) with same | later
  · exact .inr ⟨congrArg CellError.y same.symm, (congrArg CellError.x same).ge⟩
  · exact later.imp_right fun ⟨same, further⟩ => ⟨same, further.le⟩

theorem toldBy_ofCellErrors :
    program.ToldBy size (Report.ofCellErrors (program.evaluate size).errors) := by
  constructor
  case alike =>
    intro x y x' y' f f' failed _
    constructor
    · rintro ⟨r, -, told, told'⟩
      exact Failure.message_inj.1 (told.symm.trans told')
    · rintro rfl
      have member : f.message ∈ (program.evaluate size).errors.map CellError.message :=
        List.mem_map_of_mem ((program.mem_errors_iff_failsAt size).2 failed)
      obtain ⟨r, reported, told⟩ :=
        List.mem_map.1 (((Report.sumUp_ofCellErrors _).messages.mem_iff _).2 member)
      exact ⟨r, reported, told, told⟩
  case tells =>
    intro r member
    obtain ⟨e, found, noted⟩ := (Report.sumUp_ofCellErrors _).noted r member
    obtain ⟨f, told, failed, before⟩ := program.first_of_find? size found
    refine ⟨f, told.symm, ⟨e.x, e.y, failed, before, told ▸ noted⟩, ?_⟩
    obtain ⟨g, -, rfl⟩ := List.mem_map.1 member
    rw [f.help?_eq, told, Report.message_ofCellGroup, Report.help_ofCellGroup]

end Program

/-- **Summing up failures loses and merges nothing.** Each distinct message has one report, which
says how many failures have it and where the first of them is. As different failures have different
messages, the reports on a grid tell exactly which cells failed in the same way. -/
theorem Report.failures_summed_up :
    (∀ errors, SumUp errors (ofCellErrors errors)) ∧
    (∀ f g : Failure, f.message = g.message ↔ f = g) ∧
    ∀ (program : Program) (size : GridSize),
      program.ToldBy size (ofCellErrors (program.evaluate size).errors) :=
  ⟨sumUp_ofCellErrors, fun _ _ => Failure.message_inj,
    fun program size => program.toldBy_ofCellErrors size⟩

end Mosaic
