import Mosaic.Decimal
import Mosaic.Grid

/-!
# Command lines

What the arguments of the program ask for.

- `Command`: the things that can be asked for.
- `Arguments.sort?`: arguments sorted into options with their values and
  operands.
- `Command.ofArguments?`: the command that arguments spell.

An option is `--name value`, `--name=value`, or, where it has a letter,
`-l value`, `-lvalue` or `-l=value`. Options and operands mix freely; behind
`--` there are only operands. A value in an argument of its own does not start
with a hyphen, unless it is just one.

Arguments are read in two steps. The first sorts them by their form alone, given
the options that there are, and may find that one lacks its value. The second
asks for what the command needs: each option at most once, values that denote
what they should, and the right number of operands. Either step may refuse, and
it does not matter which: arguments that spell no command all get the same
answer, so nothing records what was wrong with them.

A count is a natural number of 64 bits, written in digits with at most a plus
sign in front.
-/

namespace Mosaic

/-! ## Sorting arguments -/

/-- An option that takes a value. -/
structure OptionName where
  long : String
  short : Option Char := none
deriving DecidableEq

structure Arguments where
  /-- The options by their long names, with their values. -/
  options : List (String × String) := []
  operands : List String := []
deriving DecidableEq

namespace Arguments

/-- Arguments with an option in front. -/
def withOption (name value : String) (args : Arguments) : Arguments :=
  { args with options := (name, value) :: args.options }

/-- Arguments with an operand in front. -/
def withOperand (operand : String) (args : Arguments) : Arguments :=
  { args with operands := operand :: args.operands }

/-- Whether an argument cannot be the value of the option in front of it. -/
def isHyphenated (arg : String) : Bool := arg.toList.head? = some '-' && arg ≠ "-"

/-- The value that is attached to an option letter, if there is one. -/
def attached? : List Char → Option String
  | [] => none
  | '=' :: value => some (String.ofList value)
  | value => some (String.ofList value)

/-- The option that an argument names and the value in the same argument. -/
def option? (known : List OptionName) : List Char → Option (String × Option String)
  | '-' :: '-' :: body =>
    let name := String.ofList (body.takeWhile (· ≠ '='))
    let value :=
      match body.dropWhile (· ≠ '=') with
      | [] => none
      | _ :: value => some (String.ofList value)
    (known.find? fun o => o.long == name).map fun o => (o.long, value)
  | '-' :: letter :: body =>
    (known.find? fun o => o.short == some letter).map fun o => (o.long, attached? body)
  | _ => none

/-- Sorts arguments into options and operands. -/
def sort? (known : List OptionName) : List String → Option Arguments
  | [] => some {}
  | "--" :: rest => some { operands := rest }
  | arg :: rest =>
    if isHyphenated arg then
      -- What the argument itself brings along decides whether the next one belongs to it.
      match option? known arg.toList, rest with
      | some (name, some value), rest => (sort? known rest).map (withOption name value)
      | some (name, none), value :: rest =>
        if isHyphenated value then none else (sort? known rest).map (withOption name value)
      | _, _ => none
    else (sort? known rest).map (withOperand arg)

/-- The value of an option that is given at most once. -/
def value? (args : Arguments) (name : String) : Option (Option String) :=
  match args.options.filter fun o => o.1 == name with
  | [] => some none
  | [(_, value)] => some (some value)
  | _ => none

end Arguments

/-! ## Commands -/

structure RunOptions where
  /-- The file that holds the snapshot. -/
  snapshot : String
  size : GridSize
  /-- How many workers share the rows, if they are shared. -/
  threads : Option Nat
  /-- The folder that receives the outcome. -/
  out : String
deriving DecidableEq

/-- What the program can be asked for. -/
inductive Command
  | run (options : RunOptions)
  /-- To print the program of a snapshot. -/
  | parse (snapshot : String)
  | blocks
deriving DecidableEq

namespace Command

/-- The options of the run command. -/
def runOptionNames : List OptionName :=
  [⟨"width", none⟩, ⟨"height", none⟩, ⟨"threads", some 't'⟩, ⟨"out", some 'o'⟩]

/-- The folder that receives outcomes by default. -/
def defaultOut : String := "target/blockgrid"

/-- The number of columns, and of rows, by default. -/
def defaultSide : Nat := 10

def count? (text : String) : Option Nat :=
  (Decimal.unsigned? text).bind fun n => if n ≤ maxCount then some n else none

/-- A path, which is never empty. -/
def path? (text : String) : Option String := if text = "" then none else some text

/-- The value of an option that is read in some way, or its default. -/
def valueOr {α : Type} (args : Arguments) (name : String) (read : String → Option α)
    (default : α) : Option α :=
  match args.value? name with
  | some none => some default
  | some (some text) => read text
  | none => none

def operand? (args : Arguments) : Option String :=
  match args.operands with
  | [path] => path? path
  | _ => none

/-- The command that arguments spell. -/
def ofArguments? : List String → Option Command
  | "run" :: rest => do
    let args ← Arguments.sort? runOptionNames rest
    let snapshot ← operand? args
    let width ← valueOr args "width" count? defaultSide
    let height ← valueOr args "height" count? defaultSide
    let threads ← valueOr args "threads" (fun text => (count? text).map some) none
    let out ← valueOr args "out" path? defaultOut
    return .run { snapshot, size := ⟨width, height⟩, threads, out }
  | "parse" :: rest => do
    let args ← Arguments.sort? [] rest
    let snapshot ← operand? args
    return .parse snapshot
  | "blocks" :: rest => do
    let args ← Arguments.sort? [] rest
    if args.operands = [] then return .blocks else none
  | _ => none

/-- What is said about arguments that spell no command. -/
def usage : String :=
  "usage: run <snapshot> [--width N] [--height N] [-t|--threads N] [-o|--out DIR]\n" ++
  "       parse <snapshot>\n" ++
  "       blocks"

end Command

end Mosaic
