import RepoBrowser.Shell.Integer
import RepoBrowser.Text.Lines

/-!
# Tools

A tool is a command that is no part of the shell: a function of its arguments, its input and the
files there are.

* `Task`, `Effect`, `Tool` — what a tool is given, what it does, and the tool;
* `Options` — arguments divided into options and operands;
* `Task.texts` — the texts of the files that operands name, or the input;
* `linesOf` — the lines of a text; `lineEnded` puts lines together again.
-/

namespace RepoBrowser.Shell

open Text

/-- What a tool is given: arguments, input, and what it can find out about files. -/
structure Task where
  arguments : List (List Char)
  input : List Char
  file : List Char → Option (List Char)
  isDirectory : List Char → Bool

/-- What a tool does: what it prints and complains about, the code it ends with, whether it has
read its input, what it writes to files, `none` where it removes one, and the directories it
makes. -/
structure Effect where
  output : List Char := []
  complaint : List Char := []
  status : Nat := 0
  readsInput : Bool := true
  written : List (List Char × Option (List Char)) := []
  made : List (List Char) := []

abbrev Tool := Task → Effect

namespace Effect

/-- The effect of a tool that only prints. -/
def printing (t : List Char) : Effect := { output := t, readsInput := false }

def failing (complaint : String) (status : Nat) : Effect :=
  { complaint := complaint.toList ++ ['\n'], status, readsInput := false }

end Effect

/-! ### Lines -/

/-- The lines of a text, each with the line end left out. -/
def linesOf (t : List Char) : List (List Char) :=
  let ps := pieces '\n' t
  if ps.getLast? = some [] then ps.dropLast else ps

/-- Lines, each with a line end. -/
def lineEnded (ls : List (List Char)) : List Char := ls.flatMap (· ++ ['\n'])

/-- Whether a text ends in the middle of a line. -/
def isOpenEnded (t : List Char) : Bool := !t.isEmpty && t.getLast? ≠ some '\n'

/-- Lines, each with a line end, but the last without one where the text that they came from ended
in the middle of a line. -/
def likeText (t : List Char) (ls : List (List Char)) : List Char :=
  if isOpenEnded t then (lineEnded ls).dropLast else lineEnded ls

/-! ### Options -/

/-- Options with their values, and the other arguments. -/
structure Options where
  given : List (Char × List Char) := []
  operands : List (List Char) := []

namespace Options

def has (o : Options) (c : Char) : Bool := o.given.any (·.1 = c)

/-- The value of an option, the last one given. -/
def value? (o : Options) (c : Char) : Option (List Char) :=
  (o.given.reverse.find? (·.1 = c)).map (·.2)

def values (o : Options) (c : Char) : List (List Char) :=
  (o.given.filter (·.1 = c)).map (·.2)

/-- Which options a tool has: those without and with a value, and the long names of some. -/
structure Known where
  flags : List Char
  valued : List Char := []
  long : List (String × Char) := []

/-- The options in the letters behind a dash; `rest` are the arguments behind them. -/
def letters? (k : Known) : List Char → List (List Char) →
    Option (List (Char × List Char) × List (List Char))
  | [], rest => some ([], rest)
  | c :: cs, rest =>
    if k.valued.contains c then
      match cs, rest with
      | [], v :: rest => some ([(c, v)], rest)
      | [], [] => none
      | cs, rest => some ([(c, cs)], rest)
    else if k.flags.contains c then
      (letters? k cs rest).map fun r => ((c, []) :: r.1, r.2)
    else none

def longName? (k : Known) (s : List Char) (rest : List (List Char)) :
    Option ((Char × List Char) × List (List Char)) :=
  let name := s.takeWhile (· ≠ '=')
  match k.long.lookup (String.ofList name), s.drop name.length, rest with
  | some c, '=' :: v, rest => some ((c, v), rest)
  | some c, _, rest =>
    if k.valued.contains c then
      match rest with
      | v :: rest => some ((c, v), rest)
      | [] => none
    else some ((c, []), rest)
  | none, _, _ => none

/-- Arguments divided into options and operands, in at most `n` steps. -/
def parseFrom? (k : Known) : Nat → List (List Char) → Option Options
  | 0, _ => none
  | _, [] => some {}
  | n + 1, a :: as =>
    match a with
    | ['-', '-'] => some { operands := as }
    | '-' :: '-' :: name => do
      let (o, rest) ← longName? k name as
      let r ← parseFrom? k n rest
      some { r with given := o :: r.given }
    | '-' :: c :: cs => do
      let (os, rest) ← letters? k (c :: cs) as
      let r ← parseFrom? k n rest
      some { r with given := os ++ r.given }
    | a => do
      let r ← parseFrom? k n as
      some { r with operands := a :: r.operands }

/-- Arguments divided into options and operands, if all options are known. -/
def parse? (k : Known) (args : List (List Char)) : Option Options :=
  parseFrom? k (args.length + 1) args

end Options

/-! ### Texts -/

/-- The text that an operand names: a file's, or the input. -/
def Task.text? (t : Task) (name : List Char) : Option (List Char) :=
  if name = ['-'] then some t.input else t.file name

/-- The texts that operands name, and the names of files that there are not; without operands it is
the input. -/
def Task.texts (t : Task) (names : List (List Char)) : List (List Char) × List (List Char) :=
  if names.isEmpty then ([t.input], [])
  else (names.filterMap t.text?, names.filter fun n => (t.text? n).isNone)

/-- The effect of a tool that makes something of all its texts together. -/
def Task.onTexts (t : Task) (tool : String) (names : List (List Char))
    (f : List Char → List Char) : Effect :=
  let (texts, missing) := t.texts names
  { output := f texts.flatten
    complaint := missing.flatMap fun n =>
      tool.toList ++ ": ".toList ++ n ++ ": No such file or directory\n".toList
    status := if missing.isEmpty then 0 else 1
    readsInput := names.isEmpty || names.contains ['-'] }

def natural? (s : List Char) : Option Nat :=
  if s.isEmpty || s.any (!·.isDigit) then none else some (Integer.ofDigits 10 s)

end RepoBrowser.Shell
