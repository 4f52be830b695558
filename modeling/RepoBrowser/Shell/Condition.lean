import RepoBrowser.Shell.Integer

/-!
# Conditions

The command `test`, also written with brackets: comparisons of texts and integers, questions about
files, and their combinations.

* `Condition` — a condition;
* `Condition.parse?` — the condition that arguments spell;
* `Condition.holds?` — whether it holds, if its integers are well formed;
* `test` — the code that the command ends with: 0 if its condition holds, 1 if not, 2 if it is not
  well formed.
-/

namespace RepoBrowser.Shell

inductive Comparison where
  | same | different | before | after
  | equal | unequal | greater | greaterEqual | less | lessEqual
  deriving DecidableEq, Repr

inductive Question where
  | isEmpty | isNotEmpty | isFile | isDirectory | isDevice | exists_ | hasContent | isUnknown
  deriving DecidableEq, Repr

inductive Condition where
  | compare (c : Comparison) (a b : List Char)
  | ask (q : Question) (a : List Char)
  | not (c : Condition)
  | both (a b : Condition)
  | either (a b : Condition)

/-- What is known of files: whether a name is a directory's or a device's, and what a file holds. -/
structure FileView where
  isDirectory : List Char → Bool
  isDevice : List Char → Bool
  content : List Char → Option (List Char)

namespace Comparison

def ofWord? (s : List Char) : Option Comparison :=
  match String.ofList s with
  | "=" => some .same
  | "!=" => some .different
  | "<" => some .before
  | ">" => some .after
  | "-eq" => some .equal
  | "-ne" => some .unequal
  | "-gt" => some .greater
  | "-ge" => some .greaterEqual
  | "-lt" => some .less
  | "-le" => some .lessEqual
  | _ => none

/-- The integer that an argument is, with blanks around it at most. -/
def integer? (s : List Char) : Option Int :=
  let (n, r) := Integer.read false s
  if r.all Integer.isSpace && r.length < s.length then some n else none

/-- Whether two arguments compare so, if they are integers where these are compared. -/
def holds? (c : Comparison) (a b : List Char) : Option Bool :=
  match c with
  | .same => some (a = b)
  | .different => some (a ≠ b)
  | .before => some (a < b)
  | .after => some (b < a)
  | .equal => both fun m n => m = n
  | .unequal => both fun m n => m ≠ n
  | .greater => both fun m n => n < m
  | .greaterEqual => both fun m n => n ≤ m
  | .less => both fun m n => m < n
  | .lessEqual => both fun m n => m ≤ n
where
  /-- A comparison of integers. -/
  both (p : Int → Int → Bool) : Option Bool := do some (p (← integer? a) (← integer? b))

end Comparison

namespace Question

def ofWord? (s : List Char) : Option Question :=
  match s with
  | ['-', c] =>
    if c = 'z' then some .isEmpty
    else if c = 'n' then some .isNotEmpty
    else if c = 'f' then some .isFile
    else if c = 'd' then some .isDirectory
    else if c = 'c' then some .isDevice
    else if "erwx".toList.contains c then some .exists_
    else if c = 's' then some .hasContent
    else if "bghkLpStuOG".toList.contains c then some .isUnknown
    else none
  | _ => none

def answer (files : FileView) (q : Question) (a : List Char) : Bool :=
  match q with
  | .isEmpty => a.isEmpty
  | .isNotEmpty => !a.isEmpty
  | .isFile => !files.isDevice a && (files.content a).isSome
  | .isDirectory => files.isDirectory a
  | .isDevice => files.isDevice a
  | .exists_ => files.isDirectory a || (files.content a).isSome
  | .hasContent => files.isDirectory a || (files.content a).any (!·.isEmpty)
  | .isUnknown => false

end Question

namespace Condition

def holds? (files : FileView) : Condition → Option Bool
  | .compare c a b => c.holds? a b
  | .ask q a => some (q.answer files a)
  | .not c => (holds? files c).map (!·)
  | .both a b => do if ← holds? files a then holds? files b else some false
  | .either a b => do if ← holds? files a then some true else holds? files b

mutual

def readEither : Nat → List (List Char) → Option (Condition × List (List Char))
  | 0, _ => none
  | n + 1, s => do
    let (a, r) ← readBoth n s
    match r with
    | ['-', 'o'] :: r => do
      let (b, r) ← readEither n r
      some (.either a b, r)
    | r => some (a, r)

def readBoth : Nat → List (List Char) → Option (Condition × List (List Char))
  | 0, _ => none
  | n + 1, s => do
    let (a, r) ← readNot n s
    match r with
    | ['-', 'a'] :: r => do
      let (b, r) ← readBoth n r
      some (.both a b, r)
    | r => some (a, r)

/-- Reads a condition, which may be negated or in parentheses. -/
def readNot : Nat → List (List Char) → Option (Condition × List (List Char))
  | 0, _ => none
  | n + 1, s =>
    match s with
    | a :: op :: b :: r =>
      match Comparison.ofWord? op with
      | some c => some (.compare c a b, r)
      | none => readShort n s
    | s => readShort n s

/-- Reads a condition that is no comparison. -/
def readShort : Nat → List (List Char) → Option (Condition × List (List Char))
  | 0, _ => none
  | n + 1, s =>
    match s with
    | ['!'] :: b :: r => (readNot n (b :: r)).map fun p => (.not p.1, p.2)
    | ['('] :: b :: r =>
      match readEither n (b :: r) with
      | some (c, [')'] :: r) => some (c, r)
      | _ => none
    | a :: b :: r =>
      match Question.ofWord? a with
      | some q => some (.ask q b, r)
      | none => some (.ask .isNotEmpty a, b :: r)
    | [a] => some (.ask .isNotEmpty a, [])
    | [] => none

end

def parse? (args : List (List Char)) : Option Condition :=
  match args with
  | [] => some (.ask .isNotEmpty [])
  | args =>
    match readEither (8 * args.length + 8) args with
    | some (c, []) => some c
    | _ => none

end Condition

/-- The code that `test` ends with. -/
def test (files : FileView) (args : List (List Char)) : Nat :=
  match (Condition.parse? args).bind (Condition.holds? files) with
  | some true => 0
  | some false => 1
  | none => 2

/-- The code that `test` ends with when it is written with brackets. -/
def bracketTest (files : FileView) (args : List (List Char)) : Nat :=
  if args.getLast? = some [']'] then test files args.dropLast else 2

end RepoBrowser.Shell
