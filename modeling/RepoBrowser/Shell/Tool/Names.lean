import RepoBrowser.Shell.Tool.Basic

/-!
# Tools for names and files

* `lastName`, `parentName` — the parts of a path;
* `basename`, `dirname` — the tools that print them;
* `tee` — input that is printed and written to files;
* `touch`, `rm`, `cp`, `mv` — files made, removed and copied;
* `mkdir`, `mktemp` — directories, and files and directories with names of their own.
-/

namespace RepoBrowser.Shell.Tool

open Text

/-! ### Paths -/

def dropSlashes (s : List Char) : List Char := (s.reverse.dropWhile (· = '/')).reverse

/-- The last name in a path; a path of slashes only is a slash. -/
def lastName (s : List Char) : List Char :=
  let t := dropSlashes s
  if t.isEmpty then s.take 1 else (t.reverse.takeWhile (· ≠ '/')).reverse

def parentName (s : List Char) : List Char :=
  let t := dropSlashes s
  if t.isEmpty then (if s.isEmpty then ['.'] else ['/'])
  else if t.contains '/' then
    let u := dropSlashes (t.reverse.dropWhile (· ≠ '/')).reverse
    if u.isEmpty then ['/'] else u
  else ['.']

/-- A name without an ending, unless it is nothing else. -/
def withoutEnding (ending name : List Char) : List Char :=
  if name = ending then name else (beforeSuffix? ending name).getD name

def basename : Tool := fun t =>
  let long := [("multiple", 'a'), ("suffix", 's')]
  match Options.parse? { flags := ['a'], valued := ['s'], long } t.arguments with
  | none => .failing "basename: invalid option" 1
  | some o =>
    match o.has 'a' || o.has 's', o.operands with
    | _, [] => .failing "basename: missing operand" 1
    | true, ps =>
      .printing (lineEnded (ps.map fun p => withoutEnding ((o.value? 's').getD []) (lastName p)))
    | false, [p] => .printing (lineEnded [lastName p])
    | false, [p, ending] => .printing (lineEnded [withoutEnding ending (lastName p)])
    | false, _ => .failing "basename: extra operand" 1

def dirname : Tool := fun t =>
  if t.arguments.isEmpty then .failing "dirname: missing operand" 1
  else .printing (lineEnded (t.arguments.map parentName))

/-! ### Files -/

def noSuchFile (tool : String) (name : List Char) : List Char :=
  tool.toList ++ ": ".toList ++ name ++ ": No such file or directory\n".toList

def tee : Tool := fun t =>
  match Options.parse? { flags := "ai".toList, long := [("append", 'a')] } t.arguments with
  | none => .failing "tee: invalid option" 1
  | some o =>
    { output := t.input
      written := o.operands.map fun n =>
        (n, some ((if o.has 'a' then (t.file n).getD [] else []) ++ t.input)) }

def touch : Tool := fun t =>
  { readsInput := false
    written := (t.arguments.filter fun n => n.head? ≠ some '-').map fun n =>
      (n, some ((t.file n).getD [])) }

/-- The directories above one, and that itself. -/
def withParents (name : List Char) : List (List Char) :=
  ((List.range name.length).filter fun k => name[k]? = some '/' && k ≠ 0).map name.take ++ [name]

def mkdir : Tool := fun t =>
  match Options.parse? { flags := "pv".toList, valued := ['m'] } t.arguments with
  | none => .failing "mkdir: invalid option" 1
  | some o =>
    let names := o.operands.map dropSlashes
    let fine := o.has 'p' || names.all fun n =>
      t.isDirectory (parentName n) && !t.isDirectory n && (t.file n).isNone
    if fine then { readsInput := false, made := names.flatMap withParents }
    else .failing "mkdir: cannot create directory" 1

/-- A new file with a name of its own; the letters `X` in a given name are filled in. -/
def mktemp : Tool := fun t =>
  match Options.parse? { flags := "dqut".toList, valued := ['p'] } t.arguments with
  | none => .failing "mktemp: invalid option" 1
  | some o =>
    let model := (o.operands.head?).getD "tmp.XXXXXXXXXX".toList
    let model := match o.value? 'p' with
      | some d => d ++ '/' :: model
      | none => if o.operands.isEmpty || o.has 't' then "/tmp/".toList ++ model else model
    let isTaken (n : List Char) : Bool := t.isDirectory n || (t.file n).isSome
    let names := (List.range 62).map fun k =>
      let letter := "abcdefghijklmnopqrstuvwxyz".toList.getD (k % 26) 'A'
      model.map fun c => if c = 'X' then letter else c
    match names.find? (!isTaken ·) with
    | some n =>
      if o.has 'd' then { output := n ++ ['\n'], readsInput := false, made := [n] }
      else { output := n ++ ['\n'], readsInput := false, written := [(n, some [])] }
    | none => .failing "mktemp: failed to create file" 1

def rm : Tool := fun t =>
  match Options.parse? { flags := "frRiv".toList } t.arguments with
  | none => .failing "rm: invalid option" 1
  | some o =>
    let missing := if o.has 'f' then [] else o.operands.filter fun n => (t.file n).isNone
    { complaint := missing.flatMap fun n =>
        "rm: cannot remove ".toList ++ n ++ ": No such file or directory\n".toList
      status := if missing.isEmpty then 0 else 1
      readsInput := false
      written := o.operands.map fun n => (n, none) }

/-- A file is copied, and removed if it is moved. -/
def copying (tool : String) (moves : Bool) : Tool := fun t =>
  match t.arguments.filter fun n => n.head? ≠ some '-' with
  | [a, b] =>
    match t.file a with
    | some s =>
      { readsInput := false
        written := (b, some s) :: if moves && a ≠ b then [(a, none)] else [] }
    | none => { complaint := noSuchFile tool a, status := 1, readsInput := false }
  | _ => .failing (tool ++ ": missing file operand") 1

def cp : Tool := copying "cp" false

def mv : Tool := copying "mv" true

end RepoBrowser.Shell.Tool
