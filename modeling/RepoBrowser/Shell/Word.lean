import RepoBrowser.Shell.Arithmetic
import RepoBrowser.Shell.Pattern
import RepoBrowser.Shell.State

/-!
# What words stand for

* `Atom` — a byte of an expanded word with where it comes from, or a mark between words;
* `atoms` — the atoms of a word;
* `fields` — the words that atoms make up, divided at separators in values;
* `expandWords`, `expandText`, `expandPattern` — what words stand for as the words of a command, as
  a text, and as a pattern.
-/

namespace RepoBrowser.Shell

/-- Where a byte comes from: written in the script, quoted there, or out of an expansion. -/
inductive Origin where
  | written | quoted | expanded
  deriving DecidableEq, Repr

/-- A byte of an expanded word; `mark` keeps a word from being lost when it is empty, and `divide`
ends a word. -/
inductive Atom where
  | byte (origin : Origin) (c : Char)
  | mark
  | divide
  deriving DecidableEq, Repr

abbrev Runner := Command → State → State

/-! ### Dividing values -/

/-- Words under construction: whole ones in reverse, the open one in reverse if there is one, and
whether a blank has ended the last. -/
structure Dividing where
  back : List (List Char) := []
  open_ : Option (List Char) := none
  afterBlank : Bool := false

namespace Dividing

def close (d : Dividing) : Dividing :=
  match d.open_ with
  | some w => { d with back := w.reverse :: d.back, open_ := none }
  | none => d

def push (d : Dividing) (c : Char) : Dividing :=
  { d with open_ := some (c :: d.open_.getD []), afterBlank := false }

/-- A separator: blanks count as one, any other ends a word even if that is empty. -/
def separate (d : Dividing) (c : Char) : Dividing :=
  if c = ' ' || c = '\t' || c = '\n' then
    if d.open_.isSome then { d.close with afterBlank := true } else d
  else if d.open_.isSome then { d.close with afterBlank := false }
  else if d.afterBlank then { d with afterBlank := false }
  else { d with back := [] :: d.back }

def add (separators : List Char) (d : Dividing) : Atom → Dividing
  | .byte .expanded c => if separators.contains c then d.separate c else d.push c
  | .byte _ c => d.push c
  | .mark => { d with open_ := some (d.open_.getD []), afterBlank := false }
  | .divide => d.close

end Dividing

def fields (separators : List Char) (as : List Atom) : List (List Char) :=
  (as.foldl (Dividing.add separators) {}).close.back.reverse

/-! ### Expansions -/

def valueAtoms (quoted : Bool) (v : List Char) : List Atom :=
  v.map (.byte (if quoted then .quoted else .expanded))

def textOf (as : List Atom) : List Char :=
  as.filterMap fun
    | .byte _ c => some c
    | .mark => none
    | .divide => some ' '

def patternOf (as : List Atom) : Pattern :=
  .of (as.filterMap fun
    | .byte o c => some (c, o = .quoted)
    | .mark => none
    | .divide => some (' ', true))

/-- What commands print, without line ends at its end, and the state after them, in which only
what is shared has changed. -/
def capture (run : Runner) (cs : List Command) (s : State) : List Char × State :=
  let (k, world) := s.world.open_ []
  let t := { s with world, isTested := false }.connect 1 (.channel k)
  let inner := run (.subshell (.sequence cs)) t
  let text := (inner.world.content k).filter (· ≠ '\x00')
  ((text.reverse.dropWhile (· = '\n')).reverse,
    { s with
      world := inner.world.close k
      substituted := some inner.status
      flow := if inner.world.killed.isSome then .ended else s.flow })

/-- The arguments as atoms: each a word of its own, those in quotes even if they are empty. -/
def argumentAtoms (quoted : Bool) : List (List Char) → List Atom
  | [] => []
  | [a] => (if quoted then [.mark] else []) ++ valueAtoms quoted a
  | a :: as =>
    (if quoted then [.mark] else []) ++ valueAtoms quoted a ++ .divide :: argumentAtoms quoted as

def joinedArguments (s : State) : List Char :=
  match s.separators with
  | [] => s.arguments.flatten
  | c :: _ => (s.arguments.intersperse [c]).flatten

/-- The value of a parameter that is no list, if it is set. -/
def parameter? (s : State) (name : List Char) : Option (List Char) :=
  match name with
  | ['?'] => some (Nat.toDigits 10 s.status)
  | ['#'] => some (Nat.toDigits 10 s.arguments.length)
  | ['$'] => some (Nat.toDigits 10 s.number)
  | ['-'] => some ((Switch.all.reverse.filter s.has).filterMap Switch.letter?)
  | ['!'] => none
  | ['0'] => some s.title
  | ['@'] | ['*'] => if s.arguments.isEmpty then none else some (joinedArguments s)
  | c :: r =>
    if c.isDigit then s.arguments[Integer.ofDigits 10 (c :: r) - 1]? else s.lookup? (c :: r)
  | [] => none

def parameterAtoms (quoted : Bool) (name : List Char) (s : State) : List Atom × State :=
  match name with
  | ['@'] => (argumentAtoms quoted s.arguments, s)
  | ['*'] =>
    (if quoted then valueAtoms true (joinedArguments s) else argumentAtoms false s.arguments, s)
  | name =>
    match parameter? s name with
    | some v => (valueAtoms quoted v, s)
    | none =>
      if s.has .nounset && name ≠ ['!'] then
        ([], s.fail (name ++ ": parameter not set".toList))
      else ([], s)

def parameterLength (name : List Char) (s : State) : List Char :=
  Nat.toDigits 10 (match name with
    | ['@'] | ['*'] => (joinedArguments s).length
    | name => ((parameter? s name).getD []).length)

/-- The atoms of a word and the state after its expansions, in at most `n` steps; `inside` tells
whether the word stands in a parameter's braces. -/
def atoms (run : Runner) : Nat → Bool → Word → State → List Atom × State
  | 0, _, _, s => ([], s)
  | _, _, [], s => ([], s)
  | n + 1, inside, p :: ps, s =>
    let (as, s) : List Atom × State :=
      match p with
      | .char quoted c =>
        ([.byte (if quoted then .quoted else if inside then .expanded else .written) c], s)
      | .quotes => ([.mark], s)
      | .substitution quoted cs =>
        let (v, s) := capture run cs s
        (valueAtoms quoted v, s)
      | .arithmetic quoted e =>
        let (as, s) := atoms run n false e s
        match (Sum.parse? (textOf as)).bind (Sum.eval? s.values) with
        | some (k, values) =>
          let changed := (values.take (values.length - s.values.length)).reverse
          let s := changed.foldl (fun s v => s.set v.1 v.2) s
          (valueAtoms quoted (Integer.text k), s)
        | none => ([], s.fail "arithmetic expression: syntax error".toList)
      | .parameter quoted name use w =>
        let missing (orNull : Bool) : Bool :=
          match parameter? s name with
          | none => true
          | some v => orNull && v.isEmpty
        match use with
        | .value => parameterAtoms quoted name s
        | .length =>
          if s.has .nounset && (parameter? s name).isNone && name ≠ ['@'] && name ≠ ['*'] then
            ([], s.fail (name ++ ": parameter not set".toList))
          else (valueAtoms quoted (parameterLength name s), s)
        | .orElse orNull =>
          if missing orNull then atoms run n true w s else parameterAtoms quoted name s
        | .instead orNull => if missing orNull then ([], s) else atoms run n true w s
        | .orAssign orNull =>
          if missing orNull then
            let (as, s) := atoms run n true w s
            if isName name then (valueAtoms quoted (textOf as), s.set name (textOf as))
            else ([], s.fail (name ++ ": bad variable name".toList))
          else parameterAtoms quoted name s
        | .orFail orNull =>
          if missing orNull then
            let (as, s) := atoms run n true w s
            let reason := if w.isEmpty then
                (if orNull then "parameter not set or null" else "parameter not set").toList
              else textOf as
            ([], s.fail (name ++ ": ".toList ++ reason))
          else parameterAtoms quoted name s
        | .without side longest =>
          let (as, s) := atoms run n false w s
          let v := (parameter? s name).getD []
          let v := match side with
            | .front => Pattern.cutFront (patternOf as) longest v
            | .back => Pattern.cutBack (patternOf as) longest v
          (valueAtoms quoted v, s)
        | .wrong => ([], s.fail "Bad substitution".toList)
    let (bs, s) := atoms run n inside ps s
    (as ++ bs, s)

/-- A word with a tilde at its start read as the home directory. -/
def withHome (w : Word) (s : State) : Word :=
  match w with
  | .char false '~' :: ps =>
    let isAlone := match ps with
      | [] => true
      | .char false '/' :: _ => true
      | _ => false
    match s.lookup? "HOME".toList with
    | some home => if isAlone then home.map (.char true) ++ ps else w
    | none => w
  | w => w

/-- The words that words of a command stand for, and the state after their expansions. -/
def expandWords (run : Runner) (n : Nat) : List Word → State → List (List Char) × State
  | [], s => ([], s)
  | w :: ws, s =>
    let (as, s) := atoms run n false (withHome w s) s
    let (fs, t) := expandWords run n ws s
    (fields s.separators as ++ fs, t)

def expandText (run : Runner) (n : Nat) (w : Word) (s : State) : List Char × State :=
  let (as, s) := atoms run n false (withHome w s) s
  (textOf as, s)

def expandPattern (run : Runner) (n : Nat) (w : Word) (s : State) : Pattern × State :=
  let (as, s) := atoms run n false w s
  (patternOf as, s)

end RepoBrowser.Shell
