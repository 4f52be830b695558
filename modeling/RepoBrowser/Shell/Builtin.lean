import RepoBrowser.Shell.Condition
import RepoBrowser.Shell.Format
import RepoBrowser.Shell.Tool
import RepoBrowser.Shell.Word

/-!
# Commands of the shell itself

* `Builtin` — a command that works on the state of the shell;
* `Builtin.regular?` — those that are like other commands: `echo`, `printf`, `test`, `read` and
  their like;
* `Builtin.special?` — those that change how the shell runs on: `break`, `exit`, `export`, `set`
  and their like; an error in one of them ends the shell.

Those that run commands are not here.
-/

namespace RepoBrowser.Shell

open Text

abbrev Builtin := List (List Char) → State → State

namespace State

def ending (s : State) (status : Nat) : State := { s with status }

/-- The state after a command that printed something; it fails if its output is not connected. -/
def printing (s : State) (t : List Char) (status : Nat) : State :=
  if s.isOpen 1 || t.isEmpty then (s.write 1 t).ending status
  else (s.complain "I/O error".toList).ending 1

/-- The state after a command that could not do what it was asked for. -/
def refuse (s : State) (t : List Char) : State := (s.complain t).ending 2

def split (arg : List Char) : List Char × Option (List Char) :=
  match cut? '=' arg with
  | some (name, value) => (name, some value)
  | none => (arg, none)

end State

namespace Builtin

/-! ### Variables -/

def quoted (t : List Char) : List Char :=
  '\'' :: t.flatMap (fun c => if c = '\'' then "'\"'\"'".toList else [c]) ++ ['\'']

/-- What is done to the names in arguments, each after the value with it has been assigned; a name
that is none ends the shell. -/
def declare (f : List Char → State → State) : Builtin := fun args s =>
  args.foldl (fun s arg =>
    if !s.isGoing then s
    else
      let (name, value) := State.split arg
      if !isName name then s.fail (name ++ ": bad variable name".toList)
      else
        f name (match value with
          | some v => s.set name v
          | none => s)) (s.ending 0)

def listing (front : List Char) (s : State) (names : List (List Char)) : List Char :=
  (names.mergeSort fun a b => !decide (b < a)).flatMap fun n =>
    front ++ n ++ (match s.lookup? n with
      | some v => '=' :: quoted v
      | none => []) ++ ['\n']

def export_ : Builtin := fun args s =>
  match args with
  | [] | [['-', 'p']] => s.printing (listing "export ".toList s s.exported) 0
  | args => declare (fun name s => s.share name) args s

def readonly : Builtin := fun args s =>
  match args with
  | [] | [['-', 'p']] => s.printing (listing "readonly ".toList s s.fixed) 0
  | args => declare (fun name s => { s with fixed := name :: s.fixed }) args s

def local_ : Builtin := fun args s =>
  match s.locals with
  | [] => s.fail "local: not in a function".toList
  | _ =>
    args.foldl (fun s arg =>
      if !s.isGoing then s
      else
        let (name, value) := State.split arg
        if !isName name then s.fail (name ++ ": bad variable name".toList)
        else
          let s := match s.locals with
            | frame :: frames =>
              if (frame.lookup name).isSome then s
              else { s with locals := ((name, s.lookup? name) :: frame) :: frames }
            | [] => s
          match value with
          | some v => s.set name v
          | none => s) (s.ending 0)

/-- Takes values off variables, or functions away. -/
def unset : Builtin := fun args s =>
  match args with
  | ['-', 'f'] :: names =>
    { s with functions := s.functions.filter (!names.contains ·.1), status := 0 }
  | args =>
    let names := match args with
      | ['-', 'v'] :: names => names
      | names => names
    names.foldl (fun s name => if s.isGoing then s.unset name else s) (s.ending 0)

/-! ### The way the shell runs on -/

/-- The number that a first argument is, and what is done with it; one that is no number ends the
shell. -/
def withNumber (name : String) (default_ : Nat) (f : Nat → State → State) : Builtin := fun args s =>
  match args with
  | [] => f default_ s
  | a :: _ =>
    match natural? a with
    | some n => f n s
    | none => s.fail (name.toList ++ ": Illegal number: ".toList ++ a)

/-- Leaves loops, or rounds of them. -/
def leave (name : String) (flow : Nat → Flow) : Builtin :=
  withNumber name 1 fun n s =>
    if n = 0 then s.fail (name.toList ++ ": Illegal number: 0".toList)
    else
      let k := min n s.loops
      { s with status := 0, flow := if k = 0 then s.flow else flow k }

def exit : Builtin := fun args s =>
  withNumber "exit" s.status (fun n s => { s with status := n % 256, flow := .ended }) args s

def return_ : Builtin := fun args s =>
  withNumber "return" s.status (fun n s => { s with status := n, flow := .returning }) args s

def shift : Builtin :=
  withNumber "shift" 1 fun n s =>
    if s.arguments.length < n then s.fail "shift: can't shift that many".toList
    else
      { s with
        arguments := s.arguments.drop n
        status := 0
        nextOption := 1
        letter := none }

def switch (on : Bool) (s : State) (o : Switch) : State :=
  let others := s.switches.filter (· ≠ o)
  { s with switches := if on then o :: others else others }

def switchLetter (on : Bool) (s : State) (c : Char) : State :=
  if !s.isGoing then s
  else
    match Switch.ofLetter? c with
    | some o => switch on s o
    | none => s.fail ("set: Illegal option -".toList ++ [c])

def switchNamed (on : Bool) (s : State) (name : List Char) : State :=
  if !s.isGoing then s
  else
    match Switch.ofName? name with
    | some o => switch on s o
    | none =>
      let sign := if on then '-' else '+'
      s.fail ("set: Illegal option ".toList ++ sign :: 'o' :: ' ' :: name)

/-- The options as a table, and as the commands that would switch them. -/
def optionLines (asCommands : Bool) (s : State) : List Char :=
  let column (o : Switch) : List Char := List.replicate (16 - o.name.length) ' '
  if asCommands then
    Switch.all.flatMap fun o =>
      (if s.has o then "set -o " else "set +o ").toList ++ o.name.toList ++ ['\n']
  else
    "Current option settings\n".toList ++ Switch.all.flatMap fun o =>
      o.name.toList ++ column o ++ (if s.has o then "on\n" else "off\n").toList

/-- New arguments, in which options are looked for from the first on. -/
def withArguments (s : State) (args : List (List Char)) : State :=
  { s with arguments := args, nextOption := 1, letter := none }

/-- Switches options and sets arguments; without either it lists all variables. -/
def set : Builtin := fun args s =>
  if args.isEmpty then s.printing (listing [] s (s.values.map Prod.fst)) 0
  else go args (s.ending 0)
where
  /-- The same for the arguments that are left. -/
  go : List (List Char) → State → State
    | [], s => s
    | ['-', '-'] :: as, s => withArguments s as
    | ['-'] :: as, s => if as.isEmpty then s else withArguments s as
    | ['-', 'o'] :: [], s => s.printing (optionLines false s) 0
    | ['+', 'o'] :: [], s => s.printing (optionLines true s) 0
    | ['-', 'o'] :: name :: as, s => go as (switchNamed true s name)
    | ['+', 'o'] :: name :: as, s => go as (switchNamed false s name)
    | ('-' :: c :: cs) :: as, s =>
      if cs.getLast? = some 'o' then
        match as with
        | name :: as =>
          go as (switchNamed true ((c :: cs.dropLast).foldl (switchLetter true) s) name)
        | [] => (c :: cs.dropLast).foldl (switchLetter true) s
      else go as ((c :: cs).foldl (switchLetter true) s)
    | ('+' :: c :: cs) :: as, s => go as ((c :: cs).foldl (switchLetter false) s)
    | as, s => withArguments s as

/-! ### Options of scripts -/

/-- A letter looked for in a list of letters, in which a colon stands behind one that takes a value:
whether it is there and takes one. -/
def optionKind? (c : Char) : List Char → Option Bool
  | [] => none
  | d :: ':' :: ds => if d = c then some true else optionKind? c ds
  | d :: ds => if d = c then some false else optionKind? c ds

/-- The letters of options that come next in arguments, none where no option comes next, and the
place behind them.  `letter` is where there may be more in the argument before the place. -/
def nextLetters (args : List (List Char)) (place : Nat) (letter : Option Nat) :
    List Char × Nat :=
  let left := match letter with
    | some k => if place ≤ 1 then [] else ((args[place - 2]?).getD []).drop k
    | none => []
  if !left.isEmpty then (left, place)
  else
    match args[place - 1]? with
    | some ['-', '-'] => ([], place + 1)
    | some ('-' :: c :: cs) => (c :: cs, place + 1)
    | _ => ([], place)

/-- Takes the next option of the arguments, or of those given. -/
def getopts : Builtin := fun args s =>
  match args with
  | known :: name :: given =>
    let args := if given.isEmpty then s.arguments else given
    let s :=
      if args.length + 1 < s.nextOption then { s with nextOption := 1, letter := none } else s
    let finish (s : State) (value : List Char) (place : Nat) (letter : Option Nat) (status : Nat) :
        State :=
      let s := (s.set "OPTIND".toList (Nat.toDigits 10 place)).set name value
      if s.isGoing then { s with nextOption := place, letter, status } else s
    let isQuiet := known.head? = some ':'
    match nextLetters args s.nextOption s.letter with
    | ([], place) => finish s ['?'] place none 1
    | (c :: cs, place) =>
      let width := ((args[place - 2]?).getD []).length
      let more := if cs.isEmpty then none else some (width - cs.length)
      match if c = ':' then none else optionKind? c (known.dropWhile (· = ':')) with
      | none =>
        let s := if isQuiet then s.set "OPTARG".toList [c]
          else (s.write 2 ("Illegal option -".toList ++ [c, '\n'])).unset "OPTARG".toList
        finish s ['?'] place (some (width - cs.length)) 0
      | some false => finish (s.set "OPTARG".toList []) [c] place (some (width - cs.length)) 0
      | some true =>
        if more.isSome then finish (s.set "OPTARG".toList cs) [c] place none 0
        else
          match args[place - 1]? with
          | some v => finish (s.set "OPTARG".toList v) [c] (place + 1) none 0
          | none =>
            if isQuiet then finish (s.set "OPTARG".toList [c]) [':'] place none 0
            else
              let s := s.write 2 ("No arg for -".toList ++ c :: " option\n".toList)
              finish (s.unset "OPTARG".toList) ['?'] place none 0
  | _ => s.refuse "getopts: Usage: getopts optstring var [arg...]".toList

def trap : Builtin := fun args s =>
  let isExit (a : List Char) : Bool := a = ['0'] || a = "EXIT".toList || a = "exit".toList
  let args := match args with
    | ['-', '-'] :: as => as
    | as => as
  match args with
  | [] =>
    s.printing (if s.atExit.isEmpty then []
      else "trap -- ".toList ++ quoted s.atExit ++ " EXIT\n".toList) 0
  | [a] => (if isExit a then { s with atExit := [] } else s).ending 0
  | a :: signals =>
    if (natural? a).isSome then
      (if (a :: signals).any isExit then { s with atExit := [] } else s).ending 0
    else
      (if signals.any isExit then { s with atExit := if a = ['-'] then [] else a } else s).ending 0

/-! ### Reading -/

/-- A line of input with its backslashes read unless it is `raw`: its bytes with whether a
backslash stood before them, whether the line has an end, and how many bytes were read. -/
def inputLine (raw : Bool) : Nat → List Char → List (Char × Bool) × Bool × Nat
  | 0, _ => ([], false, 0)
  | _, [] => ([], false, 0)
  | n + 1, c :: s =>
    if c = '\n' then ([], true, 1)
    else if c = '\\' && !raw then
      match s with
      | [] => ([], false, 1)
      | d :: r =>
        let (cs, ended, k) := inputLine raw n r
        (if d = '\n' then cs else (d, true) :: cs, ended, k + 2)
    else
      let (cs, ended, k) := inputLine raw n s
      ((c, false) :: cs, ended, k + 1)

/-- Whether a byte of a line is a separator, and whether it is a blank one. -/
def isSeparator (separators : List Char) (blank : Bool) (c : Char × Bool) : Bool :=
  !c.2 && separators.contains c.1 && (!blank || c.1 = ' ' || c.1 = '\t' || c.1 = '\n')

/-- The values of as many variables as there are names: the last takes all that is left. -/
def divide (separators : List Char) : List (List Char) → List (Char × Bool) →
    List (List Char × List Char)
  | [], _ => []
  | name :: names, line =>
    let line := line.dropWhile (isSeparator separators true)
    let word := line.takeWhile (!isSeparator separators false ·)
    let behind := (line.drop word.length).dropWhile (isSeparator separators true)
    let behind := match behind with
      | c :: r =>
        if isSeparator separators false c then r.dropWhile (isSeparator separators true)
        else c :: r
      | [] => []
    if names.isEmpty then
      if behind.isEmpty then [(name, word.map Prod.fst)]
      else [(name, ((line.reverse.dropWhile (isSeparator separators true)).reverse).map Prod.fst)]
    else (name, word.map Prod.fst) :: divide separators names behind

def read : Builtin := fun args s =>
  match Options.parse? { flags := ['r'], valued := ['p'] } args with
  | none => s.refuse "read: Illegal option".toList
  | some o =>
    if o.operands.isEmpty then s.refuse "read: arg count".toList
    else if o.operands.any (!isName ·) then s.refuse "read: bad variable name".toList
    else
      let ahead := s.ahead 0
      let (line, ended, k) := inputLine (o.has 'r') (ahead.length + 1) ahead
      let s := s.skip 0 k
      let s := (divide s.separators o.operands line).foldl (fun s v => s.set v.1 v.2) s
      if s.isGoing then s.ending (if ended then 0 else 1) else s

/-! ### Other commands -/

/-- The directories that there always are. -/
def directories : List (List Char) :=
  ["/", ".", "..", "/bin", "/dev", "/etc", "/home", "/lib", "/opt", "/proc", "/root", "/run",
    "/sbin", "/sys", "/tmp", "/usr", "/usr/bin", "/usr/lib", "/usr/local", "/var",
    "/var/tmp"].map String.toList

def isDirectory (s : State) (name : List Char) : Bool :=
  let name := if name.all (· = '/') then name.take 1 else Tool.dropSlashes name
  directories.contains name || s.world.directories.contains name

def view (s : State) : FileView := 
  let programs := Tool.directories.map (· ++ ['/'])
  let isProgram (n : List Char) : Bool :=
    programs.any fun d => (afterPrefix? d n).any fun t => t = ['s', 'h'] || (Tool.named? t).isSome
  { isDirectory := isDirectory s
    isDevice := fun n => n = "/dev/null".toList
    content := fun n => (s.world.file? n).or (if isProgram n then some n else none) }

def test_ (f : FileView → List (List Char) → Nat) : Builtin := fun args s =>
  let status := f (view s) args
  if status = 2 then s.refuse "test: Illegal number".toList else s.ending status

def cd : Builtin := fun args s =>
  let target := match args.filter fun a => a ≠ ['-', 'P'] && a ≠ ['-', 'L'] with
    | a :: _ => a
    | [] => (s.lookup? "HOME".toList).getD []
  if target.isEmpty then s.ending 0
  else if isDirectory s target then
    let s := s.set "OLDPWD".toList ((s.lookup? "PWD".toList).getD [])
    let s := if target.head? = some '/' then s.set "PWD".toList target else s
    s.ending 0
  else s.refuse ("cd: can't cd to ".toList ++ target)

def signal? (s : List Char) : Option Nat :=
  match natural? s, String.ofList s with
  | some n, _ => some n
  | none, "HUP" => some 1
  | none, "INT" => some 2
  | none, "QUIT" => some 3
  | none, "KILL" => some 9
  | none, "USR1" => some 10
  | none, "USR2" => some 12
  | none, "PIPE" => some 13
  | none, "ALRM" => some 14
  | none, "TERM" => some 15
  | none, _ => none

/-- Sends signals; the first shell and the one that runs are the programs that there are to send
them to. -/
def kill : Builtin := fun args s =>
  let (signal, targets) : Option Nat × List (List Char) :=
    match args with
    | ['-', 's'] :: name :: targets => (signal? name, targets)
    | ('-' :: name) :: targets => (signal? name, targets)
    | targets => (some 15, targets)
  match signal with
  | none => s.refuse "kill: bad signal".toList
  | some n =>
    if targets.isEmpty then s.refuse "kill: Usage".toList
    else
      let first := ({} : State).number
      let isKnown (k : Option Nat) : Bool := k = some first || k = some s.number
      if targets.any fun t => !isKnown (natural? t) then
        (s.complain "kill: No such process".toList).ending 1
      else if n = 0 then s.ending 0
      else if targets.any fun t => natural? t = some first then
        { s with world := { s.world with killed := some (128 + n) }, flow := .ended }
      else { s with status := 128 + n, flow := .ended, atExit := [] }

/-- The names of the regular commands that have nothing to do in a script. -/
def passive : List String := ["wait", "hash", "alias", "unalias", "ulimit", "jobs"]

/-- A command that is like any other. -/
def regular? (name : List Char) : Option Builtin :=
  match String.ofList name with
  | "echo" => some fun args s => s.printing (Shell.echo args) 0
  | "printf" => some fun args s =>
    let (out, status) := Shell.printf args
    s.printing out status
  | "test" => some (test_ test)
  | "[" => some (test_ bracketTest)
  | "true" => some fun _ s => s.ending 0
  | "false" => some fun _ s => s.ending 1
  | "read" => some read
  | "cd" => some cd
  | "pwd" => some fun _ s => s.printing ((s.lookup? "PWD".toList).getD ['/'] ++ ['\n']) 0
  | "umask" => some fun args s => if args.isEmpty then s.printing "0022\n".toList 0 else s.ending 0
  | "kill" => some kill
  | "getopts" => some getopts
  | "fg" | "bg" => some fun _ s => s.refuse (name ++ ": No current job".toList)
  | n => if passive.contains n then some fun _ s => s.ending 0 else none

/-- A command that changes how the shell runs on. -/
def special? (name : List Char) : Option Builtin :=
  match String.ofList name with
  | ":" | "times" => some fun _ s => s.ending 0
  | "break" => some (leave "break" .leaving)
  | "continue" => some (leave "continue" .skipping)
  | "exit" => some exit
  | "export" => some export_
  | "local" => some local_
  | "readonly" => some readonly
  | "return" => some return_
  | "set" => some set
  | "shift" => some shift
  | "trap" => some trap
  | "unset" => some unset
  | _ => none

/-- Whether arguments of a command that assign are not divided. -/
def declares (name : List Char) : Bool :=
  ["export", "readonly", "local"].contains (String.ofList name)

end Builtin

end RepoBrowser.Shell
