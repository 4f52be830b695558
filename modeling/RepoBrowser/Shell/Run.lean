import RepoBrowser.Checkout
import RepoBrowser.Shell.Builtin
import RepoBrowser.Shell.Reader
import RepoBrowser.Shell.Tool.Awk.Run
import RepoBrowser.Shell.Word
import RepoBrowser.Text.Utf8

/-!
# Running commands

* `redirect` — streams sent elsewhere;
* `runScript` — a script, line by line;
* `runTool`, `runProgram` — tools, and programs that run others, such as `env`, `xargs` and `sh`;
* `runSimple` — a simple command: its words, redirections and assignments, and what it calls;
* `execute` — any command, with a bound on how deeply commands stand in each other;
* `run` — what a script prints and the code it exits with.

Each of these is given a `Runner` for the commands that stand inside; `execute` ties the knot.
-/

namespace RepoBrowser.Shell

open Text

/-- More steps than any expansion takes, and more rounds than any loop. -/
def stepLimit : Nat := 1000000

/-! ### Streams -/

def device? (s : State) (name : List Char) : Option Handle :=
  let stream (n : Nat) : Option Handle := some ((s.handles.lookup n).getD .nothing)
  match String.ofList name with
  | "/dev/null" => some .nothing
  | "/dev/stdin" | "/dev/fd/0" => stream 0
  | "/dev/stdout" | "/dev/fd/1" => stream 1
  | "/dev/stderr" | "/dev/fd/2" => stream 2
  | _ => none

/-- A stream connected to a file; if that cannot be, there is none. -/
def openFile? (mode : Mode) (stream : Nat) (name : List Char) (s : State) : Option State :=
  match device? s name, mode with
  | some h, _ => some (s.connect stream h)
  | none, .read =>
    (s.world.file? name).map fun t =>
      let (k, world) := s.world.open_ t
      { s with world }.connect stream (.channel k)
  | none, mode =>
    if Builtin.isDirectory s name || !Builtin.isDirectory s (Tool.parentName name) then none
    else if mode = .write && s.has .noclobber && (s.world.file? name).isSome then none
    else
      let old := (s.world.file? name).getD []
      let world := s.world.setFile name (if mode = .append then old else [])
      some ({ s with world }.connect stream (.file name))

/-- One stream sent elsewhere, and whether that could be done. -/
def redirect (run : Runner) (r : Redirect) (s : State) : Bool × State :=
  match r with
  | .file stream mode w =>
    let (name, s) := expandText run stepLimit w s
    if !s.isGoing then (false, s)
    else
      match openFile? mode stream name s with
      | some s => (true, s)
      | none =>
        let verb := if mode = .read then "cannot open " else "cannot create "
        let reason := if mode = .read then ": No such file" else ": Directory nonexistent"
        (false, s.complain (verb.toList ++ name ++ reason.toList))
  | .copy stream w =>
    let (name, s) := expandText run stepLimit w s
    if !s.isGoing then (false, s)
    else if name = ['-'] then (true, s.disconnect stream)
    else
      match (natural? name).bind fun n => s.handles.lookup n with
      | some h => (true, s.connect stream h)
      | none =>
        if (natural? name).isSome then (false, s.complain (name ++ ": Bad file descriptor".toList))
        else (false, s.fail "Syntax error: Bad fd number".toList)
  | .document stream place =>
    let (as, s) := atoms run stepLimit false ((s.world.documents[place]?).getD []) s
    let (k, world) := s.world.open_ (textOf as)
    (s.isGoing, { s with world }.connect stream (.channel k))

/-- Streams sent elsewhere, one after the other until that cannot be done. -/
def redirectAll (run : Runner) : List Redirect → State → Bool × State
  | [], s => (true, s)
  | r :: rs, s =>
    match redirect run r s with
    | (true, s) => redirectAll run rs s
    | (false, s) => (false, s)

def State.withStreams (s : State) (t : State) : State := { s with handles := t.handles }

/-! ### Scripts -/

/-- Runs a script in the shell itself, line by line. -/
def runScript (run : Runner) (text : List Char) (s : State) : State :=
  let r := Reading.of s.world.documents text
  let s := { s with world := { s.world with documents := r.documents } }
  let s := if r.lines.all List.isEmpty then s.ending 0 else s
  let s := r.lines.foldl (fun s cs => cs.foldl (fun s c => run c s) s) s
  if r.broken && s.isGoing then s.fail "Syntax error".toList else s

/-- Runs the commands that a shell has for its end, whose code stays unless they end with one of
their own. -/
def runAtExit (run : Runner) (s : State) : State :=
  if s.atExit.isEmpty || s.world.killed.isSome then s
  else
    let t := runScript run s.atExit { s with atExit := [], flow := .going }
    if t.flow = .ended then t else { t with status := s.status }

/-- The state after another shell, which has come to an end. -/
def State.after (s t : State) : State :=
  { s with
    world := t.world
    status := t.status
    flow := if t.world.killed.isSome then .ended else s.flow }

def inSubshell (run : Runner) (body : State → State) (s : State) : State :=
  let t := runAtExit run (body { s with atExit := [] })
  s.after t

/-- A failure stops the shell if that was asked for and nothing looks at it. -/
def State.checked (s : State) : State :=
  if s.has .errexit && !s.isTested && s.status ≠ 0 && s.isGoing then { s with flow := .ended }
  else s

def tested (f : State → State) (s : State) : State :=
  { f { s with isTested := true } with isTested := s.isTested }

/-! ### Tools and programs -/

def runTool (tool : Tool) (args : List (List Char)) (s : State) : State :=
  let e := tool ⟨args, s.ahead 0, s.world.file?, Builtin.isDirectory s⟩
  let s := if e.readsInput then (s.readAll 0).2 else s
  let write (w : World) (f : List Char × Option (List Char)) : World :=
    match f.2 with
    | some t => w.setFile f.1 t
    | none => { w with files := dissoc f.1 w.files }
  let world := e.written.foldl write s.world
  let s := { s with world := { world with directories := e.made ++ world.directories } }
  let status := if !s.isOpen 1 && !e.output.isEmpty && e.status = 0 then 1 else e.status
  ((s.write 1 e.output).write 2 e.complaint).ending status

/-- The name of a tool in a path that leads to one. -/
def toolName (name : List Char) : List Char :=
  if Tool.directories.contains (Tool.parentName name) && name.contains '/' then Tool.lastName name
  else name

/-- The words in a text, divided at blanks and line ends outside of quotes, in at most `n` steps;
the open one is given in reverse. -/
def quotedWords : Nat → Option (List Char) → List Char → List (List Char)
  | 0, _, _ => []
  | _, w, [] => (w.map List.reverse).toList
  | n + 1, w, c :: s =>
    let old := w.getD []
    if Integer.isSpace c then (w.map List.reverse).toList ++ quotedWords n none s
    else if c = '\'' || c = '"' then
      let t := s.takeWhile (· ≠ c)
      quotedWords n (some (t.reverse ++ old)) (s.drop (t.length + 1))
    else if c = '\\' then
      match s with
      | d :: r => quotedWords n (some (d :: old)) r
      | [] => quotedWords n w []
    else quotedWords n (some (c :: old)) s

/-- Things in groups of `k`, in at most `n` steps. -/
def groupsOf (k : Nat) : Nat → List (List Char) → List (List (List Char))
  | 0, _ => []
  | _, [] => []
  | n + 1, xs => xs.take k :: groupsOf k n (xs.drop k)

/-- A text with every occurrence of another in it replaced, in at most `n` steps. -/
def replaceAll (old new : List Char) : Nat → List Char → List Char
  | 0, s => s
  | _, [] => []
  | n + 1, c :: s =>
    match afterPrefix? old (c :: s) with
    | some r => if old.isEmpty then c :: s else new ++ replaceAll old new n r
    | none => c :: replaceAll old new n s

/-- The commands that `xargs` makes of its arguments and its input. -/
def argumentLists (o : Options) (input : List Char) : List (List (List Char)) :=
  let command := if o.operands.isEmpty then ["echo".toList] else o.operands
  let filled (ws : List (List Char)) : List (List Char) := ws.filter (!·.isEmpty)
  let items :=
    if o.has '0' then filled (pieces '\x00' input)
    else
      match o.value? 'd' with
      | some d =>
        let c := (unescape d).1.headD '\n'
        let ps := pieces c input
        if ps.getLast? = some [] then ps.dropLast else ps
      | none => quotedWords (input.length + 1) none input
  let lines := filled ((linesOf input).map fun l => l.dropWhile Integer.isSpace)
  let words (l : List Char) : List (List Char) := quotedWords (l.length + 1) none l
  match o.value? 'I', (o.value? 'L').bind natural?, (o.value? 'n').bind natural? with
  | some mark, _, _ => lines.map fun l => command.map fun w => replaceAll mark l (w.length + 1) w
  | none, some k, _ =>
    if lines.isEmpty then (if o.has 'r' then [] else [command])
    else (groupsOf (max k 1) lines.length lines).map fun ls => command ++ ls.flatMap words
  | none, none, some k =>
    if items.isEmpty then (if o.has 'r' then [] else [command])
    else (groupsOf (max k 1) items.length items).map (command ++ ·)
  | none, none, none => if items.isEmpty && o.has 'r' then [] else [command ++ items]

/-- The status of `xargs` after one more command. -/
def xargsStatus (old new : Nat) : Nat :=
  if new = 0 then old
  else if new = 126 || new = 127 then new
  else if new = 255 then 124 else 123

/-- The assignments at the start of arguments, and the other arguments. -/
def leadingAssignments : List (List Char) →
    List (List Char × List Char) × List (List Char)
  | [] => ([], [])
  | a :: as =>
    match State.split a with
    | (name, some v) =>
      let (vs, r) := leadingAssignments as
      ((name, v) :: vs, r)
    | _ => ([], a :: as)

def environmentLines (s : State) : List Char :=
  lineEnded (s.environment.map fun v => v.1 ++ '=' :: v.2)

/-- Variables that commands see, added to those of a state. -/
def State.give (s : State) (vs : List (List Char × List Char)) : State :=
  vs.foldl (fun s v => { s with values := assoc v.1 v.2 s.values }.share v.1) s

def State.notFound (s : State) (name : List Char) : State :=
  (s.complain (name ++ ": not found".toList)).ending 127

/-- A shell with nothing but what commands see. -/
def State.bare (s : State) (title : List Char) (args : List (List Char)) : State :=
  { world := s.world, number := s.number + 1, title, values := s.environment,
    exported := s.exported, arguments := args, handles := s.handles, status := 0 }

/-- The letters of options in front of arguments, and the other arguments. -/
def leadingLetters : List (List Char) → List Char × List (List Char)
  | ['-', '-'] :: as => ([], as)
  | ('-' :: c :: cs) :: as =>
    let (more, rest) := leadingLetters as
    (c :: cs ++ more, rest)
  | as => ([], as)

/-- Runs another shell: on a text among its arguments, on its input, or on a file. -/
def runShell (run : Runner) (args : List (List Char)) (s : State) : State :=
  let (letters, args) := leadingLetters args
  let switches := letters.filter fun c => c ≠ 'c' && c ≠ 's'
  let start (t : State) (title : List Char) (args : List (List Char)) (text : List Char) : State :=
    let u := switches.foldl (Builtin.switchLetter true) (t.bare title args)
    s.after (inSubshell run (runScript run text) u)
  if letters.contains 'c' then
    match args with
    | text :: more => start s (more.headD s.title) more.tail text
    | [] => s.ending 2
  else
    match if letters.contains 's' then [] else args with
    | name :: more =>
      match s.world.file? name with
      | some text => start s name more text
      | none =>
        let complaint := "cannot open ".toList ++ name ++ ": No such file".toList
        ({ s with line := 0 }.complain complaint).ending 2
    | [] =>
      let (text, t) := s.readAll 0
      start t s.title (if letters.contains 's' then args else []) text

/-- Whether a name is that of a program that is no tool. -/
def isRunner (name : List Char) : Bool :=
  ["sh", "dash", "bash", "env", "printenv", "nohup", "setsid", "nice", "stdbuf", "timeout", "xargs",
    "which", "awk", "mawk"].contains (String.ofList name)

/-- Runs a program that is no part of the shell: a tool, or one that runs others. -/
def runProgram (run : Runner) : Nat → List Char → List (List Char) → State → State
  | 0, _, _, s => s.ending 127
  | n + 1, name, args, s =>
    let further (args : List (List Char)) (s : State) : State :=
      match args with
      | c :: as => runProgram run n c as s
      | [] => s.ending 125
    match String.ofList (toolName name) with
    | "sh" | "dash" | "bash" => runShell run args s
    | "env" | "printenv" =>
      let clears := args.head? = some ['-', 'i'] || args.head? = some ['-']
      let args := if clears then args.tail else args
      let t := if clears then { s with values := [], exported := [] } else s
      let (vs, rest) := leadingAssignments args
      let t := t.give vs
      if toolName name = "printenv".toList && !rest.isEmpty then
        let found := rest.filterMap fun r => t.environment.lookup r
        s.printing (lineEnded found) (if found.length = rest.length then 0 else 1)
      else if rest.isEmpty then s.printing (environmentLines t) 0
      else
        s.after (further rest t)
    | "nohup" | "setsid" => further args s
    | "nice" | "stdbuf" => further (args.dropWhile fun a => a.head? = some '-') s
    | "timeout" => further (args.dropWhile fun a => a.head? = some '-').tail s
    | "xargs" =>
      match Options.parse? { flags := "0rt".toList, valued := "nIdLPs".toList } (guarded args) with
      | none => s.ending 1
      | some o =>
        let (input, s) := s.readAll 0
        let s := s.ending 0
        (argumentLists o input).foldl (fun s ws =>
          let t := further ws s
          { s with world := t.world, status := xargsStatus s.status t.status }) s
    | "awk" | "mawk" => runTool (Tool.Awk.run s.environment) args s
    | "which" =>
      let found := args.filter fun a => (Tool.named? a).isSome || isRunner a
      s.printing (lineEnded (found.map fun a => "/usr/bin/".toList ++ a))
        (if found.length = args.length && !args.isEmpty then 0 else 1)
    | _ =>
      match Tool.named? (toolName name) with
      | some tool => runTool tool args s
      | none => s.notFound name
where
  /-- Arguments in which no options come behind the first word that is none. -/
  guarded : List (List Char) → List (List Char)
    | [] => []
    | ('-' :: c :: cs) :: as =>
      if cs.isEmpty && "nIdLPs".toList.contains c then
        match as with
        | a :: as => ('-' :: c :: cs) :: a :: guarded as
        | [] => [['-', c]]
      else ('-' :: c :: cs) :: guarded as
    | a :: as => ['-', '-'] :: a :: as

def isProgram (name : List Char) : Bool :=
  let n := toolName name
  (Tool.named? n).isSome || isRunner n

/-! ### Simple commands -/

/-- The words of a command; those that assign are not divided if the command declares. -/
def expandCommand (run : Runner) : List (List Char) → List Word → State →
    List (List Char) × State
  | back, [], s => (back, s)
  | front, w :: ws, s =>
    let isDeclared := (front.head?.any Builtin.declares) && (assignment? w).isSome
    let (new, s) : List (List Char) × State :=
      if isDeclared then
        match assignment? w with
        | some (name, v) =>
          let (t, s) := expandText run stepLimit v s
          ([name ++ '=' :: t], s)
        | none => ([], s)
      else expandWords run stepLimit [w] s
    if s.isGoing then expandCommand run (front ++ new) ws s else (front, s)

/-- Assigns to variables, one after the other. -/
def assignAll (run : Runner) (give : Bool) : List (List Char × Word) → State → State
  | [], s => s
  | (name, w) :: as, s =>
    let (v, s) := expandText run stepLimit w s
    if !s.isGoing then s
    else
      let s := s.set name v
      assignAll run give as (if give then s.share name else s)

/-- Variables as they were in another state. -/
def State.withVariables (s : State) (names : List (List Char)) (t : State) : State :=
  names.foldl (fun s n =>
    let s := s.restore n (t.lookup? n)
    { s with
      exported := if t.exported.contains n then s.exported else s.exported.filter (· ≠ n) }) s

def callFunction (run : Runner) (body : Command) (args : List (List Char)) (s : State) : State :=
  let t := run body
    { s with
      arguments := args
      locals := [] :: s.locals
      loops := 0
      nextOption := 1
      letter := none }
  let frame := t.locals.headD []
  let t := frame.foldl (fun t v => t.restore v.1 v.2) t
  { t with
    arguments := s.arguments
    locals := s.locals
    loops := s.loops
    nextOption := s.nextOption
    letter := s.letter
    flow := if t.flow = .returning then .going else t.flow }

/-- What a name stands for as a command, in words. -/
def describe (verbose : Bool) (s : State) (name : List Char) : Option (List Char) :=
  if verbose then
    if (Builtin.special? name).isSome then some (name ++ " is a special shell builtin".toList)
    else if (s.functions.lookup name).isSome then some (name ++ " is a shell function".toList)
    else if (Builtin.regular? name).isSome then some (name ++ " is a shell builtin".toList)
    else if isProgram name then some (name ++ " is /usr/bin/".toList ++ name)
    else if keywords.contains (String.ofList name) then some (name ++ " is a shell keyword".toList)
    else none
  else if (Builtin.special? name).isSome || (s.functions.lookup name).isSome
      || (Builtin.regular? name).isSome || keywords.contains (String.ofList name) then some name
  else if isProgram name then
    some (if name.contains '/' then name else "/usr/bin/".toList ++ name)
  else none

def runDescribe (verbose : Bool) (names : List (List Char)) (s : State) : State :=
  let found := names.filterMap (describe verbose s)
  let missing := names.filter fun n => (describe verbose s n).isNone
  s.printing (lineEnded found ++
      if verbose then lineEnded (missing.map fun n => n ++ ": not found".toList) else [])
    (if missing.isEmpty then 0 else 127)

/-- Calls what the first word of a command names, in at most `n` steps; `plain` tells that functions
are passed over. -/
def call (run : Runner) : Nat → Bool → List Char → List (List Char) → State → State
  | 0, _, _, _, s => s.ending 127
  | n + 1, plain, name, args, s =>
    match String.ofList name with
    | "command" =>
      match args with
      | ['-', 'v'] :: names => runDescribe false names s
      | ['-', 'V'] :: names => runDescribe true names s
      | ['-', 'p'] :: c :: as | ['-', '-'] :: c :: as | c :: as =>
        let t := call run n true c as s
        if (Builtin.special? c).isSome && t.status = 2 && c ≠ "exit".toList then
          { t with flow := s.flow }
        else t
      | [] => s.ending 0
    | "type" => runDescribe true args s
    | "eval" => runScript run (joinWith [' '] args) s
    | "." =>
      match args with
      | [] => s.fail ".: file argument expected".toList
      | f :: _ =>
        match s.world.file? f with
        | some text =>
          let t := runScript run text s
          { t with flow := if t.flow = .returning then .going else t.flow }
        | none => s.fail (".: cannot open ".toList ++ f ++ ": No such file".toList)
    | "exec" =>
      match args with
      | [] => s.ending 0
      | c :: as =>
        let t := runProgram run stepLimit c as s
        { t with flow := .ended, atExit := if isProgram c then [] else t.atExit }
    | _ =>
      match Builtin.special? name with
      | some b => b args s
      | none =>
        match if plain then none else s.functions.lookup name with
        | some body => callFunction run body args s
        | none =>
          match Builtin.regular? name with
          | some b => b args s
          | none => runProgram run stepLimit name args s

/-- Whether a name is that of a command in which errors end the shell and assignments stay. -/
def isSpecialName (name : List Char) : Bool :=
  (Builtin.special? name).isSome || ["eval", ".", "exec"].contains (String.ofList name)

def runSimple (run : Runner) (assigned : List (List Char × Word)) (ws : List Word)
    (rs : List Redirect) (s : State) : State :=
  let (words, s) := expandCommand run [] ws { s with substituted := none }
  if !s.isGoing then s
  else
    let streams := s
    let (fine, s) := redirectAll run rs s
    if !s.isGoing then s
    else
      match words with
      | [] =>
        let s := assignAll run false assigned s
        if !s.isGoing then s
        else (s.ending (if fine then s.substituted.getD 0 else 2)).withStreams streams
      | name :: args =>
        if isSpecialName name then
          let s := assignAll run false assigned s
          if !s.isGoing then s
          else if !fine then { s with status := 2, flow := .ended }
          else
            let t := call run stepLimit false name args s
            if name = "exec".toList && args.isEmpty then t else t.withStreams streams
        else
          let before := s
          let s := assignAll run true assigned s
          if !s.isGoing then s
          else
            let t := if fine then call run stepLimit false name args s else s.ending 2
            (t.withVariables (assigned.map Prod.fst) before).withStreams streams

/-! ### Compound commands -/

/-- How a loop goes on after something in it: whether there are more rounds, and the state. -/
def afterRound (s : State) : Bool × State :=
  match s.flow with
  | .going => (true, s)
  | .leaving n =>
    (false, if n ≤ 1 then { s with flow := .going } else { s with flow := .leaving (n - 1) })
  | .skipping n =>
    if n ≤ 1 then (true, { s with flow := .going })
    else (false, { s with flow := .skipping (n - 1) })
  | _ => (false, s)

/-- The rounds of a loop, at most `n` of them; `status` is the one of the last round. -/
def rounds (condition body : State → State) (whileTrue : Bool) : Nat → Nat → State → State
  | 0, _, s => { s with flow := .ended, status := 2 }
  | n + 1, status, s =>
    match afterRound (tested condition s) with
    | (false, t) => t.ending (if s.flow = .going && t.flow = .returning then t.status else status)
    | (true, t) =>
      let skipped := (tested condition s).flow ≠ .going
      if skipped then rounds condition body whileTrue n status t
      else if decide (t.status = 0) != whileTrue then t.ending status
      else
        let u := body t
        match afterRound u with
        | (true, v) => rounds condition body whileTrue n u.status v
        | (false, v) => v.ending u.status

def eachRound (name : List Char) (body : State → State) : List (List Char) → State → State
  | [], s => s
  | v :: vs, s =>
    let s := s.set name v
    if !s.isGoing then s
    else
      match afterRound (body s) with
      | (true, t) => eachRound name body vs t
      | (false, t) => t

def inLoop (f : State → State) (s : State) : State :=
  { f { s with loops := s.loops + 1 } with loops := s.loops }

/-- The first arm of a choice that has a pattern which matches, and the state after the expansion of
patterns. -/
def chosenArm (run : Runner) (v : List Char) : List (List Word × Command) → State →
    Option Command × State
  | [], s => (none, s)
  | (ps, body) :: arms, s =>
    let (found, s) := ps.foldl (fun (found, s) p =>
      if found || !State.isGoing s then (found, s)
      else
        let (p, s) := expandPattern run stepLimit p s
        (Pattern.isMatch p v, s)) (false, s)
    if !s.isGoing then (none, s)
    else if found then (some body, s)
    else chosenArm run v arms s

/-- Runs the stages of a pipeline, each with the output of the one before as its input. -/
def runStages (run : Runner) : List Command → State → State
  | [], s => s
  | [c], s => inSubshell run (run c) s
  | c :: cs, s =>
    let (k, world) := s.world.open_ []
    let t := inSubshell run (run c) ({ s with world }.connect 1 (.channel k))
    s.after (runStages run cs ({ s with world := t.world }.connect 0 (.channel k)))

/-- Runs a command; the commands in it are run by a runner. -/
def executeWith (run : Runner) (c : Command) (s : State) : State :=
  if !s.isGoing || s.has .noexec then s
  else
    match c with
    | .simple line assigned ws rs => (runSimple run assigned ws rs { s with line }).checked
    | .pipeline cs => (runStages run cs s).checked
    | .negation c =>
      let t := tested (run c) s
      if t.isGoing then t.ending (if t.status = 0 then 1 else 0) else t
    | .and a b =>
      let t := tested (run a) s
      if t.isGoing && t.status = 0 then run b t else t
    | .or a b =>
      let t := tested (run a) s
      if t.isGoing && t.status ≠ 0 then run b t else t
    | .sequence [] => s.ending 0
    | .sequence cs => cs.foldl (fun s c => run c s) s
    | .background c =>
      let (k, world) := s.world.open_ []
      let t := inSubshell run (run c) ({ s with world, isTested := false }.connect 0 (.channel k))
      (s.after t).ending 0
    | .subshell c => (inSubshell run (run c) s).checked
    | .branch condition body otherwise =>
      let t := tested (run condition) s
      if !t.isGoing then t
      else if t.status = 0 then run body t
      else run otherwise t
    | .loop whileTrue condition body =>
      inLoop (rounds (run condition) (run body) whileTrue stepLimit 0) s
    | .each name ws body =>
      let (vs, s) := match ws with
        | some ws => expandWords run stepLimit ws s
        | none => (s.arguments, s)
      if !s.isGoing then s else inLoop (eachRound name (run body) vs) (s.ending 0)
    | .choice w arms =>
      let (v, s) := expandText run stepLimit w s
      if !s.isGoing then s
      else
        match chosenArm run v arms s with
        | (some body, s) => run body s
        | (none, s) => if s.isGoing then s.ending 0 else s
    | .function name body => { s with functions := assoc name body s.functions, status := 0 }
    | .redirected c rs =>
      match redirectAll run rs s with
      | (true, t) => (run c t).withStreams s
      | (false, t) => if t.isGoing then (t.ending 2).withStreams s else t

/-- Runs a command in which commands stand in each other at most `n` deep; a shell in which they
stand deeper fails. -/
def execute : Nat → Runner
  | 0 => fun _ s => { s with status := 2, flow := .ended }
  | n + 1 => executeWith (execute n)

/-! ### The shell -/

/-- The bytes of a text, each as the character with its number. -/
def bytesOf (s : String) : List Char := (Utf8.encode s.toList).map fun b => Char.ofNat b.toNat

def depthLimit : Nat := 10000

/-- The variables of a shell to which none are given. -/
def standardVariables : List (String × String) :=
  [("HOME", "/root"), ("PATH", "/usr/local/sbin:/usr/local/bin:/usr/sbin:/usr/bin:/sbin:/bin"),
    ("PWD", "/")]

def State.start (vs : List (String × String)) : State :=
  let given := (standardVariables ++ vs).map fun v => (bytesOf v.1, bytesOf v.2)
  let s : State :=
    { values := [(bytesOf "IFS", [' ', '\t', '\n']), (bytesOf "OPTIND", ['1']),
        (bytesOf "PPID", ['1']), (bytesOf "PS1", ['#', ' ']), (bytesOf "PS2", ['>', ' ']),
        (bytesOf "PS4", ['+', ' '])]
      handles := [(0, .channel 0), (1, .channel 1), (2, .channel 2)] }
  s.give given

/-- What a script prints and the code it exits with. -/
def run (vs : List (String × String)) (script : String) : CommandResult :=
  let execute := execute depthLimit
  let s := inSubshell execute (runScript execute (bytesOf script)) (.start vs)
  let status := s.world.killed.getD s.status
  ⟨(s.world.content 1).map fun c => UInt8.ofNat c.toNat, (status % 256 : Nat)⟩

end RepoBrowser.Shell
