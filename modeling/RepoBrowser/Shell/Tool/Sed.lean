import RepoBrowser.Shell.Regex
import RepoBrowser.Shell.Tool.Basic

/-!
# The stream editor

* `Address`, `Selection`, `Edit`, `Step` — a script: edits of a line with the lines they are for;
* `Script.parse?` — the script that a text spells;
* `Editor` — the state of the editor: a line, a line that is held, and what has been printed;
* `Editor.run` — a script run on the lines of a text;
* `sed` — the tool.
-/

namespace RepoBrowser.Shell.Tool.Sed

open Text

/-! ### Scripts -/

/-- An expression and whether it takes capitals for small letters; none stands for the one used
last. -/
abbrev Sought := Option (Regex × Bool)

inductive Address where
  | line (n : Nat)
  | every (first step : Nat)
  | last
  | found (r : Sought)

inductive Finish where
  | at_ (a : Address)
  | after (n : Nat)
  | multiple (n : Nat)

inductive Selection where
  | all
  | one (a : Address)
  | range (a : Address) (b : Finish)

/-- A part of what is put in the place of a match: a byte, a group, or a change of letters to
capitals or small ones: of all that follow, of the next one, or of none any more. -/
inductive Part where
  | byte (c : Char)
  | group (n : Nat)
  | change (toUpper : Bool)
  | changeNext (toUpper : Bool)
  | changeNone
  deriving DecidableEq, Repr

/-- What is put in the place of matches, and of which. -/
structure Exchange where
  sought : Sought
  replacement : List Part
  first : Nat := 1
  all : Bool := false
  prints : Bool := false

inductive Edit where
  | open_ | close | label (name : List Char)
  | number | append (t : List Char) | insert (t : List Char) | replace (t : List Char)
  | jump (name : List Char) | jumpIf (name : List Char) | jumpUnless (name : List Char)
  | delete | deleteFirst | print | printFirst | next | nextToo
  | hold | holdToo | get | getToo | swap
  | quit (prints : Bool) (code : Nat)
  | exchange (e : Exchange)
  | map (pairs : List (Char × Char))
  | file (name : List Char)

structure Step where
  selection : Selection
  inverted : Bool
  edit : Edit

/-! ### Reading scripts -/

def dropBlanks (s : List Char) : List Char := s.dropWhile fun c => c = ' ' || c = '\t'

/-- The text up to a delimiter on the same line and the text behind it.  A backslash takes the
meaning off the delimiter and off a line end, and is kept in front of all else. -/
def readUntil? (d : Char) : List Char → Option (List Char × List Char)
  | [] => none
  | '\\' :: c :: s =>
    (readUntil? d s).map fun (t, r) => (if c = d || c = '\n' then c :: t else '\\' :: c :: t, r)
  | c :: s =>
    if c = d then some ([], s)
    else if c = '\n' then none
    else (readUntil? d s).map fun (t, r) => (c :: t, r)

/-- The expression that a text spells; the empty text stands for the one used last. -/
def sought? (extended folds : Bool) (t : List Char) : Option Sought :=
  if t.isEmpty then some none
  else
    (Regex.parse? (if extended then .extended else .basic) (Regex.readEscapes t)).map fun r =>
      some (r, folds)

/-- The number at the start of a text, and the text behind it. -/
def readNumber (s : List Char) : Nat × List Char :=
  let ds := s.takeWhile Char.isDigit
  (Integer.ofDigits 10 ds, s.drop ds.length)

/-- An address at the start of a text, if one stands there; the outer `none` tells that it is not
well formed. -/
def readAddress? (extended : Bool) (s : List Char) : Option (Option Address × List Char) :=
  let found (d : Char) (r : List Char) : Option (Option Address × List Char) := do
    let (t, r) ← readUntil? d r
    let (folds, r) := match r with
      | 'I' :: r => (true, r)
      | r => (false, r)
    let q ← sought? extended folds t
    some (some (.found q), r)
  match s with
  | '$' :: r => some (some .last, r)
  | '/' :: r => found '/' r
  | '\\' :: d :: r => found d r
  | c :: r =>
    if c.isDigit then
      match readNumber (c :: r) with
      | (n, '~' :: r) =>
        let (k, r) := readNumber r
        some (some (.every n k), r)
      | (n, r) => some (some (.line n), r)
    else some (none, c :: r)
  | [] => some (none, [])

/-- The lines that an edit is for, at the start of a text. -/
def readSelection? (extended : Bool) (s : List Char) : Option (Selection × List Char) := do
  match ← readAddress? extended s with
  | (none, r) => some (.all, r)
  | (some a, r) =>
    match dropBlanks r with
    | ',' :: r =>
      match dropBlanks r with
      | '+' :: r =>
        let (n, r) := readNumber r
        some (.range a (.after n), r)
      | '~' :: r =>
        let (n, r) := readNumber r
        some (.range a (.multiple n), r)
      | r =>
        match ← readAddress? extended r with
        | (some b, r) => some (.range a (.at_ b), r)
        | (none, _) => none
    | _ => some (.one a, r)

def readReplacement : List Char → List Part
  | '\\' :: c :: s =>
    let p : Part :=
      if c.isDigit then .group (c.toNat - 0x30)
      else if c = 'n' then .byte '\n'
      else if c = 't' then .byte '\t'
      else if c = 'r' then .byte '\r'
      else if c = 'U' then .change true
      else if c = 'L' then .change false
      else if c = 'u' then .changeNext true
      else if c = 'l' then .changeNext false
      else if c = 'E' then .changeNone
      else .byte c
    p :: readReplacement s
  | '&' :: s => .group 0 :: readReplacement s
  | c :: s => .byte c :: readReplacement s
  | [] => []

/-- The flags behind an exchange; with them comes whether capitals count as small letters. -/
def readFlags : Nat → Exchange → Bool → List Char → Exchange × Bool × List Char
  | 0, e, folds, s => (e, folds, s)
  | n + 1, e, folds, s =>
    match s with
    | 'g' :: r => readFlags n { e with all := true } folds r
    | 'p' :: r => readFlags n { e with prints := true } folds r
    | 'i' :: r | 'I' :: r => readFlags n e true r
    | c :: r =>
      if c.isDigit then
        let (k, r) := readNumber (c :: r)
        readFlags n { e with first := k } folds r
      else (e, folds, c :: r)
    | [] => (e, folds, [])

/-- A byte of the lists of a map, escapes read. -/
def mapBytes : List Char → List Char
  | '\\' :: c :: s => (if c = 'n' then '\n' else if c = 't' then '\t' else c) :: mapBytes s
  | c :: s => c :: mapBytes s
  | [] => []

/-- The text behind an edit that adds one, up to a line end without a backslash in front of it. -/
def readText : List Char → List Char × List Char
  | [] => ([], [])
  | '\n' :: s => ([], s)
  | '\\' :: c :: s =>
    let (t, r) := readText s
    (c :: t, r)
  | c :: s =>
    let (t, r) := readText s
    (c :: t, r)

/-- The text of an edit that adds one: on the next line behind a backslash, or on the same line. -/
def readAddition (s : List Char) : List Char × List Char :=
  let s := dropBlanks s
  let s := match s with
    | '\\' :: r =>
      match dropBlanks r with
      | '\n' :: r => r
      | _ => r
    | r => r
  let (t, r) := readText s
  (t ++ ['\n'], r)

def readLabel (s : List Char) : List Char × List Char :=
  let s := dropBlanks s
  let name := s.takeWhile fun c => !Integer.isSpace c && c ≠ ';' && c ≠ '\x7d'
  (name, s.drop name.length)

/-- An edit at the start of a text, and the text behind it. -/
def readEdit? (extended : Bool) (c : Char) (s : List Char) : Option (Edit × List Char) :=
  match c with
  | '\x7b' => some (.open_, s)
  | '\x7d' => some (.close, s)
  | '=' => some (.number, s)
  | 'd' => some (.delete, s)
  | 'D' => some (.deleteFirst, s)
  | 'p' => some (.print, s)
  | 'P' => some (.printFirst, s)
  | 'n' => some (.next, s)
  | 'N' => some (.nextToo, s)
  | 'h' => some (.hold, s)
  | 'H' => some (.holdToo, s)
  | 'g' => some (.get, s)
  | 'G' => some (.getToo, s)
  | 'x' => some (.swap, s)
  | 'q' =>
    let (n, r) := readNumber (dropBlanks s)
    some (.quit true n, r)
  | 'Q' =>
    let (n, r) := readNumber (dropBlanks s)
    some (.quit false n, r)
  | 'a' =>
    let (t, r) := readAddition s
    some (.append t, r)
  | 'i' =>
    let (t, r) := readAddition s
    some (.insert t, r)
  | 'c' =>
    let (t, r) := readAddition s
    some (.replace t, r)
  | 'b' =>
    let (l, r) := readLabel s
    some (.jump l, r)
  | 't' =>
    let (l, r) := readLabel s
    some (.jumpIf l, r)
  | 'T' =>
    let (l, r) := readLabel s
    some (.jumpUnless l, r)
  | ':' =>
    let (l, r) := readLabel s
    if l.isEmpty then none else some (.label l, r)
  | 'r' =>
    let name := (dropBlanks s).takeWhile (· ≠ '\n')
    some (.file name, (dropBlanks s).drop name.length)
  | 's' =>
    match s with
    | d :: r => do
      let (pattern, r) ← readUntil? d r
      let (replacement, r) ← readUntil? d r
      let e : Exchange := { sought := none, replacement := readReplacement replacement }
      let (e, folds, r) := readFlags (r.length + 1) e false r
      let q ← sought? extended folds pattern
      if e.first = 0 then none else some (.exchange { e with sought := q }, r)
    | [] => none
  | 'y' =>
    match s with
    | d :: r => do
      let (a, r) ← readUntil? d r
      let (b, r) ← readUntil? d r
      let (a, b) := (mapBytes a, mapBytes b)
      if a.length = b.length then some (.map (List.zip a b), r) else none
    | [] => none
  | _ => none

/-- Whether an edit may be followed by another without a semicolon. -/
def endsItself : Edit → Bool
  | .open_ | .append _ | .insert _ | .replace _ => true
  | _ => false

/-- The steps that a text spells, in at most `n` steps, with `depth` groups open. -/
def readSteps? (extended : Bool) : Nat → Nat → List Char → Option (List Step)
  | 0, _, _ => none
  | n + 1, depth, s =>
    match s.dropWhile fun c => Integer.isSpace c || c = ';' with
    | [] => if depth = 0 then some [] else none
    | '#' :: r => readSteps? extended n depth (r.dropWhile (· ≠ '\n'))
    | s => do
      let (selection, s) ← readSelection? extended s
      let s := dropBlanks s
      let (inverted, s) := match s with
        | '!' :: r => (true, r.dropWhile fun c => c = '!' || c = ' ' || c = '\t')
        | r => (false, r)
      match s with
      | [] => none
      | c :: s => do
        let (edit, s) ← readEdit? extended c s
        let depth ← match edit with
          | .open_ => some (depth + 1)
          | .close => if depth = 0 then none else some (depth - 1)
          | _ => some depth
        let t := dropBlanks s
        let isEnded := endsItself edit || match t with
          | [] => true
          | c :: _ => c = ';' || c = '\n' || c = '\x7d' || c = '#'
        if isEnded then
          (readSteps? extended n depth s).map ({ selection, inverted, edit } :: ·)
        else none

/-- Whether all labels that are jumped to exist. -/
def hasLabels (ss : List Step) : Bool :=
  let labels := ss.filterMap fun s => match s.edit with
    | .label l => some l
    | _ => none
  ss.all fun s => match s.edit with
    | .jump l | .jumpIf l | .jumpUnless l => l.isEmpty || labels.contains l
    | _ => true

def parse? (extended : Bool) (s : List Char) : Option (List Step) := do
  let ss ← readSteps? extended (s.length + 2) 0 s
  if hasLabels ss then some ss else none

/-! ### Editing -/

/-- The state of the editor: the line worked on and its number, the line that is held, the lines
that are left, what has been printed, whether that ends in the middle of a line, what is printed
behind the line, the ranges that are open by the places of their steps, with the line each ends at
if that is known, the expression used last, and whether something was exchanged in the line. -/
structure Editor where
  script : List Step
  quiet : Bool
  file : List Char → Option (List Char)
  line : List Char := []
  place : Nat := 0
  held : List Char := []
  rest : List (List Char)
  isOpenEnded : Bool
  out : List Char := []
  outIsOpen : Bool := false
  queue : List (List Char) := []
  ranges : List (Nat × Option Nat) := []
  used : Option (Regex × Bool) := none
  exchanged : Bool := false

/-- How the work on a line ends: all steps are done, the line is not printed, its rest is worked on
without another line, or the editor stops. -/
inductive Ending where
  | done | dropped | again | stopped (prints : Bool) (code : Nat)

namespace Editor

def put (e : Editor) (t : List Char) : Editor :=
  { e with out := e.out ++ (if e.outIsOpen then ['\n'] else []) ++ t, outIsOpen := false }

def isLast (e : Editor) : Bool := e.rest.isEmpty

/-- Prints the line, which has no line end where the text has none. -/
def putLine (e : Editor) (l : List Char) : Editor :=
  if e.isLast && e.isOpenEnded then { e.put l with outIsOpen := true } else e.put (l ++ ['\n'])

def flush (e : Editor) : Editor :=
  { e.queue.foldl (fun e t => if t.isEmpty then e else e.put t) e with queue := [] }

/-- The expression that is meant, and the state in which it is the one used last. -/
def remembered (q : Sought) (e : Editor) : Option (Regex × Bool) × Editor :=
  match q with
  | some r => (some r, { e with used := some r })
  | none => (e.used, e)

def isAt (a : Address) (e : Editor) : Bool × Editor :=
  match a with
  | .line n => (e.place = n, e)
  | .every first step =>
    (if step = 0 then e.place = first
      else first ≤ e.place && (e.place - first) % step = 0, e)
  | .last => (e.isLast, e)
  | .found q =>
    match e.remembered q with
    | (some (r, folds), e) => (r.isIn { folds } e.line, e)
    | (none, e) => (false, e)

/-- Whether a step is for the line; `k` is the step's place. -/
def isFor (k : Nat) (s : Selection) (e : Editor) : Bool × Editor :=
  match s with
  | .all => (true, e)
  | .one a => e.isAt a
  | .range a b =>
    let close (e : Editor) : Editor := { e with ranges := e.ranges.filter (·.1 ≠ k) }
    let open_ (e : Editor) (n : Option Nat) : Editor :=
      { e with ranges := (k, n) :: e.ranges.filter (·.1 ≠ k) }
    match e.ranges.lookup k with
    | some (some n) =>
      if n < e.place then
        let (starts, e) := (close e).isAt a
        (starts, e)
      else (true, if e.place = n then close e else e)
    | some none =>
      match b with
      | .at_ b =>
        let (ends, e) := e.isAt b
        (true, if ends then close e else e)
      | _ => (true, e)
    | none =>
      let start (e : Editor) : Editor :=
        match b with
        | .at_ (.line n) => if e.place < n then open_ e (some n) else e
        | .at_ .last => if e.isLast then e else open_ e none
        | .at_ _ => open_ e none
        | .after n => if n = 0 then e else open_ e (some (e.place + n))
        | .multiple n =>
          if n = 0 || e.place % n = 0 then e else open_ e (some (e.place + n - e.place % n))
      match a, b with
      | .line 0, .at_ (.found q) =>
        if e.place = 1 then
          let (ends, e) := e.isAt (.found q)
          (true, if ends then e else open_ e none)
        else (false, e)
      | a, _ =>
        let (starts, e) := e.isAt a
        (starts, if starts then start e else e)

def toCase (toUpper : Bool) (c : Char) : Char := if toUpper then c.toUpper else c.toLower

/-- What parts stand for with a match: `all` is the change for all that follows, `next` the one for
the next byte. -/
def fill (f : Regex.Found) : Option Bool → Option Bool → List Part → List Char
  | _, _, [] => []
  | all, next, p :: ps =>
    let write (t : List Char) : List Char × Option Bool :=
      match t with
      | [] => ([], next)
      | c :: t =>
        let change (c : Char) : Char := match all with
          | some u => toCase u c
          | none => c
        ((match next with
          | some u => toCase u c
          | none => change c) :: t.map change, none)
    match p with
    | .byte c =>
      let (t, next) := write [c]
      t ++ fill f all next ps
    | .group n =>
      let (t, next) := write (if n = 0 then f.text else (f.spot.groups.lookup n).getD [])
      t ++ fill f all next ps
    | .change u => fill f (some u) none ps
    | .changeNext u => fill f all (some u) ps
    | .changeNone => fill f none none ps

/-- A line with matches exchanged, in at most `n` steps, and whether there were any.  `count`
matches were passed before; an empty match does not count where another has just ended. -/
def exchangeFrom (r : Regex) (m : Manner) (x : Exchange) :
    Nat → Nat → Bool → List Char → List Char → List Char × Bool
  | 0, _, _, _, s => (s, false)
  | n + 1, count, justEnded, back, s =>
    match Regex.findFrom m r back s with
    | none => (s, false)
    | some f =>
      let front := s.take (s.length - f.text.length - f.spot.rest.length)
      let isStale := justEnded && f.text.isEmpty && front.isEmpty
      let counts := !isStale
      let count := if counts then count + 1 else count
      let replaces := counts && x.first ≤ count
      let shown := if replaces then fill f none none x.replacement else f.text
      if replaces && !x.all then (front ++ shown ++ f.spot.rest, true)
      else if f.text.isEmpty then
        match f.spot.rest with
        | [] => (front ++ shown, replaces)
        | c :: rest =>
          let (t, b) := exchangeFrom r m x n count false (c :: f.spot.before) rest
          (front ++ shown ++ c :: t, replaces || b)
      else
        let (t, b) := exchangeFrom r m x n count true f.spot.before f.spot.rest
        (front ++ shown ++ t, replaces || b)

/-- The place behind the end of the group that is opened before a place; `k` groups are open. -/
def behindGroup : Nat → Nat → List Step → Nat
  | at_, _, [] => at_
  | at_, k, s :: ss =>
    match s.edit, k with
    | .open_, k => behindGroup (at_ + 1) (k + 1) ss
    | .close, 0 => at_ + 1
    | .close, k + 1 => behindGroup (at_ + 1) k ss
    | _, k => behindGroup (at_ + 1) k ss

/-- The place behind a label; without a name it is the end of the script. -/
def behindLabel (name : List Char) (e : Editor) : Nat :=
  if name.isEmpty then e.script.length
  else
    (e.script.findIdx fun s => match s.edit with
      | .label l => l = name
      | _ => false) + 1

/-- Takes the next line, if there is one, with something in front of it. -/
def take? (front : List Char) (e : Editor) : Option Editor :=
  match e.rest with
  | [] => none
  | l :: rest => some { e.flush with line := front ++ l, rest, place := e.place + 1 }

def firstLine (l : List Char) : List Char := l.takeWhile (· ≠ '\n')

/-- Runs the steps from a place on, at most `n` of them. -/
def steps : Nat → Nat → Editor → Editor × Ending
  | 0, _, e => (e, .done)
  | n + 1, k, e =>
    match e.script[k]? with
    | none => (e, .done)
    | some s =>
      let (chosen, e) := e.isFor k s.selection
      if chosen == s.inverted then
        match s.edit with
        | .open_ => steps n (behindGroup (k + 1) 0 (e.script.drop (k + 1))) e
        | _ => steps n (k + 1) e
      else
        match s.edit with
        | .open_ | .close | .label _ => steps n (k + 1) e
        | .number => steps n (k + 1) (e.put (Nat.toDigits 10 e.place ++ ['\n']))
        | .append t => steps n (k + 1) { e with queue := e.queue ++ [t] }
        | .insert t => steps n (k + 1) (e.put t)
        | .replace t =>
          let isInside := match s.selection with
            | .range _ _ => (e.ranges.lookup k).isSome && !s.inverted && !e.isLast
            | _ => false
          (if isInside then e else e.put t, .dropped)
        | .jump l => steps n (e.behindLabel l) e
        | .jumpIf l =>
          if e.exchanged then steps n (e.behindLabel l) { e with exchanged := false }
          else steps n (k + 1) e
        | .jumpUnless l =>
          if e.exchanged then steps n (k + 1) { e with exchanged := false }
          else steps n (e.behindLabel l) e
        | .delete => (e, .dropped)
        | .deleteFirst =>
          if e.line.contains '\n' then
            ({ e with line := e.line.drop ((firstLine e.line).length + 1) }, .again)
          else (e, .dropped)
        | .print => steps n (k + 1) (e.putLine e.line)
        | .printFirst => steps n (k + 1) (e.put (firstLine e.line ++ ['\n']))
        | .next =>
          if e.isLast then (e, .stopped true 0)
          else
            let e := if e.quiet then e else e.putLine e.line
            match e.take? [] with
            | some e => steps n (k + 1) e
            | none => (e, .done)
        | .nextToo =>
          match e.take? (e.line ++ ['\n']) with
          | some e => steps n (k + 1) e
          | none => (e, .stopped true 0)
        | .hold => steps n (k + 1) { e with held := e.line }
        | .holdToo => steps n (k + 1) { e with held := e.held ++ '\n' :: e.line }
        | .get => steps n (k + 1) { e with line := e.held }
        | .getToo => steps n (k + 1) { e with line := e.line ++ '\n' :: e.held }
        | .swap => steps n (k + 1) { e with line := e.held, held := e.line }
        | .quit prints code => (e, .stopped prints code)
        | .map pairs =>
          steps n (k + 1) { e with line := e.line.map fun c => (pairs.lookup c).getD c }
        | .file name =>
          steps n (k + 1) { e with queue := e.queue ++ [(e.file name).getD []] }
        | .exchange x =>
          match e.remembered x.sought with
          | (some (r, folds), e) =>
            let (l, b) := exchangeFrom r { folds } x (e.line.length + 2) 0 false [] e.line
            let e := { e with line := l, exchanged := e.exchanged || b }
            steps n (k + 1) (if b && x.prints then e.putLine l else e)
          | (none, e) => (e, .stopped false 1)

/-- Works on the line and those behind it, at most `n` times; the code the editor stops with. -/
def cycles (bound : Nat) : Nat → Editor → Editor × Nat
  | 0, e => (e, 0)
  | n + 1, e =>
    let show_ (e : Editor) : Editor := (if e.quiet then e else e.putLine e.line).flush
    let next (e : Editor) : Editor × Nat :=
      match { e with exchanged := false }.take? [] with
      | some e => cycles bound n e
      | none => (e, 0)
    match e.steps bound 0 with
    | (e, .done) => next (show_ e)
    | (e, .dropped) => next e.flush
    | (e, .again) => cycles bound n e.flush
    | (e, .stopped prints code) => (if prints then show_ e else e, code)

end Editor

def options : Options.Known :=
  { flags := "nErsui".toList
    valued := ['e']
    long := [("quiet", 'n'), ("silent", 'n'), ("regexp-extended", 'E'), ("expression", 'e'),
      ("in-place", 'i')] }

/-- What a script makes of a text, and the code the editor stops with. -/
def edit (script : List Step) (quiet : Bool) (file : List Char → Option (List Char))
    (s : List Char) : List Char × Nat :=
  let e : Editor := { script, quiet, file, rest := linesOf s, isOpenEnded := isOpenEnded s }
  match e.take? [] with
  | some e =>
    let (e, code) := e.cycles 10000 (10 * s.length + 10)
    (e.out, code)
  | none => ([], 0)

def run : Tool := fun t =>
  match Options.parse? options t.arguments with
  | none => .failing "sed: invalid option" 1
  | some o =>
    let (scripts, names) := match o.values 'e', o.operands with
      | [], s :: names => ([s], names)
      | ss, names => (ss, names)
    if scripts.isEmpty then .failing "sed: no script" 1
    else
      match parse? (o.has 'E' || o.has 'r') (joinWith ['\n'] scripts) with
      | none => .failing "sed: -e expression #1: unknown command" 1
      | some script =>
        let (texts, missing) := t.texts names
        let edit := edit script (o.has 'n') t.file
        let (out, code) := if o.has 'i' then ([], 0) else edit texts.flatten
        { output := out
          written :=
            if o.has 'i' then
              names.filterMap fun n => (t.file n).map fun s => (n, some (edit s).1)
            else []
          complaint := missing.flatMap fun n =>
            "sed: can't read ".toList ++ n ++ ": No such file or directory\n".toList
          status := if code ≠ 0 then code else if missing.isEmpty then 0 else 2
          readsInput := names.isEmpty || names.contains ['-'] }

end RepoBrowser.Shell.Tool.Sed

namespace RepoBrowser.Shell.Tool

def sed : Tool := Sed.run

end RepoBrowser.Shell.Tool
