import RepoBrowser.Shell.Regex
import RepoBrowser.Shell.Tool.Basic

/-!
# The tool that finds lines

* `Search` — what is looked for, and how it is shown;
* `Search.report` — what is printed of a text, and whether anything in it was selected;
* `grep` — the lines of texts in which an expression matches.
-/

namespace RepoBrowser.Shell.Tool

open Text

/-- What is looked for, and how it is shown. -/
structure Search where
  pattern : Regex
  manner : Manner
  inverted : Bool := false
  counts : Bool := false
  onlyMatches : Bool := false
  numbersLines : Bool := false
  isSilent : Bool := false
  limit : Option Nat := none
  linesBefore : Nat := 0
  linesAfter : Nat := 0

namespace Search

def selects (q : Search) (l : List Char) : Bool := q.pattern.isIn q.manner l != q.inverted

/-- The matches in a line that are not empty, in at most `n` steps. -/
def hits (q : Search) : Nat → List Char → List Char → List (List Char)
  | 0, _, _ => []
  | n + 1, back, s =>
    match Regex.findFrom q.manner q.pattern back s with
    | none => []
    | some f =>
      if f.text.isEmpty then
        match f.spot.rest with
        | [] => []
        | c :: r => hits q n (c :: f.spot.before) r
      else f.text :: hits q n f.spot.before f.spot.rest

/-- Lines with their numbers, and the lines around them; a line `--` stands between groups that are
not next to each other.  `front` is what stands in front of a line, by whether it was selected. -/
def withContext (q : Search) (front : Bool → Nat → List Char) (chosen : List Nat)
    (lines : List (List Char × Nat)) : List Char :=
  let near (k : Nat) : Bool := chosen.any fun c => c ≤ k + q.linesBefore && k ≤ c + q.linesAfter
  let shown := lines.filter fun l => near l.2
  (shown.zip (none :: shown.map fun l => some l.2)).flatMap fun (l, previous) =>
    (if previous.all (· + 1 = l.2) then [] else "--\n".toList)
      ++ front (chosen.contains l.2) l.2 ++ l.1 ++ ['\n']

/-- What is printed of a text whose lines have a label, and whether a line was selected. -/
def report (q : Search) (label : List Char) (s : List Char) : List Char × Bool :=
  let numbered := (linesOf s).zipIdx 1
  let chosen := numbered.filter fun l => q.selects l.1
  let chosen := match q.limit with
    | some k => chosen.take k
    | none => chosen
  let frontOf (isChosen : Bool) (k : Nat) : List Char :=
    let c := if isChosen then ':' else '-'
    (if label.isEmpty then [] else label ++ [c])
      ++ if q.numbersLines then Nat.toDigits 10 k ++ [c] else []
  let front := frontOf true
  let shown :=
    if q.isSilent then []
    else if q.counts then (if label.isEmpty then [] else label ++ [':'])
      ++ Nat.toDigits 10 chosen.length ++ ['\n']
    else if q.onlyMatches then
      if q.inverted then []
      else
        chosen.flatMap fun l =>
          lineEnded ((q.hits (l.1.length + 1) [] l.1).map (front l.2 ++ ·))
    else if q.linesBefore ≠ 0 || q.linesAfter ≠ 0 then
      q.withContext frontOf (chosen.map (·.2)) numbered
    else lineEnded (chosen.map fun l => front l.2 ++ l.1)
  (shown, !chosen.isEmpty)

end Search

def grepOptions : Options.Known :=
  { flags := "EFGPivcoqsnxwhHlLazr".toList
    valued := "emABC".toList
    long := [("extended-regexp", 'E'), ("fixed-strings", 'F'), ("basic-regexp", 'G'),
      ("perl-regexp", 'P'), ("ignore-case", 'i'), ("invert-match", 'v'), ("count", 'c'),
      ("only-matching", 'o'), ("quiet", 'q'), ("silent", 'q'), ("no-messages", 's'),
      ("line-number", 'n'), ("line-regexp", 'x'), ("word-regexp", 'w'), ("no-filename", 'h'),
      ("regexp", 'e'), ("max-count", 'm'), ("text", 'a')] }

/-- The expression that patterns stand for, each on a line of its own; any of them may match. -/
def patternOf? (o : Options) (ps : List (List Char)) : Option Regex := do
  let read (p : List Char) : Option Regex :=
    if o.has 'F' then some (.literal p)
    else
      Regex.parse? (if o.has 'P' then .rich else if o.has 'E' then .extended else .basic) p
  let rs ← (ps.flatMap (pieces '\n')).mapM read
  let edged (r : Regex) : Regex :=
    if o.has 'x' then .append (.edge .start) (.append r (.edge .finish))
    else if o.has 'w' then .append (.edge .behindNoWord) (.append r (.edge .beforeNoWord))
    else r
  match rs with
  | [] => none
  | r :: rs => some (edged (rs.foldl .either r))

/-- The lines of texts in which an expression matches; it fails when there are none. -/
def grepWith (flags : List Char) : Tool := fun t =>
  match Options.parse? grepOptions t.arguments with
  | none => .failing "grep: invalid option" 2
  | some o =>
    let o := { o with given := flags.map (fun c => (c, [])) ++ o.given }
    let (ps, names) := match o.values 'e', o.operands with
      | [], p :: names => ([p], names)
      | ps, names => (ps, names)
    match patternOf? o ps with
    | none => .failing "grep: invalid pattern" 2
    | some r =>
      let q : Search :=
        { pattern := r
          manner := { folds := o.has 'i', takesFirst := o.has 'P' }
          inverted := o.has 'v'
          counts := o.has 'c'
          onlyMatches := o.has 'o'
          numbersLines := o.has 'n'
          isSilent := o.has 'q'
          limit := (o.value? 'm').bind natural?
          linesBefore := (((o.value? 'B').or (o.value? 'C')).bind natural?).getD 0
          linesAfter := (((o.value? 'A').or (o.value? 'C')).bind natural?).getD 0 }
      let names := if names.isEmpty then [['-']] else names
      let missing := names.filter fun n => (t.text? n).isNone
      let texts := names.filterMap fun n => (t.text? n).map fun s => (n, s)
      let labelled := (1 < names.length || o.has 'H') && !o.has 'h'
      let reports := texts.map fun (n, s) =>
        (n, q.report (if labelled then n else []) s)
      let found := reports.any (·.2.2)
      let names_ (wanted : Bool) : List Char :=
        lineEnded (reports.filterMap fun (n, _, b) =>
          if b == wanted then some (if n = ['-'] then "(standard input)".toList else n) else none)
      { output :=
          if o.has 'l' then names_ true
          else if o.has 'L' then names_ false
          else reports.flatMap (·.2.1)
        complaint :=
          if o.has 's' then []
          else
            missing.flatMap fun n =>
              "grep: ".toList ++ n ++ ": No such file or directory\n".toList
        status :=
          if found && (missing.isEmpty || o.has 'q') then 0
          else if missing.isEmpty then 1 else 2
        readsInput := names.contains ['-'] }

def grep : Tool := grepWith []

def egrep : Tool := grepWith ['E']

def fgrep : Tool := grepWith ['F']

end RepoBrowser.Shell.Tool
