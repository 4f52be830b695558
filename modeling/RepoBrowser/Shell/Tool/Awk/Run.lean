import RepoBrowser.Shell.Regex
import RepoBrowser.Shell.State
import RepoBrowser.Shell.Tool.Awk.Reader
import RepoBrowser.Shell.Tool.Basic

/-!
# Running programs of fields

* `Cell` — a value: a number, a text, or a text of the input, which is a number where it looks like
  one;
* `Sheet` — the state of a program: the line and its fields, variables, arrays and what has been
  printed;
* `Sheet.splitAt` — the fields of a text;
* `evaluate`, `perform` — expressions and statements, with a bound on how deeply they are nested;
* `run` — a program on texts.
-/

namespace RepoBrowser.Shell.Tool.Awk

open Text

/-! ### Values -/

/-- A value; `none_` is that of a variable that was never set. -/
inductive Cell where
  | number (q : Rat)
  | text (t : List Char)
  | input (t : List Char)
  | none_

namespace Cell

/-- A number with at most six significant digits. -/
def shortText (q : Rat) : List Char :=
  let d : Directive := { kind := 'g', precision := some 6 }
  d.printFraction (q < 0) (Number.Binary.ofRatio q.num.natAbs q.den)

/-- The text of a value; integers of 64 bits have all their digits. -/
def toText : Cell → List Char
  | .number q =>
    if q.den = 1 && Integer.clamp q.num = q.num then Integer.text q.num else shortText q
  | .text t | .input t => t
  | .none_ => []

/-- The number that a value is, or that its text starts with. -/
def toNumber : Cell → Rat
  | .number q => q
  | .text t | .input t => (Symbol.decimal t).1
  | .none_ => 0

def looksNumeric (t : List Char) : Bool :=
  let rest := (Symbol.decimal t).2
  rest.length < t.length && rest.all Integer.isSpace

def isNumeric : Cell → Bool
  | .number _ | .none_ => true
  | .text _ => false
  | .input t => looksNumeric t

def isTrue (c : Cell) : Bool :=
  match c with
  | .number q => q ≠ 0
  | .text t => !t.isEmpty
  | .input t => if looksNumeric t then c.toNumber ≠ 0 else !t.isEmpty
  | .none_ => false

def ofBool (b : Bool) : Cell := .number (if b then 1 else 0)

def ofNat (n : Nat) : Cell := .number (mkRat n 1)

/-- How two values compare: as numbers if both count as numbers. -/
def order (a b : Cell) : Ordering :=
  if a.isNumeric && b.isNumeric then
    if a.toNumber < b.toNumber then .lt else if b.toNumber < a.toNumber then .gt else .eq
  else
    let s := a.toText
    let t := b.toText
    if s < t then .lt else if t < s then .gt else .eq

def holds (op : String) (a b : Cell) : Bool :=
  match op with
  | "<" => order a b = .lt
  | "<=" => order a b ≠ .gt
  | "==" => order a b = .eq
  | "!=" => order a b ≠ .eq
  | ">=" => order a b ≠ .lt
  | _ => order a b = .gt

end Cell

/-- A number without its part behind the point. -/
def truncate (q : Rat) : Int := if q < 0 then -((-q).floor) else q.floor

def power (q : Rat) : Nat → Rat
  | 0 => 1
  | n + 1 => q * power q n

def calculate (op : Char) (a b : Rat) : Rat :=
  match op with
  | '+' => a + b
  | '-' => a - b
  | '*' => a * b
  | '/' => a / b
  | '%' => if b = 0 then 0 else a - b * mkRat (truncate (a / b)) 1
  | _ =>
    let k := truncate b
    if k < 0 then 1 / power a k.natAbs else power a k.natAbs

/-! ### The state of a program -/

/-- Whether statements run on, or something is being left. -/
inductive Course where
  | going | breaking | continuing | next | exiting
  deriving DecidableEq

structure Sheet where
  line : List Char := []
  fields : List (List Char) := []
  values : List (List Char × Cell) := []
  arrays : List (List Char × List (List Char × Cell)) := []
  out : List Char := []
  files : List (List Char × List Char) := []
  file : List Char → Option (List Char) := fun _ => none
  course : Course := .going
  status : Nat := 0
  ranges : List Nat := []

namespace Sheet

def value (s : Sheet) (x : String) : Cell := (s.values.lookup x.toList).getD .none_

/-- The expression that a text spells; one that is not well formed matches nothing. -/
def regexOf (r : List Char) : Regex :=
  (Regex.parse? .extended (Regex.readEscapes r)).getD (.look false true .empty)

/-- The parts of a text between matches that are not empty, in at most `n` steps; the open part is
given in reverse. -/
def piecesAt (r : Regex) : Nat → List Char → List Char → List (List Char)
  | 0, _, s => [s]
  | n + 1, back, s =>
    match Regex.findFrom {} r back s with
    | some f =>
      let front := s.take (s.length - f.text.length - f.spot.rest.length)
      if f.text.isEmpty then [s] else front :: piecesAt r n f.spot.before f.spot.rest
    | none => [s]

def words : Nat → List Char → List (List Char)
  | 0, _ => []
  | n + 1, s =>
    let s := s.dropWhile Integer.isSpace
    let w := s.takeWhile (!Integer.isSpace ·)
    if w.isEmpty then [] else w :: words n (s.drop w.length)

/-- The fields of a text: words at a blank, parts between a byte or matches of an expression at
anything else. -/
def splitAt (separator t : List Char) : List (List Char) :=
  if t.isEmpty then []
  else
    match separator with
    | [] => t.map fun c => [c]
    | [' '] => words (t.length + 1) t
    | [c] => pieces c t
    | r => piecesAt (regexOf r) (t.length + 1) [] t

def withLine (s : Sheet) (t : List Char) : Sheet :=
  { s with line := t, fields := splitAt (s.value "FS").toText t }

def withFields (s : Sheet) (fs : List (List Char)) : Sheet :=
  { s with line := joinWith (s.value "OFS").toText fs, fields := fs }

def padded (n : Nat) (fs : List (List Char)) : List (List Char) :=
  fs ++ List.replicate (n - fs.length) []

def setField (s : Sheet) (k : Nat) (t : List Char) : Sheet :=
  if k = 0 then s.withLine t else s.withFields ((padded k s.fields).set (k - 1) t)

def get (s : Sheet) (x : List Char) : Cell :=
  if x = "NF".toList then .ofNat s.fields.length else (s.values.lookup x).getD .none_

def set (s : Sheet) (x : List Char) (v : Cell) : Sheet :=
  if x = "NF".toList then
    let n := (truncate v.toNumber).toNat
    s.withFields ((padded n s.fields).take n)
  else { s with values := assoc x v s.values }

def array (s : Sheet) (a : List Char) : List (List Char × Cell) := (s.arrays.lookup a).getD []

/-- Sets an item of an array, which keeps its place there. -/
def setItem (s : Sheet) (a k : List Char) (v : Cell) : Sheet :=
  let old := s.array a
  let new := if (old.lookup k).isSome then old.map fun i => if i.1 = k then (k, v) else i
    else old ++ [(k, v)]
  { s with arrays := assoc a new s.arrays }

def field (s : Sheet) (k : Nat) : Cell :=
  if k = 0 then .input s.line
  else
    match s.fields[k - 1]? with
    | some t => .input t
    | none => .none_

/-- Prints a text, to a file if one is given. -/
def put (s : Sheet) (file : Option (Bool × List Char)) (t : List Char) : Sheet :=
  match file with
  | none => { s with out := s.out ++ t }
  | some (appends, name) =>
    if name = "/dev/stdout".toList || name = ['-'] then { s with out := s.out ++ t }
    else if name = "/dev/stderr".toList then s
    else
      match s.files.lookup name with
      | some old => { s with files := assoc name (old ++ t) s.files }
      | none =>
        let old := if appends then (s.file name).getD [] else []
        { s with files := assoc name (old ++ t) s.files }

end Sheet

/-! ### Formats -/

/-- The kinds of the arguments that a format asks for, in at most `n` steps. -/
def kindsOf : Nat → List Char → List Char
  | 0, _ => []
  | _, [] => []
  | n + 1, '%' :: '%' :: s => kindsOf n s
  | n + 1, '%' :: s =>
    let spec := s.takeWhile fun c => !c.isAlpha
    let stars := List.replicate (spec.count '*') 'd'
    match s.drop spec.length with
    | c :: r => stars ++ c :: kindsOf n r
    | [] => stars
  | n + 1, _ :: s => kindsOf n s

def argumentText (kind : Char) (v : Cell) : List Char :=
  if "dioxXu".toList.contains kind then Integer.text (truncate v.toNumber)
  else if "eEfFgG".toList.contains kind then
    let q := v.toNumber
    let digits := Number.fixed 30 q.num.natAbs q.den
    if q < 0 then '-' :: digits else digits
  else if kind = 'c' then
    match v with
    | .number q => [Char.ofNat ((truncate q).toNat % 256)]
    | v => v.toText
  else v.toText

def formatted (f : List Char) (vs : List Cell) : List Char :=
  let kinds := kindsOf (f.length + 1) f
  let args := (kinds.zip (vs ++ List.replicate kinds.length .none_)).map fun (k, v) =>
    argumentText k v
  let f := f.flatMap fun c => if c = '\\' then ['\\', '\\'] else [c]
  (Printing.pass (f.length + 1) { arguments := args } f).out

/-! ### Exchanging -/

/-- What stands for a match. -/
def filled (found : List Char) : List Char → List Char
  | '\\' :: '&' :: s => '&' :: filled found s
  | '\\' :: '\\' :: s => '\\' :: filled found s
  | '&' :: s => found ++ filled found s
  | c :: s => c :: filled found s
  | [] => []

/-- A text with its first match or all matches exchanged, and how many, in at most `n` steps; an
empty match does not count where another has just ended. -/
def exchange (r : Regex) (new : List Char) (all : Bool) :
    Nat → Bool → List Char → List Char → List Char × Nat
  | 0, _, _, s => (s, 0)
  | n + 1, justEnded, back, s =>
    match Regex.findFrom {} r back s with
    | none => (s, 0)
    | some f =>
      let front := s.take (s.length - f.text.length - f.spot.rest.length)
      let isStale := justEnded && f.text.isEmpty && front.isEmpty
      let shown := if isStale then [] else filled f.text new
      let count := if isStale then 0 else 1
      if !all then (front ++ shown ++ f.spot.rest, count)
      else if f.text.isEmpty then
        match f.spot.rest with
        | [] => (front ++ shown, count)
        | c :: rest =>
          let (t, k) := exchange r new all n false (c :: f.spot.before) rest
          (front ++ shown ++ c :: t, count + k)
      else
        let (t, k) := exchange r new all n true f.spot.before f.spot.rest
        (front ++ shown ++ t, count + k)

/-! ### Expressions -/

abbrev Evaluator := Expr → Sheet → Cell × Sheet

/-- The values of expressions, from left to right. -/
def evaluateAll (ev : Evaluator) : List Expr → Sheet → List Cell × Sheet
  | [], s => ([], s)
  | e :: es, s =>
    let (v, s) := ev e s
    let (vs, s) := evaluateAll ev es s
    (v :: vs, s)

def keyOf (s : Sheet) (vs : List Cell) : List Char :=
  joinWith (s.value "SUBSEP").toText (vs.map Cell.toText)

/-- The text of the expression for matching that an expression stands for. -/
def patternOf (ev : Evaluator) (e : Expr) (s : Sheet) : List Char × Sheet :=
  match e with
  | .regex r => (r, s)
  | e =>
    let (v, s) := ev e s
    (v.toText, s)

def store (ev : Evaluator) (target : Expr) (v : Cell) (s : Sheet) : Sheet :=
  match target with
  | .name x => s.set x v
  | .field e =>
    let (k, s) := ev e s
    s.setField (truncate k.toNumber).toNat v.toText
  | .item a ks =>
    let (vs, s) := evaluateAll ev ks s
    s.setItem a (keyOf s vs) v
  | .group [e] =>
    match e with
    | .name x => s.set x v
    | _ => s
  | _ => s

/-- A part of a text by the place of its first byte and its length. -/
def part (t : List Char) (first : Rat) (length : Option Rat) : List Char :=
  let round (q : Rat) : Int := (q + 1 / 2).floor
  let lo := round first
  let hi : Int := match length with
    | some k => round (first + k)
    | none => t.length + 1
  let from_ := max lo 1
  if hi ≤ from_ then [] else (t.drop (from_.toNat - 1)).take (hi - from_).toNat

def callFunction (ev : Evaluator) (f : String) (args : List Expr) (s : Sheet) : Cell × Sheet :=
  match f, args with
  | "length", [] => (.ofNat s.line.length, s)
  | "length", [.name x] =>
    match s.arrays.lookup x with
    | some is => (.ofNat is.length, s)
    | none => (.ofNat (s.get x).toText.length, s)
  | "sub", r :: e :: rest | "gsub", r :: e :: rest =>
    let target := rest.headD (.field (.number 0))
    let (r, s) := patternOf ev r s
    let (new, s) := ev e s
    let (old, s) := ev target s
    let t := old.toText
    let (u, k) := exchange (Sheet.regexOf r) new.toText (f = "gsub") (t.length + 2) false [] t
    (.ofNat k, if k = 0 then s else store ev target (.text u) s)
  | "match", [e, r] =>
    let (v, s) := ev e s
    let (r, s) := patternOf ev r s
    let (start, length) : Int × Int :=
      match Regex.find? {} (Sheet.regexOf r) v.toText with
      | some f => (f.before.length + 1, f.text.length)
      | none => (0, -1)
    let s := (s.set "RSTART".toList (.number (mkRat start 1))).set "RLENGTH".toList
      (.number (mkRat length 1))
    (.number (mkRat start 1), s)
  | "split", e :: .name a :: rest =>
    let (v, s) := ev e s
    let (separator, s) := match rest with
      | r :: _ => patternOf ev r s
      | [] => ((s.value "FS").toText, s)
    let fs := Sheet.splitAt separator v.toText
    let items := (fs.zipIdx 1).map fun (t, k) => (Nat.toDigits 10 k, Cell.input t)
    (.ofNat fs.length, { s with arrays := assoc a items s.arrays })
  | f, args =>
    let (vs, s) := evaluateAll ev args s
    let text (k : Nat) : List Char := (vs.getD k .none_).toText
    let number (k : Nat) : Rat := (vs.getD k .none_).toNumber
    let v : Cell :=
      match f with
      | "length" => .ofNat (text 0).length
      | "substr" =>
        .text (part (text 0) (number 1) (if vs.length < 3 then none else some (number 2)))
      | "index" =>
        match Regex.find? {} (.literal (text 1)) (text 0) with
        | some g => .ofNat (g.before.length + 1)
        | none => .number 0
      | "sprintf" => .text (formatted (text 0) vs.tail)
      | "toupper" => .text ((text 0).map Char.toUpper)
      | "tolower" => .text ((text 0).map Char.toLower)
      | "int" => .number (mkRat (truncate (number 0)) 1)
      | _ => .none_
    (v, s)

/-- The value of an expression and the state after it; expressions in it are evaluated by an
evaluator. -/
def evaluateWith (ev : Evaluator) (e : Expr) (s : Sheet) : Cell × Sheet :=
  match e with
  | .number q => (.number q, s)
  | .text t => (.text t, s)
  | .regex r => (.ofBool (Regex.isIn {} (Sheet.regexOf r) s.line), s)
  | .name x => (s.get x, s)
  | .field e =>
    let (k, s) := ev e s
    (s.field (truncate k.toNumber).toNat, s)
  | .item a ks =>
    let (vs, s) := evaluateAll ev ks s
    let k := keyOf s vs
    match (s.array a).lookup k with
    | some v => (v, s)
    | none => (.none_, s.setItem a k .none_)
  | .assign target op e =>
    let (v, s) := ev e s
    let (v, s) : Cell × Sheet :=
      match op with
      | none => (v, s)
      | some op =>
        let (old, s) := ev target s
        (.number (calculate op old.toNumber v.toNumber), s)
    (v, store ev target v s)
  | .step target isBefore isUp =>
    let (old, s) := ev target s
    let new := old.toNumber + (if isUp then 1 else -1)
    (.number (if isBefore then new else old.toNumber), store ev target (.number new) s)
  | .unary op e =>
    let (v, s) := ev e s
    (if op = '!' then .ofBool (!v.isTrue)
      else .number (if op = '-' then -v.toNumber else v.toNumber), s)
  | .binary op a b =>
    let (x, s) := ev a s
    let (y, s) := ev b s
    if op = '/' && y.toNumber = 0 then (.number 0, { s with course := .exiting, status := 2 })
    else (.number (calculate op x.toNumber y.toNumber), s)
  | .compare op a b =>
    let (x, s) := ev a s
    let (y, s) := ev b s
    (.ofBool (Cell.holds op x y), s)
  | .join a b =>
    let (x, s) := ev a s
    let (y, s) := ev b s
    (.text (x.toText ++ y.toText), s)
  | .isMatch negated a b =>
    let (x, s) := ev a s
    let (r, s) := patternOf ev b s
    (.ofBool (Regex.isIn {} (Sheet.regexOf r) x.toText != negated), s)
  | .isKey ks a =>
    let (vs, s) := evaluateAll ev ks s
    (.ofBool ((s.array a).lookup (keyOf s vs)).isSome, s)
  | .both a b =>
    let (x, s) := ev a s
    if x.isTrue then
      let (y, s) := ev b s
      (.ofBool y.isTrue, s)
    else (.ofBool false, s)
  | .either a b =>
    let (x, s) := ev a s
    if x.isTrue then (.ofBool true, s)
    else
      let (y, s) := ev b s
      (.ofBool y.isTrue, s)
  | .choice c a b =>
    let (x, s) := ev c s
    if x.isTrue then ev a s else ev b s
  | .call f args => callFunction ev (String.ofList f) args s
  | .group [e] => ev e s
  | .group es =>
    let (vs, s) := evaluateAll ev es s
    (.text (keyOf s vs), s)

/-- The value of an expression in which expressions stand in each other at most `n` deep. -/
def evaluate : Nat → Evaluator
  | 0 => fun _ s => (.none_, s)
  | n + 1 => evaluateWith (evaluate n)

/-! ### Statements -/

/-- More than the depth of any program, and more rounds than any loop. -/
def limit : Nat := 100000

def valueOf : Evaluator := evaluate limit

def sinkOf (k : Sink) (s : Sheet) : Option (Bool × List Char) × Sheet :=
  match k with
  | .on => (none, s)
  | .file appends e =>
    let (v, s) := valueOf e s
    (some (appends, v.toText), s)

/-- How a loop goes on after a round: whether there are more, and the state. -/
def afterRound (s : Sheet) : Bool × Sheet :=
  match s.course with
  | .going => (true, s)
  | .continuing => (true, { s with course := .going })
  | .breaking => (false, { s with course := .going })
  | _ => (false, s)

/-- The rounds of a loop, at most `n` of them. -/
def rounds (condition : Sheet → Bool × Sheet) (body next : Sheet → Sheet) : Nat → Sheet → Sheet
  | 0, s => { s with course := .exiting, status := 2 }
  | n + 1, s =>
    match condition s with
    | (false, s) => s
    | (true, s) =>
      match afterRound (body s) with
      | (true, s) => rounds condition body next n (next s)
      | (false, s) => s

def isMet (c : Expr) (s : Sheet) : Bool × Sheet :=
  let (v, s) := valueOf c s
  (v.isTrue && s.course = .going, s)

/-- Performs a statement; statements in it are performed by `run`. -/
def performWith (run : Stmt → Sheet → Sheet) (t : Stmt) (s : Sheet) : Sheet :=
  if s.course ≠ .going then s
  else
    match t with
    | .block body => body.foldl (fun s t => run t s) s
    | .expression e => (valueOf e s).2
    | .print args sink =>
      let (vs, s) := evaluateAll valueOf args s
      let texts := if args.isEmpty then [s.line] else vs.map Cell.toText
      let (file, s) := sinkOf sink s
      if s.course ≠ .going then s
      else s.put file (joinWith (s.value "OFS").toText texts ++ (s.value "ORS").toText)
    | .printf args sink =>
      let (vs, s) := evaluateAll valueOf args s
      let (file, s) := sinkOf sink s
      match vs with
      | f :: vs => s.put file (formatted f.toText vs)
      | [] => s
    | .branch c a b =>
      let (v, s) := valueOf c s
      if v.isTrue then run a s
      else
        match b with
        | some b => run b s
        | none => s
    | .whileDo c body => rounds (isMet c) (run body) id limit s
    | .doWhile body c =>
      match afterRound (run body s) with
      | (true, s) => rounds (isMet c) (run body) id limit s
      | (false, s) => s
    | .loop start c next body =>
      let s := match start with
        | some t => run t s
        | none => s
      let condition := match c with
        | some c => isMet c
        | none => fun s => (s.course = .going, s)
      let step := match next with
        | some t => run t
        | none => id
      rounds condition (run body) step limit s
    | .each x a body =>
      let step (r : Bool × Sheet) (k : List Char) : Bool × Sheet :=
        if r.1 && ((r.2.array a).lookup k).isSome then
          afterRound (run body (r.2.set x (.input k)))
        else r
      (((s.array a).map Prod.fst).foldl step (true, s)).2
    | .delete a none => { s with arrays := assoc a [] s.arrays }
    | .delete a (some ks) =>
      let (vs, s) := evaluateAll valueOf ks s
      { s with arrays := assoc a (dissoc (keyOf s vs) (s.array a)) s.arrays }
    | .break_ => { s with course := .breaking }
    | .continue_ => { s with course := .continuing }
    | .next => { s with course := .next }
    | .exit none => { s with course := .exiting }
    | .exit (some e) =>
      let (v, s) := valueOf e s
      { s with course := .exiting, status := (truncate v.toNumber % 256).toNat }

/-- Performs a statement in which statements stand in each other at most `n` deep. -/
def perform : Nat → Stmt → Sheet → Sheet
  | 0 => fun _ s => s
  | n + 1 => performWith (perform n)

/-! ### Programs -/

/-- The body of an item, which prints the line if there is none. -/
def Item.run (i : Item) (s : Sheet) : Sheet := perform limit (i.body.getD (.print [] .on)) s

def runOutside (isBegin : Bool) (is : List Item) (s : Sheet) : Sheet :=
  is.foldl (fun s i =>
    match i.guard, isBegin with
    | .begin_, true | .end_, false => if s.course = .going then i.run s else s
    | _, _ => s) s

/-- Runs an item on the line; `k` is the item's place. -/
def runItem (s : Sheet) (i : Item) (k : Nat) : Sheet :=
  if s.course ≠ .going then s
  else
    match i.guard with
    | .always => i.run s
    | .when e =>
      let (b, s) := isMet e s
      if b then i.run s else s
    | .between a b =>
      let (starts, s) := if s.ranges.contains k then (true, s) else isMet a s
      if starts then
        let (ends, s) := isMet b s
        let others := s.ranges.filter (· ≠ k)
        i.run { s with ranges := if ends then others else k :: others }
      else s
    | _ => s

def runLines (is : List Item) (ls : List (List Char)) (s : Sheet) : Sheet :=
  ls.foldl (fun s l =>
    if s.course ≠ .going then s
    else
      let count (x : String) (s : Sheet) : Sheet :=
        s.set x.toList (.number ((s.value x).toNumber + 1))
      let s := count "FNR" (count "NR" (s.withLine l))
      let s := is.zipIdx.foldl (fun s i => runItem s i.1 i.2) s
      if s.course = .next then { s with course := .going } else s) s

/-- The lines of a text, which end at a separator; with an empty one they are divided by empty
lines. -/
def recordsOf (separator t : List Char) : List (List Char) :=
  match separator with
  | [c] =>
    let ps := pieces c t
    if ps.getLast? = some [] || (c ≠ '\n' && ps.getLast? = some ['\n']) then ps.dropLast else ps
  | [] =>
    let t := (t.reverse.dropWhile (· = '\n')).reverse.dropWhile (· = '\n')
    (Sheet.piecesAt (Sheet.regexOf "\n\n+".toList) (t.length + 1) [] t).filter (!·.isEmpty)
  | r =>
    let ps := Sheet.piecesAt (Sheet.regexOf r) (t.length + 1) [] t
    if ps.getLast? = some [] then ps.dropLast else ps

def assignment? (a : List Char) : Option (List Char × Cell) :=
  match cut? '=' a with
  | some (x, v) =>
    if x.head?.any (fun c => c.isAlpha || c = '_') && x.all (fun c => c.isAlphanum || c = '_') then
      some (x, .input (unescape v).1)
    else none
  | none => none

/-- Runs the items on the lines of what arguments name, each a file or an assignment. -/
def runOperands (is : List Item) (t : Task) (operands : List (List Char)) (s : Sheet) : Sheet :=
  operands.foldl (fun s a =>
    match assignment? a with
    | some (x, v) => s.set x v
    | none =>
      match t.text? a with
      | some text =>
        let s := (s.set "FILENAME".toList (.text a)).set "FNR".toList (.number 0)
        runLines is (recordsOf (s.value "RS").toText text) s
      | none => s) s

/-- A program on texts, with variables given. -/
def run (environment : List (List Char × List Char)) : Tool := fun t =>
  match Options.parse? { flags := [], valued := "Fvf".toList } (guarded t.arguments) with
  | none => .failing "awk: invalid option" 2
  | some o =>
    let (source?, operands) := match o.value? 'f', o.operands with
      | some f, operands => (t.file f, operands)
      | none, p :: operands => (some p, operands)
      | none, [] => (none, [])
    match source?.bind readProgram?, (o.values 'v').mapM assignment? with
    | some is, some given =>
      let standard : List (String × String) :=
        [("FS", " "), ("OFS", " "), ("ORS", "\n"), ("RS", "\n"), ("SUBSEP", "\x1c")]
      let values := standard.map fun v => (v.1.toList, Cell.text v.2.toList)
      let s : Sheet :=
        { values := values ++ [("NR".toList, .number 0), ("FNR".toList, .number 0)]
          arrays := [("ENVIRON".toList, environment.map fun v => (v.1, Cell.input v.2))]
          file := t.file }
      let s := match o.value? 'F' with
        | some f => s.set "FS".toList (.text (if f = ['t'] then ['\t'] else (unescape f).1))
        | none => s
      let s := given.foldl (fun s v => s.set v.1 v.2) s
      let s := runOutside true is s
      let names := operands.filter fun a => (assignment? a).isNone
      let missing := (t.texts names).2
      let operands := if names.isEmpty then operands ++ [['-']] else operands
      let reads := is.any fun i => match i.guard with
        | .begin_ => false
        | _ => true
      let s := if reads then runOperands is t operands s else s
      let s := if s.course = .exiting && s.status = 2 then s
        else
          let t := runOutside false is { s with course := .going }
          if t.course = .exiting then t else { t with status := s.status }
      { output := s.out
        complaint := missing.flatMap fun n =>
          "awk: cannot open ".toList ++ n ++ " (No such file or directory)\n".toList
        status := if s.status = 0 && !missing.isEmpty then 2 else s.status
        readsInput := reads && (names.isEmpty || names.contains ['-'])
        written := s.files.map fun f => (f.1, some f.2) }
    | _, _ => .failing "awk: syntax error" 2
where
  /-- Arguments in which no options come behind the program. -/
  guarded : List (List Char) → List (List Char)
    | [] => []
    | ['-', '-'] :: as => ['-', '-'] :: as
    | ['-', c] :: a :: as => ['-', c] :: a :: guarded as
    | ('-' :: c :: d :: cs) :: as => ('-' :: c :: d :: cs) :: guarded as
    | a :: as => ['-', '-'] :: a :: as

end RepoBrowser.Shell.Tool.Awk
