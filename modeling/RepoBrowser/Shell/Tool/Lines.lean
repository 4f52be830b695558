import RepoBrowser.Shell.Tool.Basic

/-!
# Tools for lines

* `cat`, `tac`, `rev` — texts one behind the other, their lines in reverse, each line in reverse;
* `head`, `tail` — the first and the last lines or bytes;
* `wc` — how many lines, words and bytes there are;
* `sort`, `uniq` — lines in order, and lines without repetitions;
* `nl`, `paste`, `fold` — lines with numbers, lines put together, and lines broken.
-/

namespace RepoBrowser.Shell.Tool

open Text

def padNumber (width n : Nat) : List Char :=
  let ds := Nat.toDigits 10 n
  List.replicate (width - ds.length) ' ' ++ ds

/-- Lines with numbers in front of them; with `onlyFilled` empty lines have none. -/
def numbered (onlyFilled : Bool) : Nat → List (List Char) → List (List Char)
  | _, [] => []
  | n, l :: ls =>
    if onlyFilled && l.isEmpty then l :: numbered onlyFilled n ls
    else (padNumber 6 n ++ '\t' :: l) :: numbered onlyFilled (n + 1) ls

def cat : Tool := fun t =>
  match Options.parse? { flags := "nbu".toList } t.arguments with
  | none => .failing "cat: invalid option" 1
  | some o =>
    t.onTexts "cat" o.operands fun s =>
      if o.has 'n' || o.has 'b' then likeText s (numbered (o.has 'b') 1 (linesOf s)) else s

def tac : Tool := fun t =>
  t.onTexts "tac" t.arguments fun s => lineEnded (linesOf s).reverse

def rev : Tool := fun t =>
  t.onTexts "rev" t.arguments fun s => likeText s ((linesOf s).map List.reverse)

/-- A text divided into lines with their ends. -/
def endedLines (s : List Char) : List (List Char) :=
  let ls := linesOf s
  match ls.getLast? with
  | some l => if isOpenEnded s then ls.dropLast.map (· ++ ['\n']) ++ [l] else ls.map (· ++ ['\n'])
  | none => []

def signedCount? (s : List Char) : Option (Char × Nat) :=
  match s with
  | '-' :: r => (natural? r).map fun n => ('-', n)
  | '+' :: r => (natural? r).map fun n => ('+', n)
  | r => (natural? r).map fun n => (' ', n)

/-- Arguments in which a first one of a dash and digits counts lines. -/
def withOldCount (args : List (List Char)) : List (List Char) :=
  match args with
  | ('-' :: c :: cs) :: as =>
    if c.isDigit && cs.all Char.isDigit then ['-', 'n'] :: (c :: cs) :: as else args
  | as => as

/-- The first of some things: as many as asked for, or all but as many. -/
def firstOf {α : Type} (sign : Char) (n : Nat) (xs : List α) : List α :=
  if sign = '-' then xs.take (xs.length - n) else xs.take n

/-- The last of some things: as many as asked for, or from the one at a place on. -/
def lastOf {α : Type} (sign : Char) (n : Nat) (xs : List α) : List α :=
  if sign = '+' then xs.drop (n - 1) else xs.drop (xs.length - n)

def countOptions : Options.Known :=
  { flags := "qv".toList
    valued := "nc".toList
    long := [("lines", 'n'), ("bytes", 'c'), ("quiet", 'q')] }

def taking (name : String) (pick : {α : Type} → Char → Nat → List α → List α) : Tool := fun t =>
  match Options.parse? countOptions (withOldCount t.arguments) with
  | none => .failing (name ++ ": invalid option") 1
  | some o =>
    match o.value? 'c', signedCount? ((o.value? 'n').getD "10".toList) with
    | some c, _ =>
      match signedCount? c with
      | some (sign, n) => t.onTexts name o.operands (pick sign n)
      | none => .failing (name ++ ": invalid number of bytes") 1
    | none, some (sign, n) =>
      t.onTexts name o.operands fun s => (pick sign n (endedLines s)).flatten
    | none, none => .failing (name ++ ": invalid number of lines") 1

def head : Tool := taking "head" firstOf

def tail : Tool := taking "tail" lastOf

def wordCount : Bool → List Char → Nat
  | _, [] => 0
  | inWord, c :: s =>
    if Integer.isSpace c then wordCount false s
    else (if inWord then 0 else 1) + wordCount true s

def wc : Tool := fun t =>
  let long := [("lines", 'l'), ("words", 'w'), ("bytes", 'c'), ("chars", 'm')]
  match Options.parse? { flags := "lwcmL".toList, long } t.arguments with
  | none => .failing "wc: invalid option" 1
  | some o =>
    t.onTexts "wc" o.operands fun s =>
      let all := o.given.isEmpty
      let counts :=
        (if all || o.has 'l' then [s.count '\n'] else [])
          ++ (if all || o.has 'w' then [wordCount false s] else [])
          ++ (if o.has 'm' then [s.length] else [])
          ++ (if all || o.has 'c' then [s.length] else [])
          ++ (if o.has 'L' then [((linesOf s).map List.length).foldl max 0] else [])
      let width :=
        if counts.length ≤ 1 then 1
        else if o.operands.isEmpty then 7 else (Nat.toDigits 10 s.length).length
      joinWith [' '] (counts.map (padNumber width))
        ++ (match o.operands with
          | [name] => if name = ['-'] then [] else ' ' :: name
          | _ => [])
        ++ ['\n']

/-! ### Order -/

/-- The number at the start of a line, in units of 10⁻⁹. -/
def lineNumber (s : List Char) : Int :=
  let s := s.dropWhile fun c => c = ' ' || c = '\t'
  let (negative, s) := match s with
    | '-' :: r => (true, r)
    | r => (false, r)
  let whole := s.takeWhile Char.isDigit
  let part := match s.drop whole.length with
    | '.' :: r => (r.takeWhile Char.isDigit).take 9
    | _ => []
  let n : Int := Integer.ofDigits 10 (whole ++ part ++ List.replicate (9 - part.length) '0')
  if negative then -n else n

/-- What part of a line is compared, and how. -/
structure SortKey where
  first : Nat := 1
  last : Option Nat := none
  numeric : Bool := false
  folds : Bool := false
  reversed : Bool := false

/-- The fields of a line: between separators, or runs of blanks with what follows them. -/
def lineFields (separator : Option Char) (l : List Char) : List (List Char) :=
  match separator with
  | some c => pieces c l
  | none => go (l.length + 1) l
where
  /-- The same at blanks, in at most `n` steps. -/
  go : Nat → List Char → List (List Char)
    | 0, _ => []
    | _, [] => []
    | n + 1, l =>
      let blank (c : Char) : Bool := c = ' ' || c = '\t'
      let front := l.takeWhile blank
      let word := (l.drop front.length).takeWhile (!blank ·)
      (front ++ word) :: go n (l.drop (front.length + word.length))

namespace SortKey

def partOf (separator : Option Char) (k : SortKey) (l : List Char) : List Char :=
  let fs := (lineFields separator l).drop (k.first - 1)
  let fs := match k.last with
    | some n => fs.take (n + 1 - k.first)
    | none => fs
  joinWith separator.toList fs

def compare (k : SortKey) (a b : List Char) : Ordering :=
  let o :=
    if k.numeric then Ord.compare (lineNumber a) (lineNumber b)
    else
      let a := if k.folds then a.map Char.toUpper else a
      let b := if k.folds then b.map Char.toUpper else b
      if a < b then .lt else if b < a then .gt else .eq
  if k.reversed then o.swap else o

/-- The key that an option's value asks for; `d` has what holds for all keys. -/
def read? (d : SortKey) (s : List Char) : Option SortKey := do
  let first := s.takeWhile Char.isDigit
  let n ← natural? first
  let s := (s.drop first.length).dropWhile fun c => c = '.' || c.isDigit
  let more (c : Char) : Bool := c ≠ ',' && !c.isDigit
  let letters := s.takeWhile more
  let (last, letters) := match s.drop letters.length with
    | ',' :: r =>
      let ds := r.takeWhile Char.isDigit
      (natural? ds, letters ++ r.drop ds.length)
    | _ => (none, letters)
  if letters.isEmpty then some { d with first := n, last }
  else
    some { first := n, last, numeric := letters.contains 'n', folds := letters.contains 'f',
           reversed := letters.contains 'r' }

end SortKey

def sort : Tool := fun t =>
  let long := [("reverse", 'r'), ("numeric-sort", 'n'), ("unique", 'u'), ("key", 'k'),
    ("field-separator", 't'), ("stable", 's')]
  match Options.parse? { flags := "rnufbs".toList, valued := "kt".toList, long } t.arguments with
  | none => .failing "sort: invalid option" 2
  | some o =>
    let all : SortKey :=
      { numeric := o.has 'n', folds := o.has 'f', reversed := o.has 'r' }
    match (o.values 'k').mapM (SortKey.read? all) with
    | none => .failing "sort: invalid number at field start" 2
    | some keys =>
      let separator := (o.value? 't').bind List.head?
      let keys := if keys.isEmpty then [all] else keys
      let byKeys (a b : List Char) : Ordering :=
        keys.foldl (fun r k =>
          r.then (k.compare (k.partOf separator a) (k.partOf separator b))) .eq
      let last : SortKey := { reversed := o.has 'r' }
      let order (a b : List Char) : Ordering :=
        if o.has 'u' || o.has 's' then byKeys a b else (byKeys a b).then (last.compare a b)
      t.onTexts "sort" o.operands fun s =>
        let ls := (linesOf s).mergeSort fun a b => order a b ≠ .gt
        lineEnded (if o.has 'u' then unique byKeys ls else ls)
where
  /-- Lines without those that compare equal to the one before. -/
  unique (order : List Char → List Char → Ordering) : List (List Char) → List (List Char)
    | [] => []
    | [l] => [l]
    | l :: m :: ls =>
      match unique order (m :: ls) with
      | [] => [l]
      | m :: ls => if order l m = .eq then l :: ls else l :: m :: ls

/-- Runs of equal lines, each with how often it stands there. -/
def runs (folds : Bool) : List (List Char) → List (Nat × List Char)
  | [] => []
  | l :: ls =>
    let fold (s : List Char) : List Char := if folds then s.map Char.toLower else s
    match runs folds ls with
    | (n, m) :: rs => if fold l = fold m then (n + 1, l) :: rs else (1, l) :: (n, m) :: rs
    | [] => [(1, l)]

def uniq : Tool := fun t =>
  let long := [("count", 'c'), ("repeated", 'd'), ("unique", 'u'), ("ignore-case", 'i')]
  match Options.parse? { flags := "cdui".toList, long } t.arguments with
  | none => .failing "uniq: invalid option" 1
  | some o =>
    t.onTexts "uniq" o.operands fun s =>
      let rs := (runs (o.has 'i') (linesOf s)).filter fun r =>
        (!o.has 'd' || 1 < r.1) && (!o.has 'u' || r.1 = 1)
      lineEnded (rs.map fun r => if o.has 'c' then padNumber 7 r.1 ++ ' ' :: r.2 else r.2)

/-! ### Other lines -/

def nl : Tool := fun t =>
  match Options.parse? { flags := [], valued := "bwsv".toList } t.arguments with
  | none => .failing "nl: invalid option" 1
  | some o =>
    t.onTexts "nl" o.operands fun s =>
      let all := o.value? 'b' = some ['a']
      lineEnded ((numbered (!all) 1 (linesOf s)).map fun l =>
        if l.isEmpty then List.replicate 7 ' ' else l)

/-- Lines put together with separators from a list between them, which is gone through in turn. -/
def joinCycling (separators : List Char) : Nat → List (List Char) → List Char
  | _, [] => []
  | _, [l] => l
  | n, l :: ls =>
    l ++ (separators[n % separators.length]?).toList ++ joinCycling separators (n + 1) ls

def paste : Tool := fun t =>
  let long := [("serial", 's'), ("delimiters", 'd')]
  match Options.parse? { flags := ['s'], valued := ['d'], long } t.arguments with
  | none => .failing "paste: invalid option" 1
  | some o =>
    let given := (o.value? 'd').getD ['\t']
    let separators := if given = "\\n".toList then ['\n'] else if given = "\\t".toList then ['\t']
      else if given = "\\0".toList then [] else given
    t.onTexts "paste" (o.operands.take 1) fun s =>
      if o.has 's' then joinCycling separators 0 (linesOf s) ++ ['\n']
      else
        match o.operands.length with
        | 0 | 1 => lineEnded (linesOf s)
        | k => lineEnded (chunks (s.length + 1) k separators (linesOf s))
where
  /-- Lines put together `k` at a time, in at most `n` steps. -/
  chunks : Nat → Nat → List Char → List (List Char) → List (List Char)
    | 0, _, _, _ => []
    | _, _, _, [] => []
    | n + 1, k, separators, ls =>
      let row := ls.take k ++ List.replicate (k - ls.length) []
      joinCycling separators 0 row :: chunks n k separators (ls.drop k)

/-- A line broken after every `w` bytes, in at most `n` steps. -/
def broken (w : Nat) : Nat → List Char → List (List Char)
  | 0, l => [l]
  | n + 1, l => if l.length ≤ w || w = 0 then [l] else l.take w :: broken w n (l.drop w)

def fold : Tool := fun t =>
  match Options.parse? { flags := "bs".toList, valued := ['w'], long := [("width", 'w')] }
      t.arguments with
  | none => .failing "fold: invalid option" 1
  | some o =>
    let w := ((o.value? 'w').bind natural?).getD 80
    t.onTexts "fold" o.operands fun s =>
      likeText s ((linesOf s).flatMap fun l => broken w l.length l)

end RepoBrowser.Shell.Tool
