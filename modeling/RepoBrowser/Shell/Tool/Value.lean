import RepoBrowser.Shell.Format
import RepoBrowser.Shell.Regex
import RepoBrowser.Shell.Tool.Basic

/-!
# Tools for numbers and values

* `seq` — numbers in steps;
* `Value`, `expr` — the value of an expression whose parts are arguments.
-/

namespace RepoBrowser.Shell.Tool

open Text

/-! ### Numbers in steps -/

def integer? (s : List Char) : Option Int :=
  match s with
  | '-' :: r => (natural? r).map fun n => -(n : Int)
  | '+' :: r => (natural? r).map fun n => (n : Int)
  | r => (natural? r).map fun n => (n : Int)

/-- How many digits an argument has behind its point. -/
def placesOf (s : List Char) : Nat := ((cut? '.' s).map fun p => p.2.length).getD 0

/-- The decimal number that an argument is, in units of the last of `places` digits behind the
point. -/
def decimal? (places : Nat) (s : List Char) : Option Int :=
  let (whole, part) := (cut? '.' s).getD (s, [])
  let part := (part ++ List.replicate (places - part.length) '0').take places
  integer? (whole ++ part)

/-- A number in units of the last of `places` digits behind the point. -/
def decimalText (places : Nat) (n : Int) : List Char :=
  if places = 0 then Integer.text n
  else
    let ds := Nat.toDigits 10 n.natAbs
    let ds := List.replicate (places + 1 - ds.length) '0' ++ ds
    (if n < 0 then ['-'] else []) ++ ds.take (ds.length - places) ++ '.'
      :: ds.drop (ds.length - places)

/-- At most `k` numbers from `a` on in steps of `d`, none of them behind `b`. -/
def steps (d b : Int) : Nat → Int → List Int
  | 0, _ => []
  | k + 1, a => if (0 < d && b < a) || (d < 0 && a < b) then [] else a :: steps d b k (a + d)

def padZeros (width : Nat) (s : List Char) : List Char :=
  let zeros := List.replicate (width - s.length) '0'
  match s with
  | '-' :: r => '-' :: (zeros ++ r)
  | r => zeros ++ r

/-- Arguments in front of which no more options come once a number has come. -/
def seqArguments : List (List Char) → List (List Char)
  | [] => []
  | ['-', 's'] :: a :: as => ['-', 's'] :: a :: seqArguments as
  | ['-', 'f'] :: a :: as => ['-', 'f'] :: a :: seqArguments as
  | a :: as =>
    if (decimal? (placesOf a) a).isSome then ['-', '-'] :: a :: as else a :: seqArguments as

def seq : Tool := fun t =>
  let long := [("separator", 's'), ("equal-width", 'w'), ("format", 'f')]
  match Options.parse? { flags := ['w'], valued := "sf".toList, long } (seqArguments t.arguments)
    with
  | none => .failing "seq: invalid option" 1
  | some o =>
    let places := ((o.operands.take (o.operands.length - 1)).map placesOf).foldl max 0
    let last := o.operands.getLastD []
    let asked? : Option (Int × Int × Int) :=
      match o.operands.mapM (decimal? (max places (placesOf last))) with
      | some [b] => some (Nat.pow 10 (placesOf last), Nat.pow 10 (placesOf last), b)
      | some [a, b] => some (a, Nat.pow 10 (max places (placesOf last)), b)
      | some [a, d, b] => if d = 0 then none else some (a, d, b)
      | _ => none
    match asked? with
    | none => .failing "seq: invalid argument" 1
    | some (a, d, b) =>
      let scale : Int := Nat.pow 10 (max places (placesOf last) - places)
      let texts := (steps d b ((b - a).natAbs + 1) a).map fun n => decimalText places (n / scale)
      let width := (texts.map List.length).foldl max 0
      let texts := match o.value? 'f' with
        | some f => texts.map fun x => (Shell.printf [f, x]).1
        | none => if o.has 'w' then texts.map (padZeros width) else texts
      if texts.isEmpty then .printing []
      else .printing (joinWith ((o.value? 's').getD ['\n']) texts ++ ['\n'])

/-! ### Expressions -/

namespace Value

/-- Whether a value counts as false: it is empty or zero. -/
def isFalse (v : List Char) : Bool :=
  v.isEmpty || (match v with
    | '-' :: r => !r.isEmpty && r.all (· = '0')
    | r => r.all (· = '0'))

def ofBool (b : Bool) : List Char := if b then ['1'] else ['0']

/-- The value of a comparison: of integers where both sides are some. -/
def compare? (op a b : List Char) : Option (List Char) :=
  let order := match integer? a, integer? b with
    | some m, some n => Ord.compare m n
    | _, _ => if a < b then .lt else if b < a then .gt else .eq
  match String.ofList op with
  | "<" => some (ofBool (order = .lt))
  | "<=" => some (ofBool (order ≠ .gt))
  | "=" | "==" => some (ofBool (order = .eq))
  | "!=" => some (ofBool (order ≠ .eq))
  | ">=" => some (ofBool (order ≠ .lt))
  | ">" => some (ofBool (order = .gt))
  | _ => none

/-- The value of a match at the start: the first group, or the number of bytes. -/
def matchStart? (a r : List Char) : Option (List Char) :=
  (Regex.parse? .basic r).map fun p =>
    let hasGroup := (cutLastAt? ['\\', '('] r).isSome
    match Regex.matchAt {} p [] a with
    | some f =>
      if hasGroup then (f.spot.groups.lookup 1).getD [] else Nat.toDigits 10 f.text.length
    | none => if hasGroup then [] else ['0']

def calculate? (op a b : List Char) : Option (List Char) := do
  let m ← integer? a
  let n ← integer? b
  match op with
  | ['+'] => some (Integer.text (m + n))
  | ['-'] => some (Integer.text (m - n))
  | ['*'] => some (Integer.text (m * n))
  | ['/'] => if n = 0 then none else some (Integer.text (m.tdiv n))
  | ['%'] => if n = 0 then none else some (Integer.text (m.tmod n))
  | _ => none

def strength? (op : List Char) : Option Nat :=
  match String.ofList op with
  | "|" => some 1
  | "&" => some 2
  | "<" | "<=" | "=" | "==" | "!=" | ">=" | ">" => some 3
  | "+" | "-" => some 4
  | "*" | "/" | "%" => some 5
  | ":" => some 6
  | _ => none

def operate? (op a b : List Char) : Option (List Char) :=
  match op with
  | ['|'] => some (if isFalse a then (if isFalse b then ['0'] else b) else a)
  | ['&'] => some (if isFalse a || isFalse b then ['0'] else a)
  | [':'] => matchStart? a b
  | op => (compare? op a b).or (calculate? op a b)

mutual

/-- Reads a value that binds at least as tightly as `k`. -/
def read? : Nat → Nat → List (List Char) → Option (List Char × List (List Char))
  | 0, _, _ => none
  | n + 1, k, args => do
    let (a, r) ← readOne? n args
    readMore? n k a r

def readMore? : Nat → Nat → List Char → List (List Char) →
    Option (List Char × List (List Char))
  | 0, _, _, _ => none
  | n + 1, k, a, args =>
    match args with
    | [] => some (a, [])
    | op :: r =>
      match strength? op with
      | some j =>
        if j < k then some (a, args)
        else do
          let (b, r) ← read? n (j + 1) r
          let v ← operate? op a b
          readMore? n k v r
      | none => some (a, args)

/-- Reads a value: an argument, a function's, or one in parentheses. -/
def readOne? : Nat → List (List Char) → Option (List Char × List (List Char))
  | 0, _ => none
  | n + 1, args =>
    match args with
    | [] => none
    | a :: r =>
      match String.ofList a with
      | "(" => do
        let (v, r) ← read? n 1 r
        match r with
        | [')'] :: r => some (v, r)
        | _ => none
      | "length" => do
        let (s, r) ← readOne? n r
        some (Nat.toDigits 10 s.length, r)
      | "substr" => do
        let (s, r) ← readOne? n r
        let (i, r) ← readOne? n r
        let (k, r) ← readOne? n r
        let part := match integer? i, integer? k with
          | some i, some k => if i ≤ 0 || k ≤ 0 then [] else (s.drop (i.toNat - 1)).take k.toNat
          | _, _ => []
        some (part, r)
      | "index" => do
        let (s, r) ← readOne? n r
        let (cs, r) ← readOne? n r
        some (Nat.toDigits 10 (match s.findIdx? cs.contains with
          | some i => i + 1
          | none => 0), r)
      | "match" => do
        let (s, r) ← readOne? n r
        let (p, r) ← readOne? n r
        let v ← matchStart? s p
        some (v, r)
      | "+" =>
        match r with
        | b :: r => some (b, r)
        | [] => some (a, [])
      | _ => some (a, r)

end

end Value

/-- The value of an expression; it fails where that counts as false. -/
def expr : Tool := fun t =>
  let args := match t.arguments with
    | ['-', '-'] :: r => r
    | r => r
  match Value.read? (8 * args.length + 8) 1 args with
  | some (v, []) =>
    { output := v ++ ['\n'], status := if Value.isFalse v then 1 else 0, readsInput := false }
  | _ => .failing "expr: syntax error" 2

end RepoBrowser.Shell.Tool
