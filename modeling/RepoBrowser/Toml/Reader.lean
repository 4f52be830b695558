import RepoBrowser.Toml.Value

/-!
# Reading TOML

A reader takes a text and gives what it read with the text behind it, or nothing when the text is
not of its form.

* `readBasic`, `readLiteral` and their multi-line forms — the four kinds of strings;
* `readKey` — a key, bare, quoted or dotted;
* `scalar?` — the number, truth value, date or time that a word is;
* `readValue` — a value, arrays and inline tables included;
* `readStatement`, `statements?` — the lines of a document;
* `Toml.parse?` — the table that a document describes.

Readers of nested values carry a bound on the steps they may take, which `parse?` sets to the
length of the text: each step reads at least one character.  Arrays, inline tables and dotted keys
can be `maxDepth` deep.
-/

namespace RepoBrowser.Toml

/-- A reader: what it read and the text behind it. -/
abbrev Reader (α : Type) := List Char → Option (α × List Char)

def skipBlanks (s : List Char) : List Char := s.dropWhile fun c => c = ' ' || c = '\t'

/-- Whether a character may stand in a comment or a literal string. -/
def isAllowed (c : Char) : Bool := c = '\t' || (0x20 ≤ c.toNat && c.toNat ≠ 0x7F)

def afterLineEnd? : List Char → Option (List Char)
  | '\n' :: s => some s
  | '\r' :: '\n' :: s => some s
  | _ => none

def skipComment : List Char → List Char
  | '#' :: s => s.dropWhile isAllowed
  | s => s

/-- What the end of a line leaves: blanks and a comment, then a line end or nothing more. -/
def endOfLine? (s : List Char) : Option (List Char) :=
  match skipComment (skipBlanks s) with
  | [] => some []
  | r => afterLineEnd? r

/-- The text behind blanks, comments and line ends; `none` for a stray control character. -/
def skipSpace : Nat → List Char → Option (List Char)
  | 0, s => some s
  | n + 1, s =>
    match skipComment (skipBlanks s) with
    | [] => some []
    | r =>
      match afterLineEnd? r with
      | some t => skipSpace n t
      | none => if r.length < (skipBlanks s).length then none else some r

/-! ### Strings -/

def hexValue? (c : Char) : Option Nat :=
  if '0' ≤ c && c ≤ '9' then some (c.toNat - 0x30)
  else if 'a' ≤ c && c ≤ 'f' then some (c.toNat - 0x57)
  else if 'A' ≤ c && c ≤ 'F' then some (c.toNat - 0x37)
  else none

def readHex : Nat → Nat → Reader Nat
  | 0, n, s => some (n, s)
  | _ + 1, _, [] => none
  | k + 1, n, c :: s => (hexValue? c).bind fun d => readHex k (n * 16 + d) s

/-- The character that an escape stands for, its backslash apart. -/
def readEscape : Reader Char
  | 'b' :: s => some ('\x08', s)
  | 't' :: s => some ('\t', s)
  | 'n' :: s => some ('\n', s)
  | 'f' :: s => some ('\x0c', s)
  | 'r' :: s => some ('\r', s)
  | '"' :: s => some ('"', s)
  | '\\' :: s => some ('\\', s)
  | 'u' :: s => (readHex 4 0 s).bind scalarOf?
  | 'U' :: s => (readHex 8 0 s).bind scalarOf?
  | _ => none
where
  /-- The character of a code point that is one. -/
  scalarOf? (r : Nat × List Char) : Option (Char × List Char) :=
    if r.1.isValidChar then some (Char.ofNat r.1, r.2) else none

def readBasic : Nat → List Char → Reader String
  | 0, _, _ => none
  | _, _, [] => none
  | n + 1, back, c :: s =>
    if c = '"' then some (String.ofList back.reverse, s)
    else if c = '\\' then (readEscape s).bind fun r => readBasic n (r.1 :: back) r.2
    else if isAllowed c then readBasic n (c :: back) s
    else none

def readLiteral (back : List Char) : Reader String
  | [] => none
  | c :: s =>
    if c = '\'' then some (String.ofList back.reverse, s)
    else if isAllowed c then readLiteral (c :: back) s
    else none

/-- The text behind blanks and line ends, in at most `n` steps. -/
def skipLineEnds : Nat → List Char → List Char
  | 0, s => s
  | n + 1, s =>
    match afterLineEnd? (skipBlanks s) with
    | some r => skipLineEnds n r
    | none => skipBlanks s

/-- The text behind blanks and line ends, at least one of them a line end. -/
def afterContinuation? (s : List Char) : Option (List Char) :=
  (afterLineEnd? (skipBlanks s)).map fun r => skipLineEnds (r.length + 1) r

/-- The quotes that a multi-line string ends with: three, and up to two more that belong to it. -/
def closing? (q : Char) : List Char → Option (List Char × List Char)
  | a :: b :: c :: d :: e :: s =>
    if a = q && b = q && c = q then
      if d = q && e = q then some ([q, q], s)
      else if d = q then some ([q], e :: s)
      else some ([], d :: e :: s)
    else none
  | [a, b, c, d] =>
    if a = q && b = q && c = q then (if d = q then some ([q], []) else some ([], [d])) else none
  | [a, b, c] => if a = q && b = q && c = q then some ([], []) else none
  | _ => none

/-- Reads a multi-line string behind its quotes; `basic` says whether escapes count. -/
def readMultiline (basic : Bool) (q : Char) : Nat → List Char → Reader String
  | 0, _, _ => none
  | n + 1, back, s =>
    match closing? q s with
    | some (qs, r) => some (String.ofList (qs ++ back).reverse, r)
    | none =>
      match s with
      | [] => none
      | c :: r =>
        if c = '\\' && basic then
          match afterContinuation? r with
          | some t => readMultiline basic q n back t
          | none => (readEscape r).bind fun e => readMultiline basic q n (e.1 :: back) e.2
        else
          match afterLineEnd? (c :: r) with
          | some t => readMultiline basic q n ('\n' :: back) t
          | none => if isAllowed c then readMultiline basic q n (c :: back) r else none

/-- The text of a multi-line string without the line end right behind its quotes. -/
def dropFirstLineEnd (s : List Char) : List Char := (afterLineEnd? s).getD s

def readString : Reader String
  | '"' :: '"' :: '"' :: s => readMultiline true '"' (s.length + 1) [] (dropFirstLineEnd s)
  | '\'' :: '\'' :: '\'' :: s => readMultiline false '\'' (s.length + 1) [] (dropFirstLineEnd s)
  | '"' :: s => readBasic (s.length + 1) [] s
  | '\'' :: s => readLiteral [] s
  | _ => none

/-! ### Keys -/

/-- How deep values can lie in each other, and how many parts a key can have. -/
def maxDepth : Nat := 79

def isBare (c : Char) : Bool := c.isAlphanum || c = '_' || c = '-'

def readSimpleKey : Reader String
  | '"' :: s => readBasic (s.length + 1) [] s
  | '\'' :: s => readLiteral [] s
  | s =>
    let k := s.takeWhile isBare
    if k.isEmpty then none else some (String.ofList k, s.dropWhile isBare)

/-- Reads a key of at most `n` parts, with dots between them. -/
def readParts : Nat → Reader (List String)
  | 0, _ => none
  | n + 1, s => do
    let (k, r) ← readSimpleKey (skipBlanks s)
    match skipBlanks r with
    | '.' :: t => do
      let (ks, t) ← readParts n t
      some (k :: ks, t)
    | t => some ([k], t)

def readKey : Reader (List String) := readParts maxDepth

/-! ### Numbers, truth values, dates -/

/-- The digits of a number without the underscores between them, which need a digit on both
sides. -/
def digits? (isDigit : Char → Bool) : List Char → Option (List Char)
  | [] => none
  | [c] => if isDigit c then some [c] else none
  | c :: '_' :: s => if isDigit c then (digits? isDigit s).map (c :: ·) else none
  | c :: d :: s => if isDigit c then (digits? isDigit (d :: s)).map (c :: ·) else none

def numberOf (base : Nat) (ds : List Char) : Nat :=
  ds.foldl (fun n c => n * base + (hexValue? c).getD 0) 0

/-- A number without its sign, and whether it was negative. -/
def unsigned : List Char → Bool × List Char
  | '-' :: s => (true, s)
  | '+' :: s => (false, s)
  | s => (false, s)

def decimal? (s : List Char) : Option Nat :=
  (digits? Char.isDigit s).bind fun ds =>
    if ds.length > 1 && ds.head? = some '0' then none else some (numberOf 10 ds)

def integer? (w : List Char) : Option Int :=
  let inRange (n : Nat) : Option Int := if n < Nat.pow 2 63 then some n else none
  match w with
  | '0' :: 'x' :: s => (digits? (fun c => (hexValue? c).isSome) s).bind fun ds =>
      inRange (numberOf 16 ds)
  | '0' :: 'o' :: s => (digits? (fun c => '0' ≤ c && c ≤ '7') s).bind fun ds =>
      inRange (numberOf 8 ds)
  | '0' :: 'b' :: s => (digits? (fun c => c = '0' || c = '1') s).bind fun ds =>
      inRange (numberOf 2 ds)
  | w =>
    let (negative, s) := unsigned w
    (decimal? s).bind fun n =>
      if negative then (if n ≤ Nat.pow 2 63 then some (-(n : Int)) else none) else inRange n

/-- The number that an exponent is: `e`, a sign perhaps, and digits. -/
def exponent? : List Char → Option Int
  | c :: s =>
    if c = 'e' || c = 'E' then
      let (negative, s) := unsigned s
      (digits? Char.isDigit s).map fun ds =>
        if negative then -(numberOf 10 ds : Int) else numberOf 10 ds
    else none
  | [] => none

/-- The decimal `m · 10 ^ e` that a word without a sign is, as `m` and `e`: it has a fraction, an
exponent or both. -/
def fraction? (s : List Char) : Option (Nat × Int) := do
  let isPart (c : Char) : Bool := c.isDigit || c = '_'
  let whole ← decimal? (s.takeWhile isPart)
  match s.dropWhile isPart with
  | '.' :: r => do
    let part ← digits? Char.isDigit (r.takeWhile isPart)
    let rest := r.dropWhile isPart
    let e ← if rest.isEmpty then some 0 else exponent? rest
    some (whole * Nat.pow 10 part.length + numberOf 10 part, e - part.length)
  | r => (exponent? r).map fun e => (whole, e)

/-- Half-way between the largest number of 64 bits and the next that would follow it. -/
def floatLimit : Nat := Nat.pow 2 1024 - Nat.pow 2 970

/-- Whether no number of 64 bits is nearest to `m · 10 ^ e`, which is too large. -/
def isTooLarge (m : Nat) (e : Int) : Bool :=
  let size : Int := (Nat.toDigits 10 m).length + e
  if m = 0 || size < 300 then false
  else if 320 < size then true
  else if 0 ≤ e then floatLimit ≤ m * Nat.pow 10 e.toNat
  else floatLimit * Nat.pow 10 (-e).toNat ≤ m

/-- Whether a word is a number with a fraction or an exponent that is not too large, or an infinity
or no number at all by name.  Below zero no number is too large: it counts as infinite. -/
def isFloat (w : List Char) : Bool :=
  let (negative, s) := unsigned w
  if s = ['i', 'n', 'f'] || s = ['n', 'a', 'n'] then true
  else
    match fraction? s with
    | some (m, e) => negative || !isTooLarge m e
    | none => false

/-- A number of exactly `k` digits at the start of a text, and the rest. -/
def fixedNumber? (k : Nat) (s : List Char) : Option (Nat × List Char) :=
  let ds := s.take k
  if ds.length = k && ds.all Char.isDigit then some (numberOf 10 ds, s.drop k) else none

def afterTime? (s : List Char) : Option (List Char) := do
  let (h, s) ← fixedNumber? 2 s
  let s ← if s.head? = some ':' then some s.tail else none
  let (m, s) ← fixedNumber? 2 s
  let s ← if s.head? = some ':' then some s.tail else none
  let (sec, s) ← fixedNumber? 2 s
  if 23 < h || 59 < m || 60 < sec then none
  else
    match s with
    | '.' :: r =>
      if (r.takeWhile Char.isDigit).isEmpty then none else some (r.dropWhile Char.isDigit)
    | s => some s

def isOffset (s : List Char) : Bool :=
  match s with
  | [] => true
  | ['Z'] | ['z'] => true
  | c :: s =>
    (c = '+' || c = '-') &&
      match fixedNumber? 2 s with
      | some (h, ':' :: r) =>
        match fixedNumber? 2 r with
        | some (m, []) => h ≤ 23 && m ≤ 59
        | _ => false
      | _ => false

def monthLength (year month : Nat) : Nat :=
  if month = 2 then
    (if year % 4 = 0 && (year % 100 ≠ 0 || year % 400 = 0) then 29 else 28)
  else if month = 4 || month = 6 || month = 9 || month = 11 then 30 else 31

def afterDate? (s : List Char) : Option (List Char) := do
  let (y, s) ← fixedNumber? 4 s
  let s ← if s.head? = some '-' then some s.tail else none
  let (m, s) ← fixedNumber? 2 s
  let s ← if s.head? = some '-' then some s.tail else none
  let (d, s) ← fixedNumber? 2 s
  if m = 0 || 12 < m || d = 0 || monthLength y m < d then none else some s

def isDateTime (w : List Char) : Bool :=
  match afterDate? w with
  | some [] => true
  | some (c :: s) =>
    (c = 'T' || c = 't' || c = ' ') &&
      match afterTime? s with
      | some r => isOffset r
      | none => false
  | none => afterTime? w = some []

def scalar? (w : List Char) : Option Toml :=
  if w = ['t', 'r', 'u', 'e'] then some (.boolean true)
  else if w = ['f', 'a', 'l', 's', 'e'] then some (.boolean false)
  else
    match integer? w with
    | some n => some (.integer n)
    | none =>
      if isFloat w then some .float
      else if isDateTime w then some .dateTime
      else none

/-- Whether a character can be part of a number, truth value, date or time. -/
def isWordChar (c : Char) : Bool :=
  c.isAlphanum || c = '_' || c = '+' || c = '-' || c = '.' || c = ':'

/-- Reads a number, truth value, date or time; a date may have a blank before its time. -/
def readScalar (s : List Char) : Option (Toml × List Char) :=
  let w := s.takeWhile isWordChar
  let r := s.dropWhile isWordChar
  match afterDate? w, r with
  | some [], ' ' :: t =>
    let time := t.takeWhile isWordChar
    if (afterTime? time).isSome then
      (scalar? (w ++ ' ' :: time)).map fun v => (v, t.dropWhile isWordChar)
    else (scalar? w).map fun v => (v, r)
  | _, _ => (scalar? w).map fun v => (v, r)

/-! ### Arrays, inline tables, documents -/

mutual

/-- Reads a value that lies in `depth` others. -/
def readValue : Nat → Nat → Reader Toml
  | 0, _, _ => none
  | n + 1, depth, s =>
    match s with
    | '[' :: r => if maxDepth ≤ depth then none else readItems n (depth + 1) [] r
    | '{' :: r =>
      if maxDepth ≤ depth then none
      else
        match skipBlanks r with
        | '}' :: t => some (.table [], t)
        | t => readPairs n (depth + 1) [] t
    | '"' :: _ | '\'' :: _ => (readString s).map fun r => (.string r.1, r.2)
    | _ => readScalar s

/-- Reads the items of an array up to its bracket, those before given in reverse. -/
def readItems : Nat → Nat → List Toml → Reader Toml
  | 0, _, _, _ => none
  | n + 1, depth, back, s => do
    let s ← skipSpace (s.length + 1) s
    match s with
    | ']' :: r => some (.array back.reverse, r)
    | s => do
      let (v, r) ← readValue n depth s
      let r ← skipSpace (r.length + 1) r
      match r with
      | ',' :: t => readItems n depth (v :: back) t
      | ']' :: t => some (.array (v :: back).reverse, t)
      | _ => none

/-- Reads the assignments of an inline table up to its brace, those before given in reverse. -/
def readPairs : Nat → Nat → List (List String × Toml) → Reader Toml
  | 0, _, _, _ => none
  | n + 1, depth, back, s => do
    let (k, r) ← readKey s
    match r with
    | '=' :: r => do
      let (v, r) ← readValue n depth (skipBlanks r)
      match skipBlanks r with
      | ',' :: t => readPairs n depth ((k, v) :: back) t
      | '}' :: t => (ofAssignments? ((k, v) :: back).reverse).map fun v => (v, t)
      | _ => none
    | _ => none

end

/-- Reads a header or an assignment up to the end of its line. -/
def readStatement (s : List Char) : Option (Statement × List Char) :=
  match s with
  | '[' :: '[' :: r => do
    let (path, r) ← readKey r
    match r with
    | ']' :: ']' :: t => (endOfLine? t).map fun t => (.arrayHeader path, t)
    | _ => none
  | '[' :: r => do
    let (path, r) ← readKey r
    match r with
    | ']' :: t => (endOfLine? t).map fun t => (.header path, t)
    | _ => none
  | s => do
    let (path, r) ← readKey s
    match r with
    | '=' :: t => do
      let (v, t) ← readValue (2 * t.length + 2) 0 (skipBlanks t)
      (endOfLine? t).map fun t => (.assign path v, t)
    | _ => none

/-- The lines of a document, those before given in reverse. -/
def statementsFrom? : Nat → List Statement → List Char → Option (List Statement)
  | 0, _, _ => none
  | n + 1, back, s => do
    let s ← skipSpace (s.length + 1) s
    if s.isEmpty then some back.reverse
    else
      let (x, r) ← readStatement s
      statementsFrom? n (x :: back) r

def statements? (s : List Char) : Option (List Statement) :=
  let s := if s.head? = some '\uFEFF' then s.tail else s
  statementsFrom? (s.length + 1) [] s

def parse? (s : List Char) : Option Toml := (statements? s).bind ofStatements?

end RepoBrowser.Toml
