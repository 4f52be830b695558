import RepoBrowser.Shell.Format

/-!
# The language of fields: its programs and their symbols

* `Expr`, `Stmt`, `Guard`, `Item` — expressions, statements, and what a program does on which lines;
* `Symbol` — a symbol of a program's text;
* `Symbol.readAll?` — the symbols of a text; a slash starts an expression for matching where no
  value has just ended.
-/

namespace RepoBrowser.Shell.Tool.Awk

/-! ### Programs -/

inductive Expr where
  | number (q : Rat)
  | text (t : List Char)
  | regex (r : List Char)
  | name (x : List Char)
  | field (e : Expr)
  | item (array : List Char) (keys : List Expr)
  | assign (target : Expr) (op : Option Char) (e : Expr)
  | step (target : Expr) (isBefore isUp : Bool)
  | unary (op : Char) (e : Expr)
  | binary (op : Char) (a b : Expr)
  | compare (op : String) (a b : Expr)
  | join (a b : Expr)
  | isMatch (negated : Bool) (a b : Expr)
  | isKey (keys : List Expr) (array : List Char)
  | both (a b : Expr)
  | either (a b : Expr)
  | choice (c a b : Expr)
  | call (function : List Char) (args : List Expr)
  | group (es : List Expr)

/-- Where printed text goes: on, or to the end or into a file. -/
inductive Sink where
  | on
  | file (appends : Bool) (name : Expr)

inductive Stmt where
  | block (body : List Stmt)
  | expression (e : Expr)
  | print (args : List Expr) (sink : Sink)
  | printf (args : List Expr) (sink : Sink)
  | branch (c : Expr) (a : Stmt) (b : Option Stmt)
  | whileDo (c : Expr) (body : Stmt)
  | doWhile (body : Stmt) (c : Expr)
  | loop (start : Option Stmt) (c : Option Expr) (next : Option Stmt) (body : Stmt)
  | each (x array : List Char) (body : Stmt)
  | delete (array : List Char) (keys : Option (List Expr))
  | break_ | continue_ | next
  | exit (code : Option Expr)

/-- The lines that something is done on, or whether it is done before all or after all of them. -/
inductive Guard where
  | begin_ | end_ | always
  | when (e : Expr)
  | between (a b : Expr)

/-- What is done on which lines; without a body the line is printed. -/
structure Item where
  guard : Guard
  body : Option Stmt

/-! ### Symbols -/

/-- A symbol of a program's text.  `call` is a name with a parenthesis right behind it. -/
inductive Symbol where
  | number (q : Rat)
  | text (t : List Char)
  | regex (r : List Char)
  | name (x : List Char)
  | call (x : List Char)
  | sign (s : String)
  | newline
  deriving DecidableEq

namespace Symbol

/-- Whether a value has ended behind a symbol, so that a slash divides. -/
def endsValue : Symbol → Bool
  | .number _ | .text _ | .name _ => true
  | .sign s => s = ")" || s = "]" || s = "++" || s = "--"
  | _ => false

/-- The signs, longer ones first. -/
def signs : List String :=
  ["&&", "||", "==", "!=", "<=", ">=", "++", "--", "+=", "-=", "*=", "/=", "%=", "^=", "!~", ">>",
    "\x7b", "\x7d", "(", ")", "[", "]", ";", ",", "+", "-", "*", "/", "%", "^", "!", ">", "<",
    "|", "?", ":", "~", "$", "="]

/-- The text up to a quotation mark, escapes read. -/
def readQuoted? : Nat → List Char → Option (List Char × List Char)
  | 0, _ => none
  | _, [] => none
  | n + 1, c :: s =>
    if c = '"' then some ([], s)
    else if c = '\n' then none
    else if c = '\\' then
      match s with
      | '"' :: r => (readQuoted? n r).map fun (t, r) => ('"' :: t, r)
      | '/' :: r => (readQuoted? n r).map fun (t, r) => ('/' :: t, r)
      | '\n' :: r => readQuoted? n r
      | r =>
        let (b, rest) := escape r
        (readQuoted? n rest).map fun (t, r) => (b :: t, r)
    else (readQuoted? n s).map fun (t, r) => (c :: t, r)

/-- The text of an expression for matching, up to a slash. -/
def readRegex? : List Char → Option (List Char × List Char)
  | [] => none
  | '\\' :: '/' :: s => (readRegex? s).map fun (t, r) => ('/' :: t, r)
  | '\\' :: c :: s => (readRegex? s).map fun (t, r) => ('\\' :: c :: t, r)
  | c :: s =>
    if c = '/' then some ([], s)
    else if c = '\n' then none
    else (readRegex? s).map fun (t, r) => (c :: t, r)

/-- The decimal number that a text starts with, and the text behind it. -/
def decimal (s : List Char) : Rat × List Char :=
  let (negative, n, d, rest) := Printing.readDecimal s
  (if negative then -(mkRat n d) else mkRat n d, rest)

/-- The symbols of a text, in at most `n` steps; `valued` tells whether a value has just ended. -/
def readFrom? : Nat → Bool → List Char → Option (List Symbol)
  | 0, _, _ => none
  | _, _, [] => some []
  | n + 1, valued, c :: s =>
    let push (y : Symbol) (r : List Char) : Option (List Symbol) :=
      (readFrom? n y.endsValue r).map (y :: ·)
    if c = '\n' then push .newline s
    else if Integer.isSpace c then readFrom? n valued s
    else if c = '\\' && s.head? = some '\n' then readFrom? n valued s.tail
    else if c = '#' then readFrom? n valued (s.dropWhile (· ≠ '\n'))
    else if c = '"' then (readQuoted? (s.length + 1) s).bind fun (t, r) => push (.text t) r
    else if c = '/' && !valued then (readRegex? s).bind fun (t, r) => push (.regex t) r
    else if c.isDigit || (c = '.' && s.head?.any Char.isDigit) then
      let (q, r) := decimal (c :: s)
      push (.number q) r
    else if c.isAlpha || c = '_' then
      let x := (c :: s).takeWhile fun d => d.isAlphanum || d = '_'
      let r := (c :: s).drop x.length
      if r.head? = some '(' then push (.call x) r else push (.name x) r
    else
      match signs.find? fun g => (c :: s).take g.length = g.toList with
      | some g => push (.sign g) ((c :: s).drop g.length)
      | none => none

def readAll? (s : List Char) : Option (List Symbol) := readFrom? (s.length + 1) false s

end Symbol

end RepoBrowser.Shell.Tool.Awk
