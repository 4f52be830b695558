import RepoBrowser.Number.Rounding
import RepoBrowser.Shell.Integer
import RepoBrowser.Text.Lines

/-!
# Printing with escapes and formats

* `escape`, `unescape` — an escape behind its backslash, and a text with its escapes read;
* `echo` — arguments with blanks between them;
* `Directive` — a place in a format for an argument;
* `printf` — arguments printed by a format, which is used again until it has taken all of them.
-/

namespace RepoBrowser.Shell

open Text

/-! ### Escapes -/

def letterEscape? (c : Char) : Option Char :=
  match c with
  | 'a' => some '\x07'
  | 'b' => some '\x08'
  | 'e' => some '\x1b'
  | 'f' => some '\x0c'
  | 'n' => some '\n'
  | 'r' => some '\r'
  | 't' => some '\t'
  | 'v' => some '\x0b'
  | '\\' => some '\\'
  | _ => none

/-- What an escape stands for behind its backslash, and the text behind it: a letter's byte, or the
byte of up to three octal digits.  A backslash in front of anything else stands for itself. -/
def escape (s : List Char) : Char × List Char :=
  match s with
  | [] => ('\\', [])
  | c :: r =>
    match letterEscape? c with
    | some b => (b, r)
    | none =>
      let ds := (s.take 3).takeWhile (Integer.isDigitOf 8)
      if ds.isEmpty then ('\\', s)
      else (Char.ofNat (Integer.ofDigits 8 ds % 256), s.drop ds.length)

/-- A text with its escapes read, in at most `n` steps, and whether an escape `\c` ended it.  Octal
digits stand behind a zero. -/
def unescapeFrom : Nat → List Char → List Char × Bool
  | 0, _ => ([], false)
  | _, [] => ([], false)
  | n + 1, c :: s =>
    if c ≠ '\\' then
      let (t, ended) := unescapeFrom n s
      (c :: t, ended)
    else if s.head? = some 'c' then ([], true)
    else
      let s := match s with
        | '0' :: d :: r => if Integer.isDigitOf 8 d then d :: r else s
        | _ => s
      let (b, r) := escape s
      let (t, ended) := unescapeFrom n r
      (b :: t, ended)

/-- A text with its escapes read, and whether an escape `\c` ended it. -/
def unescape (s : List Char) : List Char × Bool := unescapeFrom (s.length + 1) s

/-- Arguments with blanks between them and a line end behind them, if one is wanted; the escape
`\c` ends all. -/
def echoBody (lineEnd : List Char) : List (List Char) → List Char
  | [] => lineEnd
  | [a] =>
    let (t, ended) := unescape a
    if ended then t else t ++ lineEnd
  | a :: as =>
    let (t, ended) := unescape a
    if ended then t else t ++ ' ' :: echoBody lineEnd as

/-- What `echo` prints for its arguments: a first argument `-n` asks for no line end. -/
def echo : List (List Char) → List Char
  | ['-', 'n'] :: as => echoBody [] as
  | as => echoBody ['\n'] as

/-! ### Formats -/

/-- A place in a format for an argument: how it is padded and cut, and what kind of argument it
is for. -/
structure Directive where
  left : Bool := false
  plus : Bool := false
  space : Bool := false
  zero : Bool := false
  alternate : Bool := false
  width : Nat := 0
  precision : Option Nat := none
  kind : Char := 's'

namespace Directive

def pad (d : Directive) (s : List Char) : List Char :=
  let fill := List.replicate (d.width - s.length) ' '
  if d.left then s ++ fill else fill ++ s

def printText (d : Directive) (s : List Char) : List Char :=
  d.pad (match d.precision with
    | some k => s.take k
    | none => s)

def sign (d : Directive) (negative : Bool) : List Char :=
  if negative then ['-'] else if d.plus then ['+'] else if d.space then [' '] else []

/-- A number padded, with zeros behind its sign if they are asked for. -/
def padNumber (d : Directive) (zeros : Bool) (front digits : List Char) : List Char :=
  if zeros && d.zero && !d.left then
    front ++ List.replicate (d.width - front.length - digits.length) '0' ++ digits
  else d.pad (front ++ digits)

/-- Digits with zeros in front up to the precision; zero has no digits at precision zero. -/
def withPrecision (d : Directive) (n : Nat) (digits : List Char) : List Char :=
  match d.precision with
  | some 0 => if n = 0 then [] else digits
  | some k => List.replicate (k - digits.length) '0' ++ digits
  | none => digits

def printSigned (d : Directive) (n : Int) : List Char :=
  d.padNumber d.precision.isNone (d.sign (n < 0))
    (d.withPrecision n.natAbs (Nat.toDigits 10 n.natAbs))

/-- A number without a sign, in the base of the kind. -/
def printUnsigned (d : Directive) (n : Nat) : List Char :=
  let digits := match d.kind with
    | 'o' => Nat.toDigits 8 n
    | 'x' => Nat.toDigits 16 n
    | 'X' => (Nat.toDigits 16 n).map Char.toUpper
    | _ => Nat.toDigits 10 n
  let digits := d.withPrecision n digits
  let digits :=
    if d.alternate && d.kind = 'o' && digits.head? ≠ some '0' then '0' :: digits else digits
  let front := if d.alternate && n ≠ 0 && (d.kind = 'x' || d.kind = 'X') then ['0', d.kind] else []
  d.padNumber d.precision.isNone front digits

/-- Decimal digits without zeros at the end, and without a point behind which nothing is left. -/
def trimZeros (s : List Char) : List Char :=
  if s.contains '.' then
    match s.reverse.dropWhile (· = '0') with
    | '.' :: r => r.reverse
    | r => r.reverse
  else s

/-- The exponent of `n / d`, the power of ten just below it, in at most `k` steps. -/
def exponent : Nat → Nat → Nat → Int
  | 0, _, _ => 0
  | k + 1, n, d =>
    if n < d then exponent k (n * 10) d - 1
    else if 10 * d ≤ n then exponent k n (d * 10) + 1
    else 0

/-- The nearest number of `places + 1` digits to `n / d`, and its exponent. -/
def scaled (places n d : Nat) : Nat × Int :=
  if n = 0 then (0, 0)
  else
    let e := exponent 700 n d
    let k : Int := places - e
    let m := Number.roundDiv (n * Nat.pow 10 k.toNat) (d * Nat.pow 10 (-k).toNat)
    if Nat.pow 10 (places + 1) ≤ m then (m / 10, e + 1) else (m, e)

def scientific (trims : Bool) (places n d : Nat) : List Char :=
  let (m, e) := scaled places n d
  let digits := Nat.toDigits 10 m
  let digits := digits ++ List.replicate (places + 1 - digits.length) '0'
  let mantissa := match digits with
    | c :: r => if r.isEmpty then [c] else c :: '.' :: r
    | [] => []
  let power := Nat.toDigits 10 e.natAbs
  (if trims then trimZeros mantissa else mantissa) ++ 'e' :: (if e < 0 then '-' else '+')
    :: (List.replicate (2 - power.length) '0' ++ power)

/-- A fraction `n / 2 ^ k` as the kind asks for. -/
def printFraction (d : Directive) (negative : Bool) (x : Number.Binary) : List Char :=
  let places := d.precision.getD 6
  let q := Nat.pow 2 x.shift
  let digits := match d.kind.toLower with
    | 'e' => scientific false places x.num q
    | 'g' =>
      let places := max places 1
      let e := (scaled (places - 1) x.num q).2
      if e < -4 || places ≤ e then scientific (!d.alternate) (places - 1) x.num q
      else
        let s := x.fixed (places - 1 - e).toNat
        if d.alternate then s else trimZeros s
    | _ => x.fixed places
  let digits := if d.kind.isUpper then digits.map Char.toUpper else digits
  d.padNumber true (d.sign negative) digits

end Directive

/-! ### Arguments -/

/-- What has been printed, the arguments that are left, whether all of them were well formed,
whether something ended the output, and whether the format is wrong. -/
structure Printing where
  out : List Char := []
  arguments : List (List Char)
  fine : Bool := true
  ended : Bool := false
  wrong : Bool := false

namespace Printing

def add (p : Printing) (s : List Char) : Printing := { p with out := p.out ++ s }

/-- The next argument, empty if there is none. -/
def next (p : Printing) : List Char × Printing :=
  (p.arguments.headD [], { p with arguments := p.arguments.tail })

/-- The next argument as an integer between two bounds: a number, or a quote and the character that
is meant. -/
def nextInteger (lo hi : Int) (p : Printing) : Int × Printing :=
  let (s, p) := p.next
  match s with
  | [] => (0, p)
  | c :: r =>
    if c = '"' || c = '\'' then (((r.headD '\x00').toNat : Int), p)
    else
      let (n, rest) := Integer.read true s
      let cut := max lo (min hi n)
      (cut, if rest.isEmpty && cut = n then p else { p with fine := false })

/-- The decimal number that a text starts with, as a sign and `n / d`, and the text behind it. -/
def readDecimal (s : List Char) : Bool × Nat × Nat × List Char :=
  let t := s.dropWhile Integer.isSpace
  let (negative, t) := match t with
    | '-' :: r => (true, r)
    | '+' :: r => (false, r)
    | r => (false, r)
  let whole := t.takeWhile Char.isDigit
  let t := t.drop whole.length
  let (part, t) := match t with
    | '.' :: r => (r.takeWhile Char.isDigit, r.dropWhile Char.isDigit)
    | r => ([], r)
  if whole.isEmpty && part.isEmpty then (false, 0, 1, s)
  else
    let (e, t) := match t with
      | c :: r =>
        if (c = 'e' || c = 'E') && ((Integer.read false r).2.length < r.length)
            && !(Integer.isSpace (r.headD ' ')) then
          Integer.read false r
        else (0, t)
      | [] => (0, t)
    let e := max (-400) (min 400 e)
    (negative, Integer.ofDigits 10 (whole ++ part) * Nat.pow 10 e.toNat,
      Nat.pow 10 (part.length + (-e).toNat), t)

def direct (d : Directive) (p : Printing) : Printing :=
  match d.kind with
  | 's' =>
    let (s, p) := p.next
    p.add (d.printText s)
  | 'c' =>
    let (s, p) := p.next
    p.add (d.pad [s.headD '\x00'])
  | 'b' =>
    let (s, p) := p.next
    let (t, ended) := unescape s
    { p.add (d.printText t) with ended }
  | 'd' | 'i' =>
    let (n, p) := p.nextInteger Integer.least Integer.greatest
    p.add (d.printSigned n)
  | 'o' | 'u' | 'x' | 'X' =>
    let (n, p) := p.nextInteger (-18446744073709551615) 18446744073709551615
    p.add (d.printUnsigned (n % 18446744073709551616).toNat)
  | _ =>
    let (s, p) := p.next
    let (negative, n, q, rest) := readDecimal s
    let p := p.add (d.printFraction negative (Number.Binary.ofRatio n q))
    if rest.isEmpty then p else { p with fine := false }

def kinds : List Char := "sbcdiouxXeEfFgG".toList

/-- A number in a format, or the next argument for a star; the text behind it. -/
def readCount (p : Printing) : List Char → Option Int × Printing × List Char
  | '*' :: r =>
    let (n, p) := p.nextInteger Integer.least Integer.greatest
    (some n, p, r)
  | s =>
    let ds := s.takeWhile Char.isDigit
    (if ds.isEmpty then none else some (Integer.ofDigits 10 ds), p, s.drop ds.length)

/-- Prints by a directive behind its percent sign; the text behind it. -/
def readDirective (p : Printing) (s : List Char) : Printing × List Char :=
  let flags := s.takeWhile fun c => "#-+ 0".toList.contains c
  let (width, p, s) := readCount p (s.drop flags.length)
  let (precision, p, s) := match s with
    | '.' :: r =>
      let (k, p, r) := readCount p r
      (some (k.getD 0), p, r)
    | r => (none, p, r)
  match s with
  | c :: r =>
    if kinds.contains c then
      let w := width.getD 0
      let d : Directive :=
        { left := flags.contains '-' || w < 0
          plus := flags.contains '+'
          space := flags.contains ' '
          zero := flags.contains '0'
          alternate := flags.contains '#'
          width := w.natAbs
          precision := precision.bind fun k => if k < 0 then none else some k.toNat
          kind := c }
      (p.direct d, r)
    else ({ p with wrong := true }, [])
  | [] => ({ p with wrong := true }, [])

/-- One pass over a format, in at most `n` steps. -/
def pass : Nat → Printing → List Char → Printing
  | 0, p, _ => p
  | _, p, [] => p
  | n + 1, p, c :: s =>
    if p.ended || p.wrong then p
    else if c = '\\' then
      let (b, r) := escape s
      pass n (p.add [b]) r
    else if c = '%' then
      match s with
      | '%' :: r => pass n (p.add ['%']) r
      | _ =>
        let (p, r) := p.readDirective s
        pass n p r
    else pass n (p.add [c]) s

/-- Passes over a format until all arguments are taken, at most `n` times. -/
def passes (format : List Char) : Nat → Printing → Printing
  | 0, p => p
  | n + 1, p =>
    let q := pass (format.length + 1) p format
    if q.arguments.isEmpty || q.arguments.length = p.arguments.length || q.ended || q.wrong then q
    else passes format n q

end Printing

/-- What `printf` prints, and the code it ends with. -/
def printf (args : List (List Char)) : List Char × Nat :=
  match args with
  | ['-', '-'] :: f :: as => run f as
  | f :: as => if f.head? = some '-' && f.length ≠ 1 then ([], 2) else run f as
  | [] => ([], 2)
where
  /-- The same for a format and the arguments behind it. -/
  run (f : List Char) (as : List (List Char)) : List Char × Nat :=
    let p := Printing.passes f (as.length + 1) { arguments := as }
    (p.out, if p.wrong then 2 else if p.fine then 0 else 1)

end RepoBrowser.Shell
