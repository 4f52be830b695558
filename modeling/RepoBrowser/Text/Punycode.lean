import RepoBrowser.Text.Lines

/-!
# Punycode

Texts of any characters written in letters, digits and hyphens: the ASCII characters first, then
where the others stand, as differences in digits of variable length.

* `adapt` — how the digits adapt to the differences seen so far;
* `encode` — the code of a text;
* `decode?` — the text that a code stands for.
-/

namespace RepoBrowser.Text.Punycode

/-- The bias of the next difference. -/
def adapt (delta points : Nat) (first : Bool) : Nat :=
  let d := if first then delta / 700 else delta / 2
  reduce 32 (d + d / points) 0
where
  /-- Divides until the difference is small, at most `n` times. -/
  reduce : Nat → Nat → Nat → Nat
    | 0, d, k => k + 36 * d / (d + 38)
    | n + 1, d, k => if 455 < d then reduce n (d / 35) (k + 36) else k + 36 * d / (d + 38)

/-- The least digit value that ends a number, at a place in it. -/
def threshold (bias k : Nat) : Nat := if k ≤ bias then 1 else if bias + 26 ≤ k then 26 else k - bias

/-! ### Writing -/

def digit (n : Nat) : Char := if n < 26 then Char.ofNat (0x61 + n) else Char.ofNat (0x16 + n)

/-- A number in at most `n` digits of variable length. -/
def writeNumber (bias : Nat) : Nat → Nat → Nat → List Char
  | 0, _, _ => []
  | n + 1, k, q =>
    let t := threshold bias k
    if q < t then [digit q]
    else digit (t + (q - t) % (36 - t)) :: writeNumber bias n (k + 36) ((q - t) / (36 - t))

/-- What is known while a text is written: the difference, the bias, how many characters are
written, and the code so far. -/
structure Writing where
  delta : Nat
  bias : Nat
  handled : Nat
  out : List Char

/-- Writes where code point `m` stands in a text, those below it being written; `basic` of them are
ASCII. -/
def writePass (m basic : Nat) (w : Writing) (text : List Char) : Writing :=
  text.foldl (fun w c =>
    if c.toNat < m then { w with delta := w.delta + 1 }
    else if c.toNat = m then
      { delta := 0, bias := adapt w.delta (w.handled + 1) (w.handled = basic),
        handled := w.handled + 1, out := w.out ++ writeNumber w.bias 32 36 w.delta }
    else w) w

/-- Writes where code points from `n` on stand in a text, the given ones in ascending order. -/
def writePasses (text : List Char) (basic : Nat) : Nat → Writing → List Nat → Writing
  | _, w, [] => w
  | n, w, m :: ms =>
    let w := { w with delta := w.delta + (m - n) * (w.handled + 1) }
    let w := writePass m basic w text
    writePasses text basic (m + 1) { w with delta := w.delta + 1 } ms

def isAscii (c : Char) : Bool := c.toNat < 0x80

def encode (text : List Char) : List Char :=
  let basic := text.filter isAscii
  let points := ((text.map Char.toNat).filter (0x80 ≤ ·)).mergeSort.eraseDups
  let start : Writing := ⟨0, 72, basic.length, if basic.isEmpty then [] else basic ++ ['-']⟩
  (writePasses text basic.length 0x80 start points).out

/-! ### Reading -/

def value? (c : Char) : Option Nat :=
  if 'a' ≤ c && c ≤ 'z' then some (c.toNat - 0x61)
  else if 'A' ≤ c && c ≤ 'Z' then some (c.toNat - 0x41)
  else if c.isDigit then some (c.toNat - 0x16)
  else none

/-- The number at the start of a code, and the code behind it.  The number so far is `q`, the next
digit counts `weight` times. -/
def readNumber? (bias : Nat) : Nat → Nat → Nat → List Char → Option (Nat × List Char)
  | _, _, _, [] => none
  | k, weight, q, c :: s => do
    let d ← value? c
    let q := q + d * weight
    let t := threshold bias k
    if d < t then some (q, s) else readNumber? bias (k + 36) (weight * (36 - t)) q s

/-- Puts the characters of a code into a text, in at most `n` steps.  The next character has a code
point from `m` on and stands behind place `i`. -/
def readFrom? : Nat → Nat → Nat → Nat → List Nat → List Char → Option (List Nat)
  | _, _, _, _, text, [] => some text
  | 0, _, _, _, _, _ => none
  | n + 1, m, i, bias, text, s => do
    let (q, s) ← readNumber? bias 36 1 0 s
    let length := text.length + 1
    let at_ := i + q
    let m := m + at_ / length
    let place := at_ % length
    if 0x110000 ≤ m || (0xD800 ≤ m && m < 0xE000) then none
    else
      readFrom? n m (place + 1) (adapt q length (i = 0))
        (text.take place ++ m :: text.drop place) s

/-- The text that a code stands for. -/
def decode? (code : List Char) : Option (List Char) :=
  let (basic, s) := (cutLast? '-' code).getD ([], code)
  if !(basic.all isAscii) || (basic.isEmpty && code.head? = some '-') then none
  else
    (readFrom? (s.length + 1) 0x80 0 72 (basic.map Char.toNat) s).map fun ns => ns.map Char.ofNat

end RepoBrowser.Text.Punycode
