/-!
# Integers in commands

* `Integer.read` — the integer that a text starts with, in the notation of the base it shows;
* `Integer.clamp` — the nearest integer of 64 bits;
* `Integer.wrap` — an integer brought into the range of 64 bits;
* `Integer.text` — the digits of an integer.
-/

namespace RepoBrowser.Shell.Integer

/-- The value of a digit, letters standing for ten and more. -/
def digit? (c : Char) : Option Nat :=
  if c.isDigit then some (c.toNat - 0x30)
  else if 'a' ≤ c && c ≤ 'z' then some (c.toNat - 0x57)
  else if 'A' ≤ c && c ≤ 'Z' then some (c.toNat - 0x37)
  else none

def isDigitOf (base : Nat) (c : Char) : Bool :=
  match digit? c with
  | some d => d < base
  | none => false

def ofDigits (base : Nat) (ds : List Char) : Nat :=
  ds.foldl (fun n c => n * base + (digit? c).getD 0) 0

def isSpace (c : Char) : Bool := c = ' ' || (0x09 ≤ c.toNat && c.toNat ≤ 0x0D)

/-- The largest integer of 64 bits. -/
def greatest : Int := 9223372036854775807

/-- The least integer of 64 bits. -/
def least : Int := -9223372036854775808

/-- The integer nearest to another that has 64 bits. -/
def clamp (n : Int) : Int := max least (min greatest n)

/-- The integer that a text starts with.  White space and a sign can stand in front of it; with
`anyBase`, a leading `0x` or `0` tells a hexadecimal or octal number.  Where no digit stands, the
integer is 0 and the whole text is left. -/
def read (anyBase : Bool) (s : List Char) : Int × List Char :=
  let t := s.dropWhile isSpace
  let (negative, t) := match t with
    | '-' :: r => (true, r)
    | '+' :: r => (false, r)
    | r => (false, r)
  let (base, t) := match anyBase, t with
    | true, '0' :: x :: d :: r =>
      if (x = 'x' || x = 'X') && isDigitOf 16 d then (16, d :: r) else (8, '0' :: x :: d :: r)
    | true, '0' :: r => (8, '0' :: r)
    | _, r => (10, r)
  let ds := t.takeWhile (isDigitOf base)
  if ds.isEmpty then (0, s)
  else (if negative then -(ofDigits base ds : Int) else ofDigits base ds, t.drop ds.length)

/-- An integer brought into the range of 64 bits by leaving out its higher bits. -/
def wrap (n : Int) : Int := Int.bmod n 18446744073709551616

/-- The digits of an integer, with its sign. -/
def text (n : Int) : List Char :=
  if n < 0 then '-' :: Nat.toDigits 10 n.natAbs else Nat.toDigits 10 n.natAbs

end RepoBrowser.Shell.Integer
