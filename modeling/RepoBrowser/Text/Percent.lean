import RepoBrowser.Text.Utf8

/-!
# Percent encoding of URL parts

* `isUnreserved` — the characters that stand for themselves: letters, digits and `-_.~`;
* `encode` — a text with every other byte of its UTF-8 form written `%XX`;
* `decode` — the bytes that a percent-encoded text stands for.
-/

namespace RepoBrowser.Text.Percent

/-- The bytes that stand for themselves: ASCII letters, digits, `-`, `_`, `.` and `~`. -/
def isUnreserved (b : UInt8) : Bool :=
  (0x30 ≤ b && b ≤ 0x39) || (0x41 ≤ b && b ≤ 0x5A) || (0x61 ≤ b && b ≤ 0x7A)
    || b == 0x2D || b == 0x2E || b == 0x5F || b == 0x7E

def hexDigit (n : Nat) : Char :=
  if n < 10 then Char.ofNat (0x30 + n) else Char.ofNat (0x37 + n)

/-- The value of a hexadecimal digit of either case. -/
def hexValue? (c : Char) : Option Nat :=
  if '0' ≤ c && c ≤ '9' then some (c.toNat - 0x30)
  else if 'A' ≤ c && c ≤ 'F' then some (c.toNat - 0x37)
  else if 'a' ≤ c && c ≤ 'f' then some (c.toNat - 0x57)
  else none

def escape (b : UInt8) : List Char := ['%', hexDigit (b.toNat / 16), hexDigit (b.toNat % 16)]

def encodeByte (b : UInt8) : List Char :=
  if isUnreserved b then [Char.ofNat b.toNat] else escape b

/-- A text with every byte that does not stand for itself written `%XX`. -/
def encode (s : List Char) : List Char := (Utf8.encode s).flatMap encodeByte

/-- The bytes that a percent-encoded text stands for; a `%` without two hexadecimal digits behind
it stands for itself. -/
def decode : List Char → List UInt8
  | [] => []
  | '%' :: a :: b :: s =>
    match hexValue? a, hexValue? b with
    | some x, some y => UInt8.ofNat (x * 16 + y) :: decode s
    | _, _ => 0x25 :: decode (a :: b :: s)
  | c :: s => String.utf8EncodeChar c ++ decode s

@[simp] theorem encode_nil : encode [] = [] := rfl

end RepoBrowser.Text.Percent
