/-!
# Base64 with the standard alphabet and canonical padding

* `encode` — bytes written three at a time as four symbols, padded with `=`;
* `decode` — the bytes that a text of symbols stands for, or the first thing wrong with it, as a
  `Base64.Error` naming the byte and its offset;
* `Error.message` — the wording of each error.

A text is read in quads.  A symbol outside the alphabet in any quad but the last is reported
first; the last, possibly short, quad may hold padding behind two or three symbols, and the bits
that its last symbol has to spare must be zero.
-/

namespace RepoBrowser.Text.Base64

/-- The symbol of a six-bit value. -/
def symbol (n : Nat) : UInt8 :=
  if n < 26 then UInt8.ofNat (0x41 + n)
  else if n < 52 then UInt8.ofNat (0x61 + (n - 26))
  else if n < 62 then UInt8.ofNat (0x30 + (n - 52))
  else if n = 62 then 0x2B else 0x2F

def value? (b : UInt8) : Option Nat :=
  if 0x41 ≤ b && b ≤ 0x5A then some (b.toNat - 0x41)
  else if 0x61 ≤ b && b ≤ 0x7A then some (b.toNat - 0x61 + 26)
  else if 0x30 ≤ b && b ≤ 0x39 then some (b.toNat - 0x30 + 52)
  else if b == 0x2B then some 62
  else if b == 0x2F then some 63
  else none

def pad : UInt8 := 0x3D

/-- Bytes as symbols, with padding to a multiple of four. -/
def encode : List UInt8 → List UInt8
  | [] => []
  | [a] =>
    let n := a.toNat * 16
    [symbol (n / 64), symbol (n % 64), pad, pad]
  | [a, b] =>
    let n := (a.toNat * 256 + b.toNat) * 4
    [symbol (n / 4096), symbol (n / 64 % 64), symbol (n % 64), pad]
  | a :: b :: c :: r =>
    let n := (a.toNat * 256 + b.toNat) * 256 + c.toNat
    symbol (n / 262144) :: symbol (n / 4096 % 64) :: symbol (n / 64 % 64) :: symbol (n % 64)
      :: encode r

/-- What can be wrong with a text of symbols. -/
inductive Error where
  /-- A byte that no symbol may stand for at its place. -/
  | invalidSymbol (byte : UInt8) (offset : Nat)
  /-- A last quad of a single symbol; `length` symbols were read. -/
  | invalidLength (length : Nat)
  /-- A last symbol whose spare bits are not zero. -/
  | invalidLastSymbol (byte : UInt8) (offset : Nat)
  /-- A last quad that is not filled up with padding. -/
  | invalidPadding
  deriving DecidableEq, Repr

def Error.message : Error → String
  | .invalidSymbol b o => "Invalid symbol " ++ toString b.toNat ++ ", offset " ++ toString o ++ "."
  | .invalidLength n => "Invalid input length: " ++ toString n
  | .invalidLastSymbol b o =>
    "Invalid last symbol " ++ toString b.toNat ++ ", offset " ++ toString o ++ "."
  | .invalidPadding => "Invalid padding"

/-- The values of symbols, of which the first stands at `offset`. -/
def values (offset : Nat) : List UInt8 → Except Error (List Nat)
  | [] => .ok []
  | b :: bs =>
    match value? b with
    | none => .error (.invalidSymbol b offset)
    | some v => (values (offset + 1) bs).map (v :: ·)

def bytesOfQuad (a b c d : Nat) : List UInt8 :=
  [UInt8.ofNat (a * 4 + b / 16), UInt8.ofNat (b % 16 * 16 + c / 4), UInt8.ofNat (c % 4 * 64 + d)]

/-- The bytes of the last quad, its symbols at `offset` and its padding apart. -/
def decodeLast (offset : Nat) (symbols : List UInt8) (padding : Nat) : Except Error (List UInt8) :=
  do
    let vs ← values offset symbols
    match vs with
    | [a, b] =>
      if padding ≠ 2 then .error .invalidPadding
      else if b % 16 ≠ 0 then .error (.invalidLastSymbol (symbols.getLastD 0) (offset + 1))
      else .ok [UInt8.ofNat (a * 4 + b / 16)]
    | [a, b, c] =>
      if padding ≠ 1 then .error .invalidPadding
      else if c % 4 ≠ 0 then .error (.invalidLastSymbol (symbols.getLastD 0) (offset + 2))
      else .ok [UInt8.ofNat (a * 4 + b / 16), UInt8.ofNat (b % 16 * 16 + c / 4)]
    | [a, b, c, d] => .ok (bytesOfQuad a b c d)
    | _ => .error (.invalidLength (offset + vs.length))

/-- Reads the last quad, which starts at `offset`: padding may only follow two or three symbols,
and nothing may follow padding. -/
def decodeSuffix (offset : Nat) (quad : List UInt8) : Except Error (List UInt8) :=
  let symbols := quad.takeWhile (· != pad)
  let rest := quad.dropWhile (· != pad)
  match values offset symbols with
  | .error e => .error e
  | .ok _ =>
    if rest.isEmpty then decodeLast offset symbols 0
    else if symbols.length < 2 then .error (.invalidSymbol pad (offset + symbols.length))
    else if rest.all (· == pad) then decodeLast offset symbols rest.length
    else .error (.invalidSymbol pad (offset + symbols.length))

/-- Reads quads from `offset` on; the last one, full or not, goes to `decodeSuffix`. -/
def decodeQuads (offset : Nat) : List UInt8 → Except Error (List UInt8)
  | a :: b :: c :: d :: e :: r =>
    match values offset [a, b, c, d] with
    | .error err => .error err
    | .ok [w, x, y, z] => (decodeQuads (offset + 4) (e :: r)).map (bytesOfQuad w x y z ++ ·)
    | .ok _ => .error .invalidPadding
  | [] => .ok []
  | quad => decodeSuffix offset quad

/-- The bytes that a text of symbols stands for.  A byte outside the alphabet that alone makes the
text too long is reported before all else. -/
def decode (bs : List UInt8) : Except Error (List UInt8) :=
  let last := bs.getLastD 0
  if bs.length % 4 = 1 && last != pad && (value? last).isNone then
    .error (.invalidSymbol last (bs.length - 1))
  else decodeQuads 0 bs

end RepoBrowser.Text.Base64
