/-!
# UTF-8: bytes of a text and text of bytes

* `encode` — the bytes of a text;
* `decode` — the characters of a byte sequence, with `none` for each part that is not UTF-8.  Such
  a part is as long as possible while it could still be the start of a character, and one byte
  otherwise;
* `decode?` — the text of a byte sequence that is UTF-8 throughout;
* `decodeLossy` — the text with U+FFFD for each part that is not UTF-8.

`first_length` bounds what one step of the reader leaves.
-/

namespace RepoBrowser.Text.Utf8

def encode (s : List Char) : List UInt8 := s.flatMap String.utf8EncodeChar

@[simp] theorem encode_nil : encode [] = [] := rfl

/-- Reads `k` continuation bytes, the first of them between `lo` and `hi`, onto the bits `n`. -/
def tails : Nat → UInt8 → UInt8 → Nat → List UInt8 → Option Char × List UInt8
  | 0, _, _, n, bs => (some (Char.ofNat n), bs)
  | _ + 1, _, _, _, [] => (none, [])
  | k + 1, lo, hi, n, b :: bs =>
    if lo ≤ b && b ≤ hi then tails k 0x80 0xBF (n * 64 + b.toNat % 64) bs else (none, b :: bs)

/-- The character that a first byte starts, and the bytes behind it. -/
def first (b : UInt8) (bs : List UInt8) : Option Char × List UInt8 :=
  if b < 0x80 then (some (Char.ofNat b.toNat), bs)
  else if b < 0xC2 then (none, bs)
  else if b < 0xE0 then tails 1 0x80 0xBF (b.toNat - 0xC0) bs
  else if b == 0xE0 then tails 2 0xA0 0xBF 0 bs
  else if b == 0xED then tails 2 0x80 0x9F 0x0D bs
  else if b < 0xF0 then tails 2 0x80 0xBF (b.toNat - 0xE0) bs
  else if b == 0xF0 then tails 3 0x90 0xBF 0 bs
  else if b < 0xF4 then tails 3 0x80 0xBF (b.toNat - 0xF0) bs
  else if b == 0xF4 then tails 3 0x80 0x8F 4 bs
  else (none, bs)

theorem tails_length (k : Nat) (lo hi : UInt8) (n : Nat) (bs : List UInt8) :
    (tails k lo hi n bs).2.length ≤ bs.length := by
  induction k generalizing lo hi n bs with
  | zero => simp [tails]
  | succ k ih =>
    cases bs with
    | nil => simp [tails]
    | cons b bs =>
      rw [tails]
      split
      · exact Nat.le_succ_of_le (ih ..)
      · simp

theorem first_length (b : UInt8) (bs : List UInt8) : (first b bs).2.length ≤ bs.length := by
  unfold first
  repeat' split
  all_goals first | exact Nat.le_refl _ | exact tails_length ..

/-- The characters of a byte sequence, `none` standing for a part that is not UTF-8. -/
def decode : List UInt8 → List (Option Char)
  | [] => []
  | b :: bs => (first b bs).1 :: decode (first b bs).2
termination_by bs => bs.length
decreasing_by exact Nat.lt_succ_of_le (first_length b bs)

/-- The text of a byte sequence that is UTF-8 throughout. -/
def decode? (bs : List UInt8) : Option (List Char) := (decode bs).mapM id

/-- The text of a byte sequence, with U+FFFD for each part that is not UTF-8. -/
def decodeLossy (bs : List UInt8) : List Char := (decode bs).map (·.getD '\uFFFD')

@[simp] theorem decode_nil : decode [] = [] := by simp [decode]

end RepoBrowser.Text.Utf8
