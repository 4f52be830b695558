import RepoBrowser.Text.Utf8

/-!
# Reading UTF-8 undoes writing it

* `first_ofNat`, `tails_trail` — a first byte and the bytes behind it, told by their numbers;
* `first_encodeChar` — the bytes of a character are read as that character;
* `decode_encode`, `decode?_encode`, `decodeLossy_encode` — so are the bytes of a text;
* `encode_ascii` — bytes below 128 are the bytes of as many characters;
* `zero_mem_encode_iff` — they hold a zero byte exactly if the text holds the character of that
  number.
-/

namespace RepoBrowser.Text.Utf8

variable {n v : Nat} {c : Char} {bs : List UInt8}

/-! ### Bytes by their numbers -/

theorem toNat_ofNat (low : n < 256) : (UInt8.ofNat n).toNat = n :=
  UInt8.toNat_ofNat_of_lt low

theorem ofNat_lt_iff {m : Nat} (hn : n < 256) (hm : m < 256) :
    UInt8.ofNat n < UInt8.ofNat m ↔ n < m := by
  rw [UInt8.lt_iff_toNat_lt, toNat_ofNat hn, toNat_ofNat hm]

theorem ofNat_beq {m : Nat} (hn : n < 256) (hm : m < 256) :
    (UInt8.ofNat n == UInt8.ofNat m) = decide (n = m) := by
  refine decide_eq_decide.mpr ⟨fun same => ?_, fun same => same ▸ rfl⟩
  rw [← toNat_ofNat hn, ← toNat_ofNat hm, same]

/-- What a first byte starts, by its number. -/
theorem first_ofNat (low : n < 256) (bs : List UInt8) :
    first (UInt8.ofNat n) bs =
      if n < 0x80 then (some (Char.ofNat n), bs)
      else if n < 0xC2 then (none, bs)
      else if n < 0xE0 then tails 1 0x80 0xBF (n - 0xC0) bs
      else if n = 0xE0 then tails 2 0xA0 0xBF 0 bs
      else if n = 0xED then tails 2 0x80 0x9F 0x0D bs
      else if n < 0xF0 then tails 2 0x80 0xBF (n - 0xE0) bs
      else if n = 0xF0 then tails 3 0x90 0xBF 0 bs
      else if n < 0xF4 then tails 3 0x80 0xBF (n - 0xF0) bs
      else if n = 0xF4 then tails 3 0x80 0x8F 4 bs
      else (none, bs) := by
  have below : ∀ m, m < 256 → (UInt8.ofNat n < UInt8.ofNat m ↔ n < m) := fun m => ofNat_lt_iff low
  have same : ∀ m, m < 256 → (UInt8.ofNat n == UInt8.ofNat m) = decide (n = m) :=
    fun m => ofNat_beq low
  show (if UInt8.ofNat n < UInt8.ofNat 0x80 then _ else if UInt8.ofNat n < UInt8.ofNat 0xC2 then _
    else if UInt8.ofNat n < UInt8.ofNat 0xE0 then _ else if UInt8.ofNat n == UInt8.ofNat 0xE0 then _
    else if UInt8.ofNat n == UInt8.ofNat 0xED then _ else if UInt8.ofNat n < UInt8.ofNat 0xF0 then _
    else if UInt8.ofNat n == UInt8.ofNat 0xF0 then _ else if UInt8.ofNat n < UInt8.ofNat 0xF4 then _
    else if UInt8.ofNat n == UInt8.ofNat 0xF4 then _ else _) = _
  simp only [below, same, toNat_ofNat low, decide_eq_true_eq, Nat.reduceLT]

/-- A byte that carries six bits, in the range that is allowed for it. -/
theorem tails_trail {lo hi : UInt8} (above : lo.toNat ≤ v % 64 + 128)
    (below : v % 64 + 128 ≤ hi.toNat) (k n : Nat) (bs : List UInt8) :
    tails (k + 1) lo hi n (UInt8.ofNat (v % 64 + 128) :: bs)
      = tails k 0x80 0xBF (n * 64 + v % 64) bs := by
  have byte : (UInt8.ofNat (v % 64 + 128)).toNat = v % 64 + 128 := toNat_ofNat (by omega)
  have bits : (v % 64 + 128) % 64 = v % 64 := by omega
  have allowed : (decide (lo ≤ UInt8.ofNat (v % 64 + 128))
      && decide (UInt8.ofNat (v % 64 + 128) ≤ hi)) = true := by
    simp only [UInt8.le_iff_toNat_le, byte, above, below, decide_true, Bool.and_self]
  rw [tails, if_pos allowed, byte, bits]

/-- A byte that carries six bits, where nothing else is asked of it. -/
theorem tails_succ (k n v : Nat) (bs : List UInt8) :
    tails (k + 1) 0x80 0xBF n (UInt8.ofNat (v % 64 + 128) :: bs)
      = tails k 0x80 0xBF (n * 64 + v % 64) bs := by
  have above : (0x80 : UInt8).toNat ≤ v % 64 + 128 := by simp
  have below : v % 64 + 128 ≤ (0xBF : UInt8).toNat := by simp; omega
  exact tails_trail above below k n bs

theorem tails_zero (lo hi : UInt8) (n : Nat) (bs : List UInt8) :
    tails 0 lo hi n bs = (some (Char.ofNat n), bs) := rfl

/-! ### Characters of one to four bytes -/

theorem first_one (high : v < 0x80) (bs : List UInt8) :
    first (UInt8.ofNat v) bs = (some (Char.ofNat v), bs) := by
  rw [first_ofNat (by omega), if_pos high]

theorem first_two (low : 0x80 ≤ v) (high : v < 0x800) (bs : List UInt8) :
    first (UInt8.ofNat (v / 64 % 32 + 192)) (UInt8.ofNat (v % 64 + 128) :: bs)
      = (some (Char.ofNat v), bs) := by
  have number : (v / 64 % 32 + 192 - 0xC0) * 64 + v % 64 = v := by omega
  rw [first_ofNat (by omega), if_neg (by omega), if_neg (by omega), if_pos (by omega), tails_succ,
    tails_zero, number]

theorem first_three (low : 0x800 ≤ v) (high : v < 0x10000) (whole : v < 0xD800 ∨ 0xDFFF < v)
    (bs : List UInt8) :
    first (UInt8.ofNat (v / 4096 % 16 + 224))
        (UInt8.ofNat (v / 64 % 64 + 128) :: UInt8.ofNat (v % 64 + 128) :: bs)
      = (some (Char.ofNat v), bs) := by
  rw [first_ofNat (by omega), if_neg (by omega), if_neg (by omega), if_neg (by omega)]
  split
  · -- the shortest form leaves fewer second bytes
    have number : (0 * 64 + v / 64 % 64) * 64 + v % 64 = v := by omega
    have above : (0xA0 : UInt8).toNat ≤ v / 64 % 64 + 128 := by simp; omega
    have below : v / 64 % 64 + 128 ≤ (0xBF : UInt8).toNat := by simp; omega
    rw [tails_trail above below, tails_succ, tails_zero, number]
  split
  · -- no halves of pairs
    have number : (0x0D * 64 + v / 64 % 64) * 64 + v % 64 = v := by omega
    have above : (0x80 : UInt8).toNat ≤ v / 64 % 64 + 128 := by simp
    have below : v / 64 % 64 + 128 ≤ (0x9F : UInt8).toNat := by simp; omega
    rw [tails_trail above below, tails_succ, tails_zero, number]
  · have number : ((v / 4096 % 16 + 224 - 0xE0) * 64 + v / 64 % 64) * 64 + v % 64 = v := by omega
    rw [if_pos (by omega), tails_succ, tails_succ, tails_zero, number]

theorem first_four (low : 0x10000 ≤ v) (high : v < 0x110000) (bs : List UInt8) :
    first (UInt8.ofNat (v / 262144 % 8 + 240))
        (UInt8.ofNat (v / 4096 % 64 + 128) :: UInt8.ofNat (v / 64 % 64 + 128)
          :: UInt8.ofNat (v % 64 + 128) :: bs)
      = (some (Char.ofNat v), bs) := by
  rw [first_ofNat (by omega), if_neg (by omega), if_neg (by omega), if_neg (by omega),
    if_neg (by omega), if_neg (by omega), if_neg (by omega)]
  split
  · have number : ((0 * 64 + v / 4096 % 64) * 64 + v / 64 % 64) * 64 + v % 64 = v := by omega
    have above : (0x90 : UInt8).toNat ≤ v / 4096 % 64 + 128 := by simp; omega
    have below : v / 4096 % 64 + 128 ≤ (0xBF : UInt8).toNat := by simp; omega
    rw [tails_trail above below, tails_succ, tails_succ, tails_zero, number]
  split
  · have number : (((v / 262144 % 8 + 240 - 0xF0) * 64 + v / 4096 % 64) * 64 + v / 64 % 64) * 64
        + v % 64 = v := by omega
    rw [tails_succ, tails_succ, tails_succ, tails_zero, number]
  · have number : ((4 * 64 + v / 4096 % 64) * 64 + v / 64 % 64) * 64 + v % 64 = v := by omega
    have above : (0x80 : UInt8).toNat ≤ v / 4096 % 64 + 128 := by simp
    have below : v / 4096 % 64 + 128 ≤ (0x8F : UInt8).toNat := by simp; omega
    rw [if_pos (by omega), tails_trail above below, tails_succ, tails_succ, tails_zero, number]

/-- **The bytes of a character are read as that character.** -/
theorem first_encodeChar (c : Char) (bs : List UInt8) :
    ∃ b rest, String.utf8EncodeChar c = b :: rest ∧ first b (rest ++ bs) = (some c, bs) := by
  -- no character has the number of half a pair, or one that is too large
  have range : c.val.toNat < 0xD800 ∨ 0xDFFF < c.val.toNat ∧ c.val.toNat < 0x110000 := c.valid
  have same : Char.ofNat c.val.toNat = c := Char.ofNat_toNat c
  unfold String.utf8EncodeChar
  generalize c.val.toNat = v at range same
  subst same
  dsimp only
  split
  · exact ⟨_, _, rfl, first_one (by omega) bs⟩
  split
  · exact ⟨_, _, rfl, first_two (by omega) (by omega) bs⟩
  split
  · exact ⟨_, _, rfl, first_three (by omega) (by omega) (by omega) bs⟩
  · exact ⟨_, _, rfl, first_four (by omega) (by omega) bs⟩

/-! ### Texts -/

theorem encode_cons (c : Char) (s : List Char) :
    encode (c :: s) = String.utf8EncodeChar c ++ encode s := rfl

/-- **Reading the bytes of a text gives its characters.** -/
theorem decode_encode (s : List Char) : decode (encode s) = s.map some := by
  induction s with
  | nil => exact decode_nil
  | cons c s ih =>
    obtain ⟨b, rest, bytes, read⟩ := first_encodeChar c (encode s)
    rw [encode_cons, bytes, List.cons_append, decode, read, ih, List.map_cons]

theorem decode?_encode (s : List Char) : decode? (encode s) = some s := by
  unfold decode?
  rw [decode_encode]
  induction s with
  | nil => rfl
  | cons c s ih => rw [List.map_cons, List.mapM_cons, ih]; rfl

theorem decodeLossy_encode (s : List Char) : decodeLossy (encode s) = s := by
  unfold decodeLossy
  rw [decode_encode, List.map_map]
  exact List.map_id s

/-- A character of one byte. -/
theorem encodeChar_ofNat (low : n < 0x80) :
    String.utf8EncodeChar (Char.ofNat n) = [UInt8.ofNat n] := by
  have all : ∀ n < 0x80, String.utf8EncodeChar (Char.ofNat n) = [UInt8.ofNat n] := by decide
  exact all n low

/-- Bytes that stand for one character each are the bytes of these characters. -/
theorem encode_ascii (ascii : ∀ b ∈ bs, b.toNat < 0x80) :
    encode (bs.map fun b => Char.ofNat b.toNat) = bs := by
  induction bs with
  | nil => rfl
  | cons b bs ih =>
    rw [List.map_cons, encode_cons, encodeChar_ofNat (ascii b List.mem_cons_self),
      ih fun a ha => ascii a (List.mem_cons_of_mem b ha), UInt8.ofNat_toNat]
    rfl

theorem zero_eq_ofNat_iff (low : n < 256) : 0 = UInt8.ofNat n ↔ n = 0 := by
  constructor
  · intro zero
    rw [← toNat_ofNat low, ← zero]
    rfl
  · rintro rfl
    rfl

theorem zero_mem_encodeChar_iff (c : Char) : 0 ∈ String.utf8EncodeChar c ↔ c = '\x00' := by
  have number : c = '\x00' ↔ c.val.toNat = 0 := by
    rw [← Char.toNat_inj]
    rfl
  have high : c.val.toNat < 0x110000 := by
    have range : c.val.toNat < 0xD800 ∨ 0xDFFF < c.val.toNat ∧ c.val.toNat < 0x110000 := c.valid
    omega
  unfold String.utf8EncodeChar
  rw [number]
  generalize c.val.toNat = v at high
  dsimp only
  split
  · rw [List.mem_singleton, zero_eq_ofNat_iff (by omega)]
  split
  · simp only [List.mem_cons, List.not_mem_nil, or_false]
    rw [zero_eq_ofNat_iff (by omega), zero_eq_ofNat_iff (by omega)]
    omega
  split
  · simp only [List.mem_cons, List.not_mem_nil, or_false]
    rw [zero_eq_ofNat_iff (by omega), zero_eq_ofNat_iff (by omega), zero_eq_ofNat_iff (by omega)]
    omega
  · simp only [List.mem_cons, List.not_mem_nil, or_false]
    rw [zero_eq_ofNat_iff (by omega), zero_eq_ofNat_iff (by omega), zero_eq_ofNat_iff (by omega),
      zero_eq_ofNat_iff (by omega)]
    omega

/-- A zero byte stands for the character of that number only. -/
theorem zero_mem_encode_iff (s : List Char) : 0 ∈ encode s ↔ '\x00' ∈ s := by
  unfold encode
  rw [List.mem_flatMap]
  constructor
  · rintro ⟨c, hc, zero⟩
    rwa [(zero_mem_encodeChar_iff c).mp zero] at hc
  · exact fun hc => ⟨_, hc, (zero_mem_encodeChar_iff _).mpr rfl⟩

end RepoBrowser.Text.Utf8
