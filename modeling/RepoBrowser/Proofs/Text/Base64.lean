import RepoBrowser.Proofs.Text.Utf8
import RepoBrowser.Text.Base64
import RepoBrowser.Text.Blank

/-!
# Reading Base64 undoes writing it

Bytes are written three at a time as four symbols, and the last one or two of them as two or three
symbols with padding.  The reader takes the last quad apart from the others.

* `value?_symbol`, `values_symbols` — symbols are read as the values that they stand for;
* `decodeLast_two`, `decodeLast_three`, `decodeLast_four` — the last quad, by its symbols;
* `decode_encode` — what was written is read as the bytes;
* `text`, `encode_text` — what bytes are written as, in characters;
* `Spaced`, `Spaced.filter_eq` — a text that is broken by blanks, and what is left without them.
-/

namespace RepoBrowser.Text.Base64

variable {n k offset a b c d : Nat} {ns : List Nat} {bs : List UInt8}

/-! ### Symbols -/

theorem value?_symbol (small : n < 64) : value? (symbol n) = some n := by
  have all : ∀ n < 64, value? (symbol n) = some n := by decide
  exact all n small

theorem symbol_ne_pad (small : n < 64) : (symbol n != pad) = true := by
  have all : ∀ n < 64, (symbol n != pad) = true := by decide
  exact all n small

theorem values_symbols (small : ∀ n ∈ ns, n < 64) (offset : Nat) :
    values offset (ns.map symbol) = .ok ns := by
  induction ns generalizing offset with
  | nil => rfl
  | cons n ns ih =>
    rw [List.map_cons, values, value?_symbol (small n List.mem_cons_self)]
    simp only []
    rw [ih fun m hm => small m (List.mem_cons_of_mem n hm)]
    rfl

/-! ### The last quad -/

/-- Symbols and padding are told apart. -/
theorem decodeSuffix_symbols (small : ∀ n ∈ ns, n < 64) (enough : k = 0 ∨ 2 ≤ ns.length)
    (offset : Nat) :
    decodeSuffix offset (ns.map symbol ++ List.replicate k pad)
      = decodeLast offset (ns.map symbol) k := by
  have own : ∀ b ∈ ns.map symbol, (b != pad) = true := by
    intro b hb
    obtain ⟨n, hn, rfl⟩ := List.mem_map.mp hb
    exact symbol_ne_pad (small n hn)
  have front : (ns.map symbol ++ List.replicate k pad).takeWhile (· != pad) = ns.map symbol := by
    rw [List.takeWhile_append_of_pos own]
    cases k <;> simp [List.replicate_succ]
  have rest : (ns.map symbol ++ List.replicate k pad).dropWhile (· != pad)
      = List.replicate k pad := by
    rw [List.dropWhile_append_of_pos own]
    cases k <;> simp [List.replicate_succ]
  unfold decodeSuffix
  simp only [front, rest, values_symbols small]
  cases k with
  | zero => rfl
  | succ k =>
    have two : ¬ (ns.map symbol).length < 2 := by
      rw [List.length_map]
      exact Nat.not_lt.mpr (enough.resolve_left (Nat.succ_ne_zero k))
    rw [if_neg (by simp [List.replicate_succ]), if_neg two, if_pos (by simp),
      List.length_replicate]

theorem decodeLast_two (small : ∀ n ∈ [a, b], n < 64) (clean : b % 16 = 0) (offset : Nat) :
    decodeLast offset ([a, b].map symbol) 2 = .ok [UInt8.ofNat (a * 4 + b / 16)] := by
  unfold decodeLast
  rw [values_symbols small]
  simp [bind, Except.bind, clean]

theorem decodeLast_three (small : ∀ n ∈ [a, b, c], n < 64) (clean : c % 4 = 0) (offset : Nat) :
    decodeLast offset ([a, b, c].map symbol) 1
      = .ok [UInt8.ofNat (a * 4 + b / 16), UInt8.ofNat (b % 16 * 16 + c / 4)] := by
  unfold decodeLast
  rw [values_symbols small]
  simp [bind, Except.bind, clean]

theorem decodeLast_four (small : ∀ n ∈ [a, b, c, d], n < 64) (offset : Nat) :
    decodeLast offset ([a, b, c, d].map symbol) 0 = .ok (bytesOfQuad a b c d) := by
  unfold decodeLast
  rw [values_symbols small]
  rfl

/-! ### All quads -/

/-- A quad that is followed by another one. -/
theorem decodeQuads_symbols (small : ∀ n ∈ [a, b, c, d], n < 64) {rest : List UInt8}
    (more : rest ≠ []) (offset : Nat) :
    decodeQuads offset ([a, b, c, d].map symbol ++ rest)
      = (decodeQuads (offset + 4) rest).map (bytesOfQuad a b c d ++ ·) := by
  obtain ⟨e, r, rfl⟩ := List.exists_cons_of_ne_nil more
  have read : values offset [symbol a, symbol b, symbol c, symbol d] = .ok [a, b, c, d] :=
    values_symbols small offset
  show decodeQuads offset (symbol a :: symbol b :: symbol c :: symbol d :: e :: r) = _
  rw [decodeQuads, read]

/-- Three bytes are the bytes of the quad that they are written as. -/
theorem bytesOfQuad_eq (x y z : UInt8) (whole : n = (x.toNat * 256 + y.toNat) * 256 + z.toNat) :
    bytesOfQuad (n / 262144) (n / 4096 % 64) (n / 64 % 64) (n % 64) = [x, y, z] := by
  have hx := x.toNat_lt
  have hy := y.toNat_lt
  have hz := z.toNat_lt
  have first : n / 262144 * 4 + n / 4096 % 64 / 16 = x.toNat := by omega
  have second : n / 4096 % 64 % 16 * 16 + n / 64 % 64 / 4 = y.toNat := by omega
  have third : n / 64 % 64 % 4 * 64 + n % 64 = z.toNat := by omega
  rw [bytesOfQuad, first, second, third]
  simp only [UInt8.ofNat_toNat]

theorem decodeQuads_encode (bs : List UInt8) (offset : Nat) :
    decodeQuads offset (encode bs) = .ok bs := by
  fun_induction encode bs generalizing offset with
  | case1 => rfl
  | case2 x n =>
    have hx := x.toNat_lt
    have small : ∀ m ∈ [n / 64, n % 64], m < 64 := by simp; omega
    have number : n / 64 * 4 + n % 64 / 16 = x.toNat := by omega
    show decodeSuffix offset ([n / 64, n % 64].map symbol ++ List.replicate 2 pad) = _
    rw [decodeSuffix_symbols small (.inr (Nat.le_refl 2)), decodeLast_two small (by omega), number,
      UInt8.ofNat_toNat]
  | case3 x y n =>
    have hx := x.toNat_lt
    have hy := y.toNat_lt
    have small : ∀ m ∈ [n / 4096, n / 64 % 64, n % 64], m < 64 := by simp; omega
    have first : n / 4096 * 4 + n / 64 % 64 / 16 = x.toNat := by omega
    have second : n / 64 % 64 % 16 * 16 + n % 64 / 4 = y.toNat := by omega
    show decodeSuffix offset ([n / 4096, n / 64 % 64, n % 64].map symbol
      ++ List.replicate 1 pad) = _
    rw [decodeSuffix_symbols small (.inr (Nat.le_succ 2)), decodeLast_three small (by omega), first,
      second, UInt8.ofNat_toNat, UInt8.ofNat_toNat]
  | case4 x y z r n ih =>
    have hx := x.toNat_lt
    have hy := y.toNat_lt
    have hz := z.toNat_lt
    have small : ∀ m ∈ [n / 262144, n / 4096 % 64, n / 64 % 64, n % 64], m < 64 := by
      simp; omega
    have bytes := bytesOfQuad_eq x y z (n := n) rfl
    show decodeQuads offset ([n / 262144, n / 4096 % 64, n / 64 % 64, n % 64].map symbol
      ++ encode r) = _
    by_cases last : encode r = []
    · -- a full quad at the end is read as the last one
      have empty : r = [] := by
        have read := ih 0
        rw [last] at read
        exact (Except.ok.inj read).symm
      subst empty
      show decodeSuffix offset ([n / 262144, n / 4096 % 64, n / 64 % 64, n % 64].map symbol
        ++ List.replicate 0 pad) = _
      rw [decodeSuffix_symbols small (.inl rfl), decodeLast_four small, bytes]
    · rw [decodeQuads_symbols small last, ih, bytes]
      rfl

/-- No symbol is missing or left over. -/
theorem length_encode_mod (bs : List UInt8) : (encode bs).length % 4 = 0 := by
  fun_induction encode bs with
  | case1 => rfl
  | case2 | case3 => simp only [List.length_cons, List.length_nil]
  | case4 x y z r n ih =>
    simp only [List.length_cons]
    omega

/-- **Reading what was written gives the bytes.** -/
theorem decode_encode (bs : List UInt8) : decode (encode bs) = .ok bs := by
  unfold decode
  rw [if_neg (by simp [length_encode_mod]), decodeQuads_encode]

/-! ### Symbols as characters -/

/-- What is written is symbols and padding. -/
theorem forall_mem_encode {P : UInt8 → Prop} (symbols : ∀ n < 64, P (symbol n)) (padding : P pad)
    (bs : List UInt8) : ∀ b ∈ encode bs, P b := by
  fun_induction encode bs with
  | case1 => exact fun b hb => absurd hb List.not_mem_nil
  | case2 x n =>
    have hx := x.toNat_lt
    simp only [List.forall_mem_cons]
    exact ⟨symbols _ (by omega), symbols _ (by omega), padding, padding,
      fun b hb => absurd hb List.not_mem_nil⟩
  | case3 x y n =>
    have hx := x.toNat_lt
    have hy := y.toNat_lt
    simp only [List.forall_mem_cons]
    exact ⟨symbols _ (by omega), symbols _ (by omega), symbols _ (by omega), padding,
      fun b hb => absurd hb List.not_mem_nil⟩
  | case4 x y z r n ih =>
    have hx := x.toNat_lt
    have hy := y.toNat_lt
    have hz := z.toNat_lt
    simp only [List.forall_mem_cons]
    exact ⟨symbols _ (by omega), symbols _ (by omega), symbols _ (by omega), symbols _ (by omega),
      ih⟩

/-- What bytes are written as, in characters. -/
def text (bs : List UInt8) : List Char := (encode bs).map fun b => Char.ofNat b.toNat

theorem encode_text (bs : List UInt8) : Utf8.encode (text bs) = encode bs :=
  Utf8.encode_ascii (forall_mem_encode (by decide) (by decide) bs)

theorem isBlank_of_mem_text {c : Char} (hc : c ∈ text bs) : isBlank c = false := by
  obtain ⟨b, hb, rfl⟩ := List.mem_map.mp hc
  have graphic : ∀ b ∈ encode bs, isBlank (Char.ofNat b.toNat) = false :=
    forall_mem_encode (by decide) (by decide) bs
  exact graphic b hb

/-! ### Texts broken into lines -/

/-- The second text is the first one with blanks put in at any place. -/
inductive Spaced : List Char → List Char → Prop
  | nil : Spaced [] []
  | char (c : Char) {s t : List Char} (more : Spaced s t) : Spaced (c :: s) (c :: t)
  | blank {c : Char} (white : isBlank c = true) {s t : List Char} (more : Spaced s t) :
      Spaced s (c :: t)

/-- Without its blanks, such a text is what it was. -/
theorem Spaced.filter_eq {s t : List Char} (spaced : Spaced s t)
    (graphic : ∀ c ∈ s, isBlank c = false) : t.filter (!isBlank ·) = s := by
  induction spaced with
  | nil => rfl
  | char c more ih =>
    have kept := graphic c List.mem_cons_self
    rw [List.filter_cons_of_pos (by simp [kept]),
      ih fun d hd => graphic d (List.mem_cons_of_mem c hd)]
  | blank white more ih => rw [List.filter_cons_of_neg (by simp [white]), ih graphic]

end RepoBrowser.Text.Base64
