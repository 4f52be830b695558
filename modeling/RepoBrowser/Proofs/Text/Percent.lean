import RepoBrowser.Proofs.Text.Utf8
import RepoBrowser.Text.Percent

/-!
# Percent encoding can be undone

* `decode_escape`, `decode_encodeByte` — a byte is read as it was written, escaped or not;
* `decode_encode`, `encode_injective` — so are the bytes of a text, and texts are told apart;
* `forall_mem_encode` — what is written are letters, digits and five marks.
-/

namespace RepoBrowser.Text.Percent

variable {n : Nat} {c : Char} {s t : List Char}

/-! ### Bytes -/

theorem hexValue?_hexDigit (small : n < 16) : hexValue? (hexDigit n) = some n := by
  have all : ∀ n < 16, hexValue? (hexDigit n) = some n := by decide
  exact all n small

theorem decode_escape (b : UInt8) (s : List Char) : decode (escape b ++ s) = b :: decode s := by
  have hb := b.toNat_lt
  have number : b.toNat / 16 * 16 + b.toNat % 16 = b.toNat := by omega
  show decode ('%' :: hexDigit (b.toNat / 16) :: hexDigit (b.toNat % 16) :: s) = _
  rw [decode, hexValue?_hexDigit (by omega), hexValue?_hexDigit (by omega)]
  simp only []
  rw [number, UInt8.ofNat_toNat]

/-- A character that is no escape stands for its own bytes. -/
theorem decode_cons (plain : c ≠ '%') (s : List Char) :
    decode (c :: s) = String.utf8EncodeChar c ++ decode s := by
  rw [decode]
  exact fun a b rest escaped => absurd escaped plain

/-- The bytes that stand for themselves are ASCII, and no escape starts with one. -/
theorem plain_of_isUnreserved {b : UInt8} (h : isUnreserved b = true) :
    b.toNat < 0x80 ∧ Char.ofNat b.toNat ≠ '%' := by
  have all : ∀ n < 256, isUnreserved (UInt8.ofNat n) = true → n < 0x80 ∧ Char.ofNat n ≠ '%' := by
    decide +kernel
  exact all b.toNat b.toNat_lt (UInt8.ofNat_toNat ▸ h)

theorem decode_encodeByte (b : UInt8) (s : List Char) :
    decode (encodeByte b ++ s) = b :: decode s := by
  unfold encodeByte
  split
  · next unreserved =>
    obtain ⟨ascii, plain⟩ := plain_of_isUnreserved unreserved
    rw [List.singleton_append, decode_cons plain, Utf8.encodeChar_ofNat ascii, UInt8.ofNat_toNat]
    rfl
  · exact decode_escape b s

/-! ### Texts -/

/-- **What is written is read as the bytes of the text.** -/
theorem decode_encode (s : List Char) : decode (encode s) = Utf8.encode s := by
  unfold encode
  induction Utf8.encode s with
  | nil => rfl
  | cons b bs ih => rw [List.flatMap_cons, decode_encodeByte, ih]

/-- The text itself can be found again. -/
theorem decode?_decode_encode (s : List Char) : Utf8.decode? (decode (encode s)) = some s := by
  rw [decode_encode, Utf8.decode?_encode]

theorem encode_injective (same : encode s = encode t) : s = t := by
  have found := decode?_decode_encode s
  rw [same, decode?_decode_encode] at found
  exact (Option.some.inj found).symm

theorem encode_eq_nil_iff : encode s = [] ↔ s = [] :=
  ⟨fun empty => encode_injective (empty.trans encode_nil.symm), fun empty => empty ▸ encode_nil⟩

/-- The marks that are written besides letters and digits. -/
def marks : List Char := ['-', '_', '.', '~', '%']

/-- **What is written are letters, digits and marks.** -/
theorem forall_mem_encode (s : List Char) : ∀ c ∈ encode s, c.isAlphanum = true ∨ c ∈ marks := by
  have all : ∀ n < 256, (encodeByte (UInt8.ofNat n)).all
      (fun c => c.isAlphanum || marks.contains c) = true := by decide +kernel
  intro c hc
  obtain ⟨b, -, hc⟩ := List.mem_flatMap.mp hc
  have written := all b.toNat b.toNat_lt
  rw [UInt8.ofNat_toNat, List.all_eq_true] at written
  simpa using written c hc

end RepoBrowser.Text.Percent
