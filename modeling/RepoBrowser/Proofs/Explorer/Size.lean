import Mathlib.Data.Bool.AllAny
import RepoBrowser.Explorer.Draw
import RepoBrowser.Proofs.Text.SingleWidth

/-!
# The sizes of files as they are told

A size is told in bytes, or in the largest unit of 1024, 1024² or 1024³ bytes that it reaches, with
one place.  The number is taken from a binary fraction with 53 significant bits, which is exact for
sizes of less than 2⁵³ bytes.

* `roundDiv_cases`, `roundDiv_lt_iff` — what rounding makes of a fraction;
* `Binary.ofNat_of_lt`, `Binary.le_num_ofNat` — exact numbers, and what is known of the others;
* `Binary.tenths_lt_iff`, `fixed_one_length_le_iff` — the digits of a number with one place;
* `sizeUnit`, `sizeText_cases` — the unit of a size, and its text;
* `sizeText_length_le_iff` — the sizes that nine columns hold.
-/

namespace RepoBrowser

open Text

/-! ### Numbers -/

namespace Number

variable {n d k : Nat}

theorem two_pow_pos (k : Nat) : 0 < Nat.pow 2 k := Nat.two_pow_pos k

theorem roundDiv_one (n : Nat) : roundDiv n 1 = n := by
  have whole := roundDiv_mul n Nat.one_pos
  rwa [Nat.mul_one] at whole

/-- Rounding takes the quotient or the next number; which one the rest tells, and in the middle
whether the quotient is even. -/
theorem roundDiv_cases (n d : Nat) :
    roundDiv n d = n / d ∧ (2 * (n % d) < d ∨ 2 * (n % d) = d ∧ n / d % 2 = 0) ∨
    roundDiv n d = n / d + 1 ∧ (d < 2 * (n % d) ∨ 2 * (n % d) = d ∧ n / d % 2 = 1) := by
  unfold roundDiv
  dsimp only
  split
  · omega
  · split
    · omega
    · split <;> omega

theorem le_roundDiv (n d : Nat) : n / d ≤ roundDiv n d := by
  rcases roundDiv_cases n d with ⟨rounded, -⟩ | ⟨rounded, -⟩ <;> omega

/-- A whole number of at most 53 bits is kept. -/
theorem Binary.ofNat_of_lt (h : n < Nat.pow 2 53) : ∃ s, Binary.ofNat n = ⟨n * Nat.pow 2 s, s⟩ := by
  unfold Binary.ofNat Binary.ofRatio
  split
  · rename_i zero
    exact ⟨0, by rw [zero]⟩
  · rename_i some
    have short : n.log2 ≤ Nat.log2 1 + 52 := Nat.le_of_lt_succ ((Nat.log2_lt some).mpr h)
    rw [if_pos short]
    dsimp only
    rw [roundDiv_one]
    exact ⟨_, rfl⟩

/-- A greater one is not rounded below them. -/
theorem Binary.le_num_ofNat (h : Nat.pow 2 53 ≤ n) :
    Nat.pow 2 53 ≤ (Binary.ofNat n).num ∧ (Binary.ofNat n).shift = 0 := by
  have some : n ≠ 0 := by
    intro zero
    rw [zero] at h
    exact absurd h (by decide)
  have long : 53 ≤ n.log2 := (Nat.le_log2 some).mpr h
  obtain ⟨k, bits⟩ := Nat.exists_eq_add_of_le long
  have top : Nat.pow 2 52 * 1 * Nat.pow 2 (k + 1) ≤ n := by
    have low := Nat.log2_self_le some
    rw [bits, show 53 + k = 52 + (k + 1) by omega, Nat.pow_add] at low
    exact low
  have shift : n.log2 - (Nat.log2 1 + 52) = k + 1 := by
    rw [bits]
    exact Nat.sub_eq_of_eq_add (by show 53 + k = k + 1 + 52; omega)
  have quotient : Nat.pow 2 52 ≤ roundDiv n (1 * Nat.pow 2 (k + 1)) := by
    rw [Nat.mul_one] at top
    rw [Nat.one_mul]
    exact Nat.le_trans ((Nat.le_div_iff_mul_le (two_pow_pos _)).mpr top) (le_roundDiv n _)
  unfold Binary.ofNat Binary.ofRatio
  rw [if_neg some, if_neg (show ¬ n.log2 ≤ Nat.log2 1 + 52 by show ¬ n.log2 ≤ 52; omega), shift]
  dsimp only
  rw [if_neg (Nat.not_lt.mpr top)]
  refine ⟨?_, rfl⟩
  calc Nat.pow 2 53 = Nat.pow 2 52 * Nat.pow 2 1 := rfl
    _ ≤ Nat.pow 2 52 * Nat.pow 2 (k + 1) :=
      Nat.mul_le_mul_left _ (Nat.pow_le_pow_right (by decide) (Nat.le_add_left 1 k))
    _ ≤ roundDiv n (1 * Nat.pow 2 (k + 1)) * Nat.pow 2 (k + 1) := Nat.mul_le_mul_right _ quotient

/-- Four digits are told from nine thousand nine hundred and ninety-nine and a half on. -/
theorem roundDiv_lt_iff (n : Nat) (hd : 0 < d) : roundDiv n d < 10000 ↔ 2 * n < 19999 * d := by
  have division := Nat.div_add_mod n d
  have rest := Nat.mod_lt n hd
  have rounded := roundDiv_cases n d
  rcases Nat.lt_trichotomy (n / d) 9999 with low | middle | high
  · have bound : d * (n / d) ≤ d * 9998 := Nat.mul_le_mul_left d (by omega)
    omega
  · rw [middle] at division rounded
    omega
  · have bound : d * 10000 ≤ d * (n / d) := Nat.mul_le_mul_left d high
    omega

/-- A whole number is compared exactly with powers of two. -/
theorem Binary.num_ofNat_lt_iff (hk : k ≤ 53) :
    (Binary.ofNat n).num < Nat.pow 2 (k + (Binary.ofNat n).shift) ↔ n < Nat.pow 2 k := by
  rcases Nat.lt_or_ge n (Nat.pow 2 53) with short | long
  · obtain ⟨s, number⟩ := Binary.ofNat_of_lt short
    have expanded : Nat.pow 2 (k + s) = Nat.pow 2 k * Nat.pow 2 s := Nat.pow_add 2 k s
    rw [number]
    dsimp only
    rw [expanded]
    exact Nat.mul_lt_mul_right (two_pow_pos s)
  · obtain ⟨num, shift⟩ := Binary.le_num_ofNat long
    have bound : Nat.pow 2 k ≤ Nat.pow 2 53 := Nat.pow_le_pow_right (by decide) hk
    rw [shift]
    exact iff_of_false (Nat.not_lt.mpr (Nat.le_trans bound num))
      (Nat.not_lt.mpr (Nat.le_trans bound long))

/-- How many digits the tenths of a whole number have in a unit. -/
theorem Binary.tenths_lt_iff (hk : k ≤ 30) :
    roundDiv ((Binary.ofNat n).num * 10) (Nat.pow 2 ((Binary.ofNat n).shift + k)) < 10000
      ↔ 20 * n < 19999 * Nat.pow 2 k := by
  rw [roundDiv_lt_iff _ (two_pow_pos _)]
  rcases Nat.lt_or_ge n (Nat.pow 2 53) with short | long
  · obtain ⟨s, number⟩ := Binary.ofNat_of_lt short
    have expanded : Nat.pow 2 (s + k) = Nat.pow 2 k * Nat.pow 2 s :=
      (Nat.pow_add 2 s k).trans (Nat.mul_comm _ _)
    have reduced : 2 * (n * Nat.pow 2 s * 10) = 20 * n * Nat.pow 2 s := by
      rw [Nat.mul_comm (n * _), Nat.mul_assoc 20, ← Nat.mul_assoc 2]
    rw [number]
    dsimp only
    rw [expanded, reduced, ← Nat.mul_assoc]
    exact Nat.mul_lt_mul_right (two_pow_pos s)
  · obtain ⟨num, shift⟩ := Binary.le_num_ofNat long
    have bound : Nat.pow 2 k ≤ Nat.pow 2 30 := Nat.pow_le_pow_right (by decide) hk
    have numbers : 19999 * Nat.pow 2 30 ≤ 20 * Nat.pow 2 53 := by decide
    rw [shift, Nat.zero_add]
    exact iff_of_false (by omega) (by omega)

/-- A number with one place: its digits in front of the point, the point, and a digit behind it. -/
theorem fixed_one (n d : Nat) :
    fixed 1 n d = Nat.toDigits 10 (roundDiv (n * 10) d / 10)
      ++ ['.', (roundDiv (n * 10) d % 10).digitChar] := by
  have last : Nat.toDigits 10 (roundDiv (n * 10) d % 10)
      = [(roundDiv (n * 10) d % 10).digitChar] :=
    Nat.toDigits_of_lt_base (Nat.mod_lt _ (by decide))
  show Nat.toDigits 10 (roundDiv (n * 10) d / 10) ++ '.' ::
    (List.replicate (1 - (Nat.toDigits 10 (roundDiv (n * 10) d % 10)).length) '0'
      ++ Nat.toDigits 10 (roundDiv (n * 10) d % 10)) = _
  rw [last]
  rfl

theorem fixed_one_length_le_iff (n d : Nat) :
    (fixed 1 n d).length ≤ 5 ↔ roundDiv (n * 10) d < 10000 := by
  have digits : (Nat.toDigits 10 (roundDiv (n * 10) d / 10)).length ≤ 3
      ↔ roundDiv (n * 10) d / 10 < 1000 := Nat.length_toDigits_le_iff (by decide) (by decide)
  have length : (fixed 1 n d).length
      = (Nat.toDigits 10 (roundDiv (n * 10) d / 10)).length + 2 := by
    rw [fixed_one, List.length_append]
    rfl
  omega

theorem isDigit_or_eq_of_mem_fixed_one {c : Char} (hc : c ∈ fixed 1 n d) :
    c.isDigit = true ∨ c = '.' := by
  rw [fixed_one] at hc
  rcases List.mem_append.mp hc with digit | rest
  · exact .inl (Nat.isDigit_of_mem_toDigits (by decide) (by decide) digit)
  · rcases List.mem_cons.mp rest with point | last
    · exact .inr point
    · rw [← Nat.toDigits_of_lt_base (Nat.mod_lt _ (by decide))] at last
      exact .inl (Nat.isDigit_of_mem_toDigits (by decide) (by decide) last)

end Number

/-! ### Texts -/

open Number

/-- The unit that a number of bytes is told in. -/
def sizeUnit (bytes : Nat) : Nat :=
  if bytes < 1024 then 1
  else if bytes < 1024 * 1024 then 1024
  else if bytes < 1024 * 1024 * 1024 then 1024 * 1024
  else 1024 * 1024 * 1024

/-- A size is a number of bytes, or a number with one place in its unit. -/
theorem sizeText_cases (bytes : Nat) :
    bytes < 1024 ∧ sizeText bytes = Nat.toDigits 10 bytes ++ [' ', 'B'] ∨
    1024 ≤ bytes ∧ ∃ n d letter, letter ∈ ['K', 'M', 'G'] ∧
      sizeText bytes = fixed 1 n d ++ [' ', letter, 'i', 'B'] ∧
      (roundDiv (n * 10) d < 10000 ↔ 20 * bytes < 19999 * sizeUnit bytes) := by
  have tenths {k : Nat} (hk : k ≤ 30) := Binary.tenths_lt_iff (n := bytes) hk
  have mebi := Binary.num_ofNat_lt_iff (n := bytes) (show 20 ≤ 53 by decide)
  have gibi := Binary.num_ofNat_lt_iff (n := bytes) (show 30 ≤ 53 by decide)
  unfold sizeText sizeUnit
  dsimp only
  split
  · rename_i few
    exact .inl ⟨few, rfl⟩
  rename_i many
  refine .inr ⟨Nat.le_of_not_lt many, ?_⟩
  by_cases kibi : bytes < 1024 * 1024
  · rw [if_pos (mebi.mpr kibi), if_pos kibi]
    exact ⟨_, _, 'K', by decide, rfl, tenths (by decide)⟩
  · rw [if_neg (mt mebi.mp kibi), if_neg kibi]
    by_cases below : bytes < 1024 * 1024 * 1024
    · rw [if_pos (gibi.mpr below), if_pos below]
      exact ⟨_, _, 'M', by decide, rfl, tenths (by decide)⟩
    · rw [if_neg (mt gibi.mp below), if_neg below]
      exact ⟨_, _, 'G', by decide, rfl, tenths (by decide)⟩

/-- **Nine columns hold the sizes of less than 999.95 of their unit**, and all numbers of bytes. -/
theorem sizeText_length_le_iff (bytes : Nat) :
    (sizeText bytes).length ≤ 9 ↔ bytes < 1024 ∨ 20 * bytes < 19999 * sizeUnit bytes := by
  rcases sizeText_cases bytes with ⟨few, text⟩ | ⟨many, n, d, letter, -, text, tenths⟩
  · have digits : (Nat.toDigits 10 bytes).length ≤ 4 :=
      (Nat.length_toDigits_le_iff (by decide) (by decide)).mpr (Nat.lt_trans few (by decide))
    refine iff_of_true ?_ (.inl few)
    rw [text, List.length_append]
    exact Nat.add_le_add digits (show 2 ≤ 5 by decide)
  · have number := fixed_one_length_le_iff n d
    have length : (sizeText bytes).length = (fixed 1 n d).length + 4 := by
      rw [text, List.length_append]
      rfl
    rw [← tenths, ← number, length]
    omega

theorem isPrintable_of_mem_sizeText {bytes : Nat} {c : Char} (hc : c ∈ sizeText bytes) :
    IsPrintable c := by
  rcases sizeText_cases bytes with ⟨-, text⟩ | ⟨-, n, d, letter, unit, text, -⟩
  · rw [text] at hc
    rcases List.mem_append.mp hc with digit | last
    · exact isPrintable_of_mem_toDigits digit
    · have units : ∀ u ∈ [' ', 'B'], IsPrintable u := List.all_iff_forall_prop.mp (by decide)
      exact units c last
  · rw [text] at hc
    rcases List.mem_append.mp hc with number | last
    · rcases isDigit_or_eq_of_mem_fixed_one number with digit | point
      · exact isPrintable_of_isDigit digit
      · rw [point]
        decide
    · have units : ∀ l ∈ ['K', 'M', 'G'], [' ', l, 'i', 'B'].all fun u => decide (IsPrintable u) :=
        List.all_iff_forall_prop.mp (by decide)
      exact List.all_iff_forall_prop.mp (units letter unit) c last

/-- The last character of a size stands nowhere else in it. -/
theorem exists_sizeText_eq (bytes : Nat) : ∃ text, sizeText bytes = text ++ ['B'] ∧ 'B' ∉ text := by
  rcases sizeText_cases bytes with ⟨-, text⟩ | ⟨-, n, d, letter, unit, text, -⟩
  · refine ⟨Nat.toDigits 10 bytes ++ [' '], by rw [text, List.append_assoc]; rfl, fun hc => ?_⟩
    rcases List.mem_append.mp hc with digit | last
    · exact notMem_toDigits (by decide) bytes digit
    · exact absurd last (by decide)
  · refine ⟨fixed 1 n d ++ [' ', letter, 'i'], by rw [text, List.append_assoc]; rfl, fun hc => ?_⟩
    rcases List.mem_append.mp hc with number | last
    · rcases isDigit_or_eq_of_mem_fixed_one number with digit | point
      · exact absurd digit (by decide)
      · exact absurd point (by decide)
    · have units : ∀ l ∈ ['K', 'M', 'G'], 'B' ∉ [' ', l, 'i'] := List.all_iff_forall_prop.mp (by decide)
      exact units letter unit last

end RepoBrowser
