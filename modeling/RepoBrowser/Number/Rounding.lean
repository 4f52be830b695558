/-!
# Rounding to the nearest

* `roundDiv n d` — the whole number nearest to `n / d`, a half going to the even neighbour;
* `fixed` — a fraction with a fixed number of decimals, rounded that way;
* `Binary` — the fractions with a power of two below the line;
* `Binary.ofRatio` — the binary fraction with at most 53 significant bits nearest to a ratio.

`roundDiv_bounds` says that rounding is off by at most a half.
-/

namespace RepoBrowser.Number

/-- The whole number nearest to `n / d`; a half goes to the even neighbour. -/
def roundDiv (n d : Nat) : Nat :=
  let q := n / d
  let r := n % d
  if 2 * r < d then q
  else if d < 2 * r then q + 1
  else if q % 2 = 0 then q else q + 1

/-- Rounding is off by at most a half. -/
theorem roundDiv_bounds (n : Nat) {d : Nat} (h : 0 < d) :
    2 * (d * roundDiv n d) ≤ 2 * n + d ∧ 2 * n ≤ 2 * (d * roundDiv n d) + d := by
  have hn := Nat.div_add_mod n d
  have hr := Nat.mod_lt n h
  have hs : d * (n / d + 1) = d * (n / d) + d := by rw [Nat.mul_add, Nat.mul_one]
  unfold roundDiv
  simp only
  split
  · omega
  · split
    · rw [hs]; omega
    · split
      · omega
      · rw [hs]; omega

/-- A multiple of the divisor is divided exactly. -/
theorem roundDiv_mul (q : Nat) {d : Nat} (h : 0 < d) : roundDiv (q * d) d = q := by
  simp [roundDiv, Nat.mul_div_cancel q h, h]

/-- `n / d` in decimal with `places` decimals. -/
def fixed (places n d : Nat) : List Char :=
  let m := roundDiv (n * Nat.pow 10 places) d
  let whole := Nat.toDigits 10 (m / Nat.pow 10 places)
  if places = 0 then whole
  else
    let part := Nat.toDigits 10 (m % Nat.pow 10 places)
    whole ++ '.' :: (List.replicate (places - part.length) '0' ++ part)

/-- The fraction `num / 2 ^ shift`. -/
structure Binary where
  num : Nat
  shift : Nat
  deriving DecidableEq, Repr

namespace Binary

/-- The number of significant bits that are kept. -/
def precision : Nat := 53

/-- The nearest fraction to `n / d` among those with 53 significant bits. -/
def ofRatio (n d : Nat) : Binary :=
  if n = 0 then ⟨0, 0⟩
  else if n.log2 ≤ d.log2 + 52 then
    let s := d.log2 + 52 - n.log2
    let s := if n * Nat.pow 2 s < Nat.pow 2 52 * d then s + 1 else s
    ⟨roundDiv (n * Nat.pow 2 s) d, s⟩
  else
    let k := n.log2 - (d.log2 + 52)
    let k := if n < Nat.pow 2 52 * d * Nat.pow 2 k then k - 1 else k
    ⟨roundDiv n (d * Nat.pow 2 k) * Nat.pow 2 k, 0⟩

/-- The fraction that keeps 53 bits of a whole number. -/
def ofNat (n : Nat) : Binary := ofRatio n 1

def times (k : Nat) (x : Binary) : Binary := ofRatio (k * x.num) (Nat.pow 2 x.shift)

def halved (k : Nat) (x : Binary) : Binary := ⟨x.num, x.shift + k⟩

def fixed (places : Nat) (x : Binary) : List Char := Number.fixed places x.num (Nat.pow 2 x.shift)

end Binary

end RepoBrowser.Number
