/-!
# Blanks: the white space of Unicode, and trimming

Text is handled as a list of characters.  This file provides:

* `isBlank` — the characters with Unicode's `White_Space` property;
* `trimStart`, `trimEnd`, `trim` — a text without the blanks at its ends;
* `trimStart_eq_nil_iff`, `trimEnd_eq_nil_iff` — nothing is left exactly of a blank text.
-/

namespace RepoBrowser.Text

/-- The characters with Unicode's `White_Space` property. -/
def isBlank (c : Char) : Bool :=
  let n := c.toNat
  (9 ≤ n && n ≤ 13) || n == 0x20 || n == 0x85 || n == 0xA0 || n == 0x1680
    || (0x2000 ≤ n && n ≤ 0x200A) || n == 0x2028 || n == 0x2029 || n == 0x202F
    || n == 0x205F || n == 0x3000

def trimStart (s : List Char) : List Char := s.dropWhile isBlank

def trimEnd (s : List Char) : List Char := (s.reverse.dropWhile isBlank).reverse

def trim (s : List Char) : List Char := trimEnd (trimStart s)

def trimmed (s : String) : String := String.ofList (trim s.toList)

@[simp] theorem trimStart_nil : trimStart [] = [] := rfl

@[simp] theorem trimEnd_nil : trimEnd [] = [] := rfl

@[simp] theorem trim_nil : trim [] = [] := rfl

theorem trimStart_cons (c : Char) (s : List Char) :
    trimStart (c :: s) = if isBlank c then trimStart s else c :: s := by
  simp only [trimStart, List.dropWhile_cons]

theorem trimStart_eq_nil_iff {s : List Char} : trimStart s = [] ↔ ∀ c ∈ s, isBlank c := by
  induction s with
  | nil => simp
  | cons c s ih => by_cases h : isBlank c <;> simp [trimStart_cons, h, ih]

theorem trimEnd_eq_nil_iff {s : List Char} : trimEnd s = [] ↔ ∀ c ∈ s, isBlank c := by
  unfold trimEnd
  rw [List.reverse_eq_nil_iff]
  exact trimStart_eq_nil_iff.trans (by simp)

end RepoBrowser.Text
