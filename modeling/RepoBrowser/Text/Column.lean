/-!
# Text in columns: padding and shortening

Widths here count characters, not the columns a terminal gives them.

* `padEnd`, `padStart` — blanks behind or in front of a text, up to a width;
* `shorten` — a text cut to a width, the cut marked with three dots.

The `_length` lemmas give the exact number of characters of each result.
-/

namespace RepoBrowser.Text

/-- The text with blanks behind it, `w` characters wide if it was not wider. -/
def padEnd (w : Nat) (s : List Char) : List Char := s ++ List.replicate (w - s.length) ' '

/-- The text with blanks in front of it, `w` characters wide if it was not wider. -/
def padStart (w : Nat) (s : List Char) : List Char := List.replicate (w - s.length) ' ' ++ s

def dots : List Char := ['.', '.', '.']

/-- The text if it has at most `w` characters, else its start and three dots. -/
def shorten (w : Nat) (s : List Char) : List Char :=
  if s.length ≤ w then s else s.take (w - 3) ++ dots

theorem padEnd_length (w : Nat) (s : List Char) : (padEnd w s).length = max w s.length := by
  simp [padEnd]; omega

theorem padStart_length (w : Nat) (s : List Char) : (padStart w s).length = max w s.length := by
  simp [padStart]; omega

theorem shorten_length_le {w : Nat} (s : List Char) (h : 3 ≤ w) : (shorten w s).length ≤ w := by
  unfold shorten
  split
  · assumption
  · simp [dots]; omega

/-- A shortened text padded to its own width has that width exactly. -/
theorem padEnd_shorten_length {w : Nat} (s : List Char) (h : 3 ≤ w) :
    (padEnd w (shorten w s)).length = w := by
  have := shorten_length_le s h
  rw [padEnd_length]
  omega

end RepoBrowser.Text
