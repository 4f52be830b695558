import RepoBrowser.Text.Lines
import RepoBrowser.Text.Percent

/-!
# Tables of code points

* `table` — a table of code points with lists of others, read from lines of hexadecimal numbers:
  entries end at commas, numbers at blanks, and each entry starts with its own code point;
* `isIn` — whether a code point lies in one of some ranges.
-/

namespace RepoBrowser.Text.Codes

def number (s : List Char) : Nat :=
  s.foldl (fun n c => n * 16 + (Percent.hexValue? c).getD 0) 0

def entry? (s : List Char) : Option (Nat × List Nat) :=
  match (pieces ' ' s).map number with
  | [] => none
  | n :: ns => some (n, ns)

/-- The table that lines spell. -/
def table (lines : List String) : List (Nat × List Nat) :=
  lines.flatMap fun l => (pieces ',' l.toList).filterMap entry?

/-- Whether a code point lies in one of some ranges, which are in ascending order. -/
def isIn : List (Nat × Nat) → Nat → Bool
  | [], _ => false
  | (lo, hi) :: r, n => if n < lo then false else n ≤ hi || isIn r n

end RepoBrowser.Text.Codes
