import RepoBrowser.Screen.Basic
import RepoBrowser.Text.Grapheme

/-!
# Lines of styled text

* `Span` — a text with a style;
* `Span.marks` — a span as it is drawn where some columns are left;
* `Row.withSpansFrom`, `Row.ofSpans` — a row with spans drawn one behind the other.

A glyph is a cluster of characters.  One that takes no column joins the glyph in front of it; one
that does not fit ends its span.
-/

namespace RepoBrowser

open Text Text.Width Text.Grapheme

structure Span where
  text : List Char
  style : Style := {}
  deriving DecidableEq, Repr

/-- The glyphs of a text; line breaks are none. -/
def glyphs (text : List Char) : List (List Char) := (clusters text).filter (· ≠ ['\n'])

/-- A glyph put behind what stands in the cell of the last mark. -/
def Mark.join (g : List Char) (style : Style) : Mark → Mark
  | .glyph t s => .glyph (t ++ g) (style.onto s)
  | .reset => .glyph (' ' :: g) style
  | .keep => .glyph g style

/-- The marks of glyphs where `room` columns are left; `lead` is what already stands in the first
of them, and `back` holds the marks so far, in reverse. -/
def marksFrom (style : Style) : Nat → List Char → List Mark → List (List Char) → List Mark
  | _, lead, back, [] =>
    if back.isEmpty && !lead.isEmpty then [.glyph lead style] else back.reverse
  | room, lead, back, g :: gs =>
    let w := width g
    if room < w then
      if back.isEmpty && !lead.isEmpty then [.glyph lead style] else back.reverse
    else
      match w, back with
      | 0, [] => marksFrom style room (lead ++ g) [] gs
      | 0, last :: back => marksFrom style room lead (last.join g style :: back) gs
      | w + 1, [] =>
        marksFrom style (room - (w + 1)) lead
          (List.replicate w .reset ++ [.glyph (lead ++ g) style]) gs
      | w + 1, back =>
        marksFrom style (room - (w + 1)) lead
          (List.replicate w .reset ++ .glyph g style :: back) gs

def Span.marks (s : Span) (room : Nat) : List Mark := marksFrom s.style room [] [] (glyphs s.text)

/-- A row with spans drawn one behind the other from column `x` on; spans without width are passed
over. -/
def Row.withSpansFrom (x : Nat) : List Span → Row → Row
  | [], row => row
  | s :: ss, row =>
    let w := width s.text
    if row.length ≤ x then row
    else if w = 0 then Row.withSpansFrom x ss row
    else Row.withSpansFrom (x + w) ss (overlayAt x (s.marks (row.length - x)) row)

def Row.ofSpans (w : Nat) (spans : List Span) : Row :=
  Row.withSpansFrom 0 spans (blankRow w .plain)

theorem Row.withSpansFrom_length (x : Nat) (ss : List Span) (row : Row) :
    (Row.withSpansFrom x ss row).length = row.length := by
  induction ss generalizing x row with
  | nil => rfl
  | cons s ss ih =>
    unfold Row.withSpansFrom
    dsimp only
    split
    · rfl
    · split <;> simp [ih]

@[simp] theorem Row.ofSpans_length (w : Nat) (ss : List Span) : (Row.ofSpans w ss).length = w := by
  simp [Row.ofSpans, Row.withSpansFrom_length]

end RepoBrowser
