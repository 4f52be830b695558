import RepoBrowser.Text.Width

/-!
# Screens

* `Colour`, `Style` — how a cell looks; `Style.onto` puts one style on top of another;
* `Cell`, `Row`, `Screen` — a screen is a list of rows, and a row a list of cells;
* `Mark`, `overlay`, `overlayAt` — drawing on a row from some column on;
* `Screen.shown` — what a terminal shows of a screen.

A row keeps its width under everything that is drawn on it (`overlayAt_length`), and each cell gets
exactly the mark that is meant for it (`getElem?_overlayAt`).
-/

namespace RepoBrowser

open Text Text.Width

inductive Colour where
  | black | red | green | yellow | blue | magenta | cyan | gray | darkGray | white
  deriving DecidableEq, Repr

/-- How a cell looks; a colour that is not given is the default one. -/
structure Style where
  foreground : Option Colour := none
  background : Option Colour := none
  bold : Bool := false
  italic : Bool := false
  underlined : Bool := false
  deriving DecidableEq, Repr, Inhabited

namespace Style

def plain : Style := {}

def inColour (c : Colour) : Style := { foreground := some c }

/-- A style on top of another one, which shows where nothing covers it. -/
def onto (top base : Style) : Style where
  foreground := top.foreground.or base.foreground
  background := top.background.or base.background
  bold := top.bold || base.bold
  italic := top.italic || base.italic
  underlined := top.underlined || base.underlined

@[simp] theorem plain_onto (s : Style) : plain.onto s = s := by
  cases s; simp [onto, plain]

@[simp] theorem onto_plain (s : Style) : s.onto plain = s := by
  cases s; simp [onto, plain]

end Style

/-- A cell: what stands in it, and how it looks.  What is wider than a cell covers the next. -/
structure Cell where
  glyph : List Char := [' ']
  style : Style := {}
  deriving DecidableEq, Repr, Inhabited

abbrev Row := List Cell

/-- The rows of a screen from the top. -/
abbrev Screen := List Row

def blankRow (w : Nat) (style : Style) : Row := List.replicate w { style }

def blankScreen (w h : Nat) (style : Style) : Screen := List.replicate h (blankRow w style)

@[simp] theorem blankRow_length (w : Nat) (style : Style) : (blankRow w style).length = w := by
  simp [blankRow]

/-! ### Drawing on a row -/

/-- What is drawn on a cell. -/
inductive Mark where
  /-- A glyph, with a style on top of the cell's. -/
  | glyph (text : List Char) (style : Style)
  /-- The cell is made empty. -/
  | reset
  /-- The cell stays as it is. -/
  | keep
  deriving DecidableEq, Repr

def Mark.on : Mark → Cell → Cell
  | .glyph text style, c => ⟨text, style.onto c.style⟩
  | .reset, _ => {}
  | .keep, c => c

/-- Draws marks on a row from its first column on. -/
def overlay : List Mark → Row → Row
  | m :: ms, c :: row => m.on c :: overlay ms row
  | _, row => row

/-- Draws marks on a row from a column on. -/
def overlayAt : Nat → List Mark → Row → Row
  | 0, ms, row => overlay ms row
  | x + 1, ms, c :: row => c :: overlayAt x ms row
  | _ + 1, _, [] => []

@[simp] theorem overlay_length (ms : List Mark) (row : Row) :
    (overlay ms row).length = row.length := by
  induction ms generalizing row with
  | nil => cases row <;> rfl
  | cons m ms ih =>
    cases row with
    | nil => rfl
    | cons c row => simp [overlay, ih]

@[simp] theorem overlayAt_length (x : Nat) (ms : List Mark) (row : Row) :
    (overlayAt x ms row).length = row.length := by
  induction x generalizing row with
  | zero => simp [overlayAt]
  | succ x ih =>
    cases row with
    | nil => rfl
    | cons c row => simp [overlayAt, ih]

/-- Each cell has its own mark drawn on it. -/
theorem getElem?_overlay (ms : List Mark) (row : Row) (i : Nat) :
    (overlay ms row)[i]? = row[i]?.map (((ms[i]?).getD .keep).on ·) := by
  induction ms generalizing row i with
  | nil =>
    cases row with
    | nil => rfl
    | cons c row => simp [overlay, Mark.on]
  | cons m ms ih =>
    cases row with
    | nil => rfl
    | cons c row =>
      cases i with
      | zero => rfl
      | succ i => simpa [overlay] using ih row i

/-- Cells in front of the column stay, the others have their marks drawn on them. -/
theorem getElem?_overlayAt (x : Nat) (ms : List Mark) (row : Row) (i : Nat) :
    (overlayAt x ms row)[i]? =
      if i < x then row[i]? else row[i]?.map (((ms[i - x]?).getD .keep).on ·) := by
  induction x generalizing row i with
  | zero => simp [overlayAt, getElem?_overlay]
  | succ x ih =>
    cases row with
    | nil => simp [overlayAt]
    | cons c row =>
      cases i with
      | zero => simp [overlayAt]
      | succ i => simpa [overlayAt, Nat.add_sub_add_right] using ih row i

def Row.tinted (style : Style) (row : Row) : Row :=
  row.map fun c => { c with style := style.onto c.style }

/-- The marks of a glyph: itself and, if it is wide, what happens to the cells behind it. -/
def glyphMarks (text : List Char) (style : Style) (behind : Mark) : List Mark :=
  .glyph text style :: List.replicate (width text - 1) behind

/-! ### What a terminal shows -/

/-- Cells in the order of writing, as a terminal shows them: what stands right behind a wide glyph
is not written. -/
def shownFrom (covered : Bool) : List Cell → List Cell
  | [] => []
  | c :: cs => (if covered then {} else c) :: shownFrom (2 ≤ width c.glyph) cs

/-- Rows of the given lengths, cut from a run of cells. -/
def cutRows : List Nat → List Cell → Screen
  | [], _ => []
  | w :: ws, cs => cs.take w :: cutRows ws (cs.drop w)

/-- What a terminal shows of a screen; a wide glyph in the last column covers the first of the next
row. -/
def Screen.shown (s : Screen) : Screen := cutRows (s.map (·.length)) (shownFrom false s.flatten)

end RepoBrowser
