import RepoBrowser.Number.Total
import RepoBrowser.Screen.Line
import RepoBrowser.Text.Blank
import RepoBrowser.Text.Lines

/-!
# Paragraphs

A paragraph shows lines of styled text in an area, from its top, over a style of its own.

* `Glyph` — a glyph with its style;
* `fitting` — the glyphs of a line that fit in a width;
* `paragraph`, `plainParagraph` — lines that are cut at the width of the area;
* `wrappedParagraph` — lines that are broken between words.
-/

namespace RepoBrowser

open Text Text.Width Text.Grapheme

structure Glyph where
  text : List Char
  style : Style
  deriving DecidableEq, Repr

namespace Glyph

def columns (g : Glyph) : Nat := width g.text

/-- The marks of a glyph; one without columns is not drawn. -/
def marks (g : Glyph) : List Mark :=
  if g.columns = 0 then [] else glyphMarks g.text g.style .keep

/-- Whether a glyph is a blank at which a line can be broken. -/
def isBreak (g : Glyph) : Bool :=
  g.text = ['\u200B'] || (g.text.all isBlank && g.text ≠ ['\u00A0'])

end Glyph

def lineGlyphs (line : List Span) : List Glyph :=
  line.flatMap fun s => (glyphs s.text).map fun g => ⟨g, s.style⟩

/-- The glyphs that fit in a width `w` of which `room` columns are left.  One that is wider than
all of it is passed over; the first that is wider than the room ends the line. -/
def fitting (w : Nat) : Nat → List Glyph → List Glyph
  | _, [] => []
  | room, g :: gs =>
    if w < g.columns then fitting w room gs
    else if room < g.columns then []
    else g :: fitting w (room - g.columns) gs

def rowOfGlyphs (w : Nat) (style : Style) (gs : List Glyph) : Row :=
  overlay (gs.flatMap Glyph.marks) (blankRow w style)

/-- Rows in an area: those that fit, and empty ones below. -/
def inArea (w h : Nat) (style : Style) (rows : List Row) : Screen :=
  rows.take h ++ blankScreen w (h - rows.length) style

theorem rowOfGlyphs_length (w : Nat) (style : Style) (gs : List Glyph) :
    (rowOfGlyphs w style gs).length = w := by simp [rowOfGlyphs]

@[simp] theorem inArea_length (w h : Nat) (style : Style) (rows : List Row) :
    (inArea w h style rows).length = h := by
  simp [inArea, blankScreen]; omega

/-- All rows of an area are as wide as it is. -/
theorem length_of_mem_inArea {w h : Nat} {style : Style} {rows : List Row} {row : Row}
    (hr : ∀ r ∈ rows, r.length = w) (h : row ∈ inArea w h style rows) : row.length = w := by
  rcases List.mem_append.1 h with h | h
  · exact hr row (List.mem_of_mem_take h)
  · rw [List.eq_of_mem_replicate h, blankRow_length]

def lineRow (w : Nat) (style : Style) (line : List Span) : Row :=
  rowOfGlyphs w style (fitting w w (lineGlyphs line))

/-- Lines that are cut at the width of the area. -/
def paragraph (w h : Nat) (style : Style) (lines : List (List Span)) : Screen :=
  inArea w h style ((lines.take h).map (lineRow w style))

def plainLines (text : List Char) : List (List Span) := (lines text).map fun l => [⟨l, .plain⟩]

def plainParagraph (w h : Nat) (style : Style) (text : List Char) : Screen :=
  paragraph w h style (plainLines text)

/-! ### Breaking lines between words -/

def columnsOf (gs : List Glyph) : Nat := Number.total (gs.map Glyph.columns)

/-- A line that is being broken: finished rows in reverse, the row under construction with the
columns it takes, the blanks and the word that follow it, and whether the last glyph belonged to a
word. -/
structure Wrapping where
  done : List (List Glyph) := []
  row : List Glyph := []
  taken : Nat := 0
  blanks : List Glyph := []
  word : List Glyph := []
  inWord : Bool := false

namespace Wrapping

/-- The word joins the row, with the blanks in front of it unless it is the first. -/
def join (s : Wrapping) : Wrapping :=
  let blanks := if s.row.isEmpty then [] else s.blanks
  { s with
    row := s.row ++ blanks ++ s.word
    taken := s.taken + columnsOf blanks + columnsOf s.word
    blanks := []
    word := [] }

/-- Blanks without those that `room` columns hold. -/
def dropBlanks : Nat → List Glyph → List Glyph
  | _, [] => []
  | room, g :: gs => if room < g.columns then g :: gs else dropBlanks (room - g.columns) gs

/-- The row is finished; blanks that would still stand in it are dropped. -/
def finishRow (w : Nat) (s : Wrapping) : Wrapping :=
  { s with
    done := s.row :: s.done
    row := []
    taken := 0
    blanks := dropBlanks (w - s.taken) s.blanks }

/-- A glyph joins the blanks or the word. -/
def push (s : Wrapping) (g : Glyph) : Wrapping :=
  if g.isBreak then { s with blanks := s.blanks ++ [g], inWord := false }
  else { s with word := s.word ++ [g], inWord := true }

/-- Whether the word has to join the row before a glyph does. -/
def joinsBefore (w : Nat) (s : Wrapping) (g : Glyph) : Bool :=
  (s.inWord && g.isBreak)
    || (s.row.isEmpty && w < columnsOf s.word + g.columns)
    || (s.row.isEmpty && w < columnsOf s.blanks + g.columns)

/-- Whether no more fits in the row. -/
def isFull (w : Nat) (s : Wrapping) (g : Glyph) : Bool :=
  w ≤ s.taken || (0 < g.columns && w ≤ s.taken + columnsOf s.blanks + columnsOf s.word)

/-- One more glyph; one wider than the area is passed over. -/
def add (w : Nat) (s : Wrapping) (g : Glyph) : Wrapping :=
  if w < g.columns then s
  else
    let s := if s.joinsBefore w g then s.join else s
    if s.isFull w g then
      let s := s.finishRow w
      if g.isBreak && s.blanks.isEmpty then s else s.push g
    else s.push g

/-- The rows of the line, at least one. -/
def rows (s : Wrapping) : List (List Glyph) :=
  let empty := if s.row.isEmpty && s.word.isEmpty && !s.blanks.isEmpty then [[]] else []
  let last := s.row ++ (if s.row.isEmpty then [] else s.blanks) ++ s.word
  let all := s.done.reverse ++ empty ++ (if last.isEmpty then [] else [last])
  if all.isEmpty then [[]] else all

end Wrapping

def wrap (w : Nat) (gs : List Glyph) : List (List Glyph) := (gs.foldl (Wrapping.add w) {}).rows

/-- A text in one style, its lines broken between words. -/
def wrappedParagraph (w h : Nat) (style : Style) (text : List Char) : Screen :=
  if w = 0 then inArea w h style []
  else
    inArea w h style
      (((plainLines text).flatMap fun l => wrap w (lineGlyphs l)).map (rowOfGlyphs w style))

end RepoBrowser
