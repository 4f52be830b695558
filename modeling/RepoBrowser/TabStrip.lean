import RepoBrowser.Input
import RepoBrowser.Screen.Line
import RepoBrowser.Screen.Paragraph
import RepoBrowser.Tab

/-!
# The strip of tabs

* `TabStrip` — the active tab, and where the titles are on screen;
* `input?` — the tab that an input makes active;
* `tabAt?` — the tab whose title is in a column;
* `draw` — the titles in a row, with a line below them if there is a frame.

Each title has a blank on both sides, and a divider stands between neighbours.
-/

namespace RepoBrowser

open Text

structure TabStrip where
  active : Tab := .readme
  /-- The row of the screen that the titles are in. -/
  row : Nat
  /-- The rows below the titles; if there are any the last one is a line. -/
  frame : Nat
  width : Nat := 0
  height : Nat := 0
  deriving DecidableEq, Repr

namespace TabStrip

/-- The columns of a title with the blanks on both sides. -/
def titleColumns (t : Tab) : Nat := t.title.toList.length + 2

/-- The tab among `tabs` whose title is in a column, when the first title begins at column `x`. -/
def tabFrom? (column x : Nat) : List Tab → Option Tab
  | [] => none
  | t :: ts =>
    if x ≤ column && column < x + titleColumns t then some t
    else tabFrom? column (x + titleColumns t + 1) ts

def tabAt? (column : Nat) : Option Tab := tabFrom? column 0 Tab.all

def target? (s : TabStrip) : Input → Option Tab
  | .key k =>
    match k.code with
    | .tab => some s.active.next
    | .backTab => some s.active.previous
    | _ => none
  | .mouse m => if m.deed = .press .left && m.row = s.row then tabAt? m.column else none

def activate (s : TabStrip) (t : Tab) : TabStrip := { s with active := t }

/-- What an input does, if it asks for a tab. -/
def input? (s : TabStrip) (i : Input) : Option (TabStrip × Tab) :=
  (s.target? i).map fun t => (s.activate t, t)

def setSize (s : TabStrip) (width height : Nat) : TabStrip := { s with width, height }

/-! ### Drawing -/

def divider : Char := '│'

def lineCharacter : Char := '─'

def baseStyle : Style := .inColour .gray

def activeStyle : Style := { foreground := some .yellow, bold := true, underlined := true }

/-- The marks of a text whose characters take a column each. -/
def textMarks (style : Style) (s : List Char) : List Mark := s.map fun c => .glyph [c] style

/-- The marks of a title with the blanks on both sides. -/
def titleMarks (active t : Tab) : List Mark :=
  textMarks .plain [' '] ++
    textMarks (if t = active then activeStyle else .plain) t.title.toList ++ textMarks .plain [' ']

def marks (active : Tab) : List Tab → List Mark
  | [] => []
  | [t] => titleMarks active t
  | t :: ts => titleMarks active t ++ textMarks .plain [divider] ++ marks active ts

def titleRow (s : TabStrip) (w : Nat) : Row :=
  overlay (marks s.active Tab.all) (blankRow w baseStyle)

/-- The line below the titles. -/
def lineRow (w : Nat) : Row := List.replicate w ⟨[lineCharacter], .inColour .darkGray⟩

def draw (s : TabStrip) (w h : Nat) : Screen :=
  if s.frame = 0 then inArea w h baseStyle [s.titleRow w]
  else if h = 0 then []
  else inArea w (h - 1) baseStyle [s.titleRow w] ++ [lineRow w]

end TabStrip

end RepoBrowser
