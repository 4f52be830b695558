import RepoBrowser.Action
import RepoBrowser.Navigation
import RepoBrowser.Number.Rounding
import RepoBrowser.Pager.Highlight
import RepoBrowser.Screen.Paragraph

/-!
# Scrolling through a text

* `Pager` — a text that is scrolled through, or a notice that it is being loaded or could not be;
* `setContent`, `setLoading`, `setError`, `setSize` — what is shown, and where;
* `move`, `input?` — scrolling;
* `Pager.percentText` — how far the text has been scrolled;
* `Pager.draw` — the part of the text that is on screen.

The offset never goes beyond `maxOffset`, where the last line is on screen.
-/

namespace RepoBrowser

open Text

/-- A text that is scrolled through. -/
structure Pager where
  /-- What is shown when there is no text. -/
  placeholder : String
  lines : List TextLine := []
  path : String := ""
  /-- The first line on screen. -/
  offset : Nat := 0
  width : Nat := 0
  height : Nat := 0
  loading : Bool := false
  error : Option String := none
  deriving DecidableEq, Repr

namespace Pager

/-- The greatest offset: what is above the last screenful. -/
def maxOffset (p : Pager) : Nat := p.lines.length - p.height

def setContent (p : Pager) (content path : String) : Pager :=
  { p with
    lines := highlight content.toList path.toList
    path
    offset := 0
    loading := false
    error := none }

def setLoading (p : Pager) : Pager :=
  { p with lines := [], path := "", offset := 0, loading := true, error := none }

def setError (p : Pager) (reason : String) : Pager :=
  { p with loading := false, error := some reason }

/-- Changes the size; the text is pulled down if there would be room below it. -/
def setSize (p : Pager) (width height : Nat) : Pager :=
  { p with width, height, offset := min p.offset (p.lines.length - height) }

def toTop (p : Pager) : Pager := { p with offset := 0 }

def down (n : Nat) (p : Pager) : Pager := { p with offset := min (p.offset + n) p.maxOffset }

def up (n : Nat) (p : Pager) : Pager := { p with offset := p.offset - n }

/-- The lines that a page has, at least one. -/
def page (p : Pager) : Nat := max p.height 1

def wheelLines : Nat := 3

/-- Scrolls as a move asks for; moves into and out of things mean nothing here. -/
def move? (p : Pager) : Move → Option Pager
  | .down => some (p.down 1)
  | .up => some (p.up 1)
  | .pageDown => some (p.down p.page)
  | .pageUp => some (p.up p.page)
  | .top => some p.toTop
  | .bottom => some { p with offset := p.maxOffset }
  | .enter | .back => none

def wheel? (p : Pager) (m : Mouse) : Option Pager :=
  match m.deed with
  | .scroll .down => some (p.down wheelLines)
  | .scroll .up => some (p.up wheelLines)
  | _ => none

def input? (p : Pager) : Input → Option Pager
  | .key k => (Move.ofKey? k).bind p.move?
  | .mouse m => p.wheel? m

def input (p : Pager) (i : Input) : Pager := (p.input? i).getD p

/-! ### How far the text has been scrolled -/

/-- The part of the text that is above the screen, as a fraction of what can be: numerator and
denominator. -/
def ratio (p : Pager) : Nat × Nat :=
  if p.maxOffset = 0 then (1, 1) else (min p.offset p.maxOffset, p.maxOffset)

def portion (p : Pager) : Number.Binary := .ofRatio p.ratio.1 p.ratio.2

/-- The ratio in percent, without places. -/
def percentText (p : Pager) : List Char := (p.portion.times 100).fixed 0 ++ ['%']

/-- What the status line says of a text that was opened. -/
def openInfo (p : Pager) : String := String.ofList ("☰ ".toList ++ p.percentText)

/-! ### Drawing -/

def errorText (reason : String) : List Char := "Error: ".toList ++ reason.toList

/-- The lines of the text that are on a screen of height `h`. -/
def visible (p : Pager) (h : Nat) : List TextLine := (p.lines.drop p.offset).take h

def draw (p : Pager) (w h : Nat) : Screen :=
  match p.error with
  | some reason => wrappedParagraph w h (.inColour .red) (errorText reason)
  | none =>
    if p.loading then plainParagraph w h (.inColour .yellow) "Loading...".toList
    else if p.lines.isEmpty then plainParagraph w h (.inColour .gray) p.placeholder.toList
    else paragraph w h .plain ((p.visible h).map fun l => [⟨l.text, l.style⟩])

end Pager

end RepoBrowser
