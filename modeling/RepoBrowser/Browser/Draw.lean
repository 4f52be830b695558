import RepoBrowser.Browser.Basic
import RepoBrowser.Explorer.Draw
import RepoBrowser.History.Draw
import RepoBrowser.Screen.Stack

/-!
# Drawing the browser

The header, the tabs, the body and the status line stand one below the other.

* `Areas`, `areas` — their heights on a screen;
* `drawHeader`, `drawBody`, `drawStatus` — what is in them;
* `Browser.draw` — the screen.
-/

namespace RepoBrowser

open Text
open Time (Instant)

namespace Layout

structure Areas where
  header : Nat
  tabs : Nat
  body : Nat
  status : Nat
  deriving DecidableEq, Repr

/-- The heights that the four areas want on a screen of height `h`. -/
def wanted (l : Layout) (h : Nat) : List Nat :=
  [l.headerHeight + l.headerFrame, l.tabsHeight + l.tabsFrame, l.bodyHeight h + l.bodyFrame,
    l.statusHeight]

def areas (l : Layout) (h : Nat) : Areas :=
  match Stack.shares h (l.wanted h) with
  | [header, tabs, body, status] => ⟨header, tabs, body, status⟩
  | _ => ⟨0, 0, 0, 0⟩

/-- The rows above the body's text that are kept free, of an area of height `h`. -/
def bodyTop (l : Layout) : Nat := l.bodyFrame / 2

end Layout

namespace Browser

/-- The lines of the header: the title with the address at the right, and the description. -/
def headerLines (item : Headline) (w : Nat) : List (List Span) :=
  let gap := max (w - (Width.width item.title.toList + Width.width item.url.toList)) 1
  [[⟨item.title.toList, { foreground := some .cyan, bold := true }⟩,
    ⟨List.replicate gap ' ', .plain⟩,
    ⟨item.url.toList, .inColour .darkGray⟩],
   [⟨item.description.toList, .inColour .gray⟩]]

def drawHeader (b : Browser) (w h : Nat) : Screen :=
  match b.repository, b.headline with
  | some _, some item =>
    let inner := h - b.layout.headerFrame
    paragraph w inner .plain (headerLines item w) ++ blankScreen w (h - inner) .plain
  | _, _ => blankScreen w h .plain

def drawView (b : Browser) (now : Instant) (w h : Nat) : Screen :=
  match b.activeTab with
  | .readme => if b.repository.isSome then b.readme.draw w h else blankScreen w h .plain
  | .files => b.explorer.draw w h
  | .commits => b.history.draw now w h
  | .branches | .tags => blankScreen w h .plain

/-- What is in the area of the body: the view, between the rows of its frame. -/
def drawBody (b : Browser) (now : Instant) (w h : Nat) : Screen :=
  let top := b.layout.bodyTop
  if h < b.layout.bodyFrame then blankScreen w h .plain
  else
    blankScreen w top .plain ++ b.drawView now w (h - b.layout.bodyFrame)
      ++ blankScreen w (b.layout.bodyFrame - top) .plain

/-- What is in the area of the status line: an error takes its place. -/
def drawStatus (b : Browser) (w h : Nat) : Screen :=
  match b.error with
  | some reason =>
    paragraph w h StatusLine.baseStyle [[⟨Pager.errorText reason, .inColour .red⟩]]
  | none => b.statusLine.draw w h

def draw (b : Browser) (now : Instant) (w h : Nat) : Screen :=
  let a := b.layout.areas h
  b.drawHeader w a.header ++ b.tabs.draw w a.tabs ++ b.drawBody now w a.body
    ++ b.drawStatus w a.status

def drawFault? (b : Browser) : Option Fault :=
  if b.activeTab = .commits then b.history.drawFault? else none

end Browser

end RepoBrowser
