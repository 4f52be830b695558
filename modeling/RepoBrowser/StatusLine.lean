import RepoBrowser.Screen.Paragraph
import RepoBrowser.Text.Column

/-!
# The status line

* `Status` — what the status line says;
* `StatusLine` — the line, with what it says;
* `StatusLine.spans` — its parts: the key at the left, then the value, and the information and the
  branch at the right.

The value gets the columns that the other parts leave, one of them as a blank in front of it.  Parts
are measured in characters.
-/

namespace RepoBrowser

open Text

structure Status where
  key : String := ""
  value : String := ""
  info : String := ""
  branch : String := ""
  deriving DecidableEq, Repr

structure StatusLine where
  status : Status := {}
  width : Nat := 0
  height : Nat := 0
  deriving DecidableEq, Repr

namespace Status

/-- The key with a blank on both sides. -/
def keyText (s : Status) : List Char := ' ' :: s.key.toList ++ [' ']

/-- The information with a blank on both sides, if there is any. -/
def infoText (s : Status) : List Char :=
  if s.info.isEmpty then [] else ' ' :: s.info.toList ++ [' ']

/-- The branch with a blank behind it, if there is any. -/
def branchText (s : Status) : List Char :=
  if s.branch.isEmpty then [] else s.branch.toList ++ [' ']

/-- The columns that are left to the value, without the blank in front of it. -/
def room (s : Status) (w : Nat) : Nat :=
  w - (s.keyText.length + s.infoText.length + s.branchText.length + 1)

/-- The value, cut and padded to the columns that are left to it. -/
def valueText (s : Status) (w : Nat) : List Char :=
  ' ' :: padEnd (s.room w) (s.value.toList.take (s.room w))

def spans (s : Status) (w : Nat) : List Span :=
  [⟨s.keyText, { foreground := some .black, background := some .magenta, bold := true }⟩,
   ⟨s.valueText w, .inColour .gray⟩,
   ⟨s.infoText, .inColour .white⟩,
   ⟨s.branchText, { foreground := some .black, background := some .cyan }⟩]

end Status

namespace StatusLine

def say (l : StatusLine) (status : Status) : StatusLine := { l with status }

def setSize (l : StatusLine) (width height : Nat) : StatusLine := { l with width, height }

def baseStyle : Style := { background := some .darkGray }

def draw (l : StatusLine) (w h : Nat) : Screen := paragraph w h baseStyle [l.status.spans w]

end StatusLine

end RepoBrowser
