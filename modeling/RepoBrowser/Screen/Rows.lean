import RepoBrowser.Navigation
import RepoBrowser.Screen.Line
import RepoBrowser.Screen.Paragraph

/-!
# Lists of rows with a selection

* `selectionTint` — what marks the selected row;
* `windowStart` — the first row of the list on screen;
* `listOfRows` — the part of a list that is on screen, one line of spans a row.
-/

namespace RepoBrowser

/-- What marks the selected row. -/
def selectionTint : Style := { background := some .darkGray }

/-- The first row on screen of a list of `length` rows: that of the wanted window, which is moved
if it does not hold the selected row. -/
def windowStart (offset selected length rows : Nat) : Nat :=
  follow (min offset (length - 1)) (min selected (length - 1)) rows

def listRow (w : Nat) (isSelected : Bool) (spans : List Span) : Row :=
  if isSelected then (Row.ofSpans w spans).tinted selectionTint else Row.ofSpans w spans

/-- The part of a list that is on screen, from the window that begins at `offset`. -/
def listOfRows (w h offset selected : Nat) (items : List (List Span)) : Screen :=
  let first := windowStart offset selected items.length h
  let selected := min selected (items.length - 1)
  inArea w h .plain
    (((items.drop first).take h).mapIdx fun i spans => listRow w (first + i = selected) spans)

theorem windowStart_eq {offset selected length rows : Nat} (h : selected < length)
    (h₁ : offset ≤ selected) (h₂ : selected < offset + max rows 1) :
    windowStart offset selected length rows = offset := by
  unfold windowStart
  rw [Nat.min_eq_left (by omega), Nat.min_eq_left (by omega), follow_eq_self h₁ h₂]

end RepoBrowser
