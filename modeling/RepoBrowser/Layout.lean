/-!
# Row counts of the parts of the screen

A *frame* is the border or padding below the header and the tabs, or around the body.

* `Layout` — the six row counts;
* `Layout.chromeHeight` — all rows that are not the body's, at most the greatest 16-bit number;
* `Layout.bodyHeight` — the rows that a screen leaves to the body.
-/

namespace RepoBrowser

/-- The greatest height or width of a screen. -/
def maxExtent : Nat := 65535

/-- The row counts around the body of the active view. -/
structure Layout where
  headerHeight : Nat := 2
  headerFrame : Nat := 1
  tabsHeight : Nat := 1
  tabsFrame : Nat := 1
  statusHeight : Nat := 1
  bodyFrame : Nat := 0
  deriving DecidableEq, Repr, Inhabited

namespace Layout

def totalHeight (l : Layout) : Nat :=
  l.headerHeight + l.headerFrame + l.tabsHeight + l.tabsFrame + l.statusHeight + l.bodyFrame

/-- The rows that are not the body's, at most the greatest height. -/
def chromeHeight (l : Layout) : Nat := min l.totalHeight maxExtent

/-- The rows that a screen of `total` rows leaves to the body. -/
def bodyHeight (l : Layout) (total : Nat) : Nat := total - l.chromeHeight

theorem chromeHeight_eq {l : Layout} (h : l.totalHeight ≤ maxExtent) :
    l.chromeHeight = l.totalHeight := Nat.min_eq_left h

theorem bodyHeight_le (l : Layout) (total : Nat) : l.bodyHeight total ≤ total := Nat.sub_le _ _

end Layout

end RepoBrowser
