import Mathlib.Data.Nat.Dist
import RepoBrowser.Screen.Rows

/-!
# A window on a list

A list has a selected row, and it is shown through a window: as many rows as there is room for, at
least one, from an offset on.

* `SelectionInView` — the selection is a row of the list, and the window holds it;
* `follow_inView`, `SelectionInView.step`, `SelectionInView.grow` — other windows, selections and
  lists for which it is so;
* `NearestWindow`, `follow_nearest` — of all windows that hold the selection, the one that is
  nearest to an earlier window;
* `Placement`, `Placement.IsSteady` — ways to draw a list; a steady one moves the wanted window only
  if the selection is outside it;
* `Screen.ShowsFrom`, `listOfRowsBy_shows` — what is then on screen: the rows of the window.

Nothing is assumed of a steady way to draw about windows that do not hold the selection.
-/

namespace RepoBrowser

variable {length offset selected rows : Nat}

/-! ### The selection -/

/-- The selection is a row of the list, and in the window. -/
structure SelectionInView (length offset selected rows : Nat) : Prop where
  /-- In an empty list the selection is where the first row would be. -/
  inside : selected < length ∨ length = 0 ∧ selected = 0
  above : offset ≤ selected
  below : selected < offset + max rows 1

theorem follow_inView (inside : selected < length ∨ length = 0 ∧ selected = 0) (offset rows : Nat) :
    SelectionInView length (follow offset selected rows) selected rows :=
  ⟨inside, follow_le offset selected rows, lt_follow_add offset selected rows⟩

theorem top_inView (length rows : Nat) : SelectionInView length 0 0 rows := by
  refine ⟨?_, Nat.le_refl 0, by omega⟩
  rcases Nat.eq_zero_or_pos length with empty | some
  · exact .inr ⟨empty, rfl⟩
  · exact .inl some

/-- A move selects a row of the list, and the window follows. -/
theorem SelectionInView.step (v : SelectionInView length offset selected rows) (m : Move)
    (page : Nat) : SelectionInView length (follow offset (step selected length m page) rows)
      (step selected length m page) rows := by
  refine follow_inView ?_ offset rows
  rcases v.inside with inside | ⟨empty, -⟩
  · exact .inl (step_lt m page inside)
  · right
    refine ⟨empty, ?_⟩
    unfold RepoBrowser.step
    rw [if_pos empty]

/-- Rows that are added to the list are out of the way. -/
theorem SelectionInView.grow (v : SelectionInView length offset selected rows) (more : Nat) :
    SelectionInView (length + more) offset selected rows := by
  refine ⟨?_, v.above, v.below⟩
  rcases v.inside with inside | ⟨-, top⟩
  · exact .inl (Nat.lt_add_right more inside)
  · rcases Nat.eq_zero_or_pos (length + more) with empty | some
    · exact .inr ⟨empty, top⟩
    · exact .inl (top ▸ some)

theorem SelectionInView.lt (v : SelectionInView length offset selected rows) (some : length ≠ 0) :
    selected < length := by
  rcases v.inside with inside | ⟨empty, -⟩
  · exact inside
  · exact absurd empty some

/-! ### The nearest window -/

/-- This window holds the selection.  It is the one at `offset` if that holds the selection, and else
none that does is nearer to it. -/
structure NearestWindow (offset selected rows new : Nat) : Prop where
  above : new ≤ selected
  below : selected < new + max rows 1
  stays : offset ≤ selected → selected < offset + max rows 1 → new = offset
  least : ∀ o, o ≤ selected → selected < o + max rows 1 → offset.dist new ≤ offset.dist o

/-- A window that is nearer than any other stays where it is if it can. -/
theorem nearestWindow_of_least {new : Nat} (above : new ≤ selected)
    (below : selected < new + max rows 1)
    (least : ∀ o, o ≤ selected → selected < o + max rows 1 → offset.dist new ≤ offset.dist o) :
    NearestWindow offset selected rows new := by
  refine ⟨above, below, fun held under => ?_, least⟩
  have none_moved := least offset held under
  rw [Nat.dist_self] at none_moved
  exact (Nat.eq_of_dist_eq_zero (Nat.le_zero.mp none_moved)).symm

theorem SelectionInView.nearest (v : SelectionInView length offset selected rows) :
    NearestWindow offset selected rows offset := by
  refine nearestWindow_of_least v.above v.below fun o _ _ => ?_
  rw [Nat.dist_self]
  exact Nat.zero_le _

/-- The first row is in no other window than that at the top. -/
theorem top_nearest (offset rows : Nat) : NearestWindow offset 0 rows 0 := by
  refine nearestWindow_of_least (Nat.le_refl 0) (by omega) fun o top _ => ?_
  rw [Nat.le_zero.mp top]

/-- **The window follows the selection by the least amount.**  It is pulled up until the selection
is its first row, or down until it is the last. -/
theorem follow_nearest (offset selected rows : Nat) :
    NearestWindow offset selected rows (follow offset selected rows) := by
  refine nearestWindow_of_least (follow_le offset selected rows)
    (lt_follow_add offset selected rows) fun o above below => ?_
  unfold follow
  split
  · rename_i higher
    rw [Nat.dist_eq_sub_of_le_right (Nat.le_of_lt higher), Nat.dist_eq_sub_of_le_right (by omega)]
    omega
  · split
    · rename_i lower
      rw [Nat.dist_eq_sub_of_le (by omega), Nat.dist_eq_sub_of_le (by omega)]
      omega
    · rw [Nat.dist_self]
      exact Nat.zero_le _

/-! ### What is on screen -/

/-- A way to place a list on a screen: its first row there, given the wanted one, the selected row,
the number of rows, and the number of those for which there is room. -/
abbrev Placement := Nat → Nat → Nat → Nat → Nat

/-- The wanted window is moved only if the selection is outside it. -/
def Placement.IsSteady (p : Placement) : Prop :=
  ∀ offset selected length rows, 0 < rows → selected < length → offset ≤ selected →
    selected < offset + rows → p offset selected length rows = offset

theorem windowStart_isSteady : Placement.IsSteady windowStart := by
  intro offset selected length rows room inside above below
  exact windowStart_eq inside above (by omega)

/-- The part of a list that is on screen, in the place that it is given. -/
def listOfRowsBy (p : Placement) (w h offset selected : Nat) (items : List (List Span)) : Screen :=
  let first := p offset selected items.length h
  let selected := min selected (items.length - 1)
  inArea w h .plain
    (((items.drop first).take h).mapIdx fun i spans => listRow w (first + i = selected) spans)

/-- The screen shows rows of a list from `first` on, and empty ones below the last of them. -/
def Screen.ShowsFrom (s : Screen) (w rows first : Nat) (row : Nat → Option Row) : Prop :=
  s.length = rows ∧ ∀ i < rows, s[i]? = some ((row (first + i)).getD (blankRow w .plain))

/-- What is drawn in an area, and empty rows where nothing is drawn. -/
theorem getElem?_inArea {w h i : Nat} {style : Style} {drawn : List Row} (low : i < h) :
    (inArea w h style drawn)[i]? = some (drawn[i]?.getD (blankRow w style)) := by
  unfold inArea
  rcases Nat.lt_or_ge i drawn.length with inside | below
  · have taken : i < (drawn.take h).length := by
      rw [List.length_take]
      omega
    rw [List.getElem?_append_left taken, List.getElem?_take_of_lt low,
      List.getElem?_eq_getElem inside]
    rfl
  · have passed : (drawn.take h).length = drawn.length := by
      rw [List.length_take]
      omega
    rw [List.getElem?_append_right (passed ▸ below), passed, List.getElem?_eq_none below]
    exact List.getElem?_replicate_of_lt (by omega)

/-- **A list is shown from the wanted row on**, with the selected row marked, when the wanted window
holds it. -/
theorem listOfRowsBy_shows {p : Placement} (steady : p.IsSteady) (w : Nat)
    {items : List (List Span)} (v : SelectionInView items.length offset selected rows)
    (room : 0 < rows) (some : items ≠ []) :
    Screen.ShowsFrom (listOfRowsBy p w rows offset selected items) w rows offset
      fun j => items[j]?.map (listRow w (j = selected)) := by
  have inside : selected < items.length := v.lt (mt List.length_eq_zero_iff.mp some)
  have below : selected < offset + rows := by
    have below := v.below
    omega
  have first : p offset selected items.length rows = offset :=
    steady _ _ _ _ room inside v.above below
  have marked : min selected (items.length - 1) = selected := by omega
  refine ⟨inArea_length w rows .plain _, fun i low => ?_⟩
  unfold listOfRowsBy
  rw [getElem?_inArea low, first, marked, List.getElem?_mapIdx, List.getElem?_take_of_lt low,
    List.getElem?_drop]

end RepoBrowser
