import RepoBrowser.Input

/-!
# Moving through lists and texts

* `Move` — what a key or a turn of the wheel asks for;
* `Move.ofKey?`, `Move.ofWheel?`, `Move.ofInput?` — the keys and turns that ask for something;
* `Input.isKeyBack` — the keys that lead out of what is open;
* `step` — the row that a move selects in a list;
* `follow` — the window of a list, moved as little as possible to hold a row.

The lemmas say that `step` stays inside the list, that `follow` shows the row, and that it stays
put when the row is shown already.
-/

namespace RepoBrowser

/-- What a key or a turn of the wheel asks for. -/
inductive Move where
  | up | down | pageUp | pageDown | top | bottom
  /-- Into what is selected. -/
  | enter
  /-- Out of what is shown. -/
  | back
  deriving DecidableEq, Repr

def Move.ofKey? (k : Key) : Option Move :=
  match k.code with
  | .character 'd' => if k.withControlOnly then some .pageDown else none
  | .character 'u' => if k.withControlOnly then some .pageUp else none
  | .character 'j' | .down => some .down
  | .character 'k' | .up => some .up
  | .pageDown => some .pageDown
  | .pageUp => some .pageUp
  | .character 'g' | .home => some .top
  | .character 'G' | .final => some .bottom
  | .character 'l' | .enter | .right => some .enter
  | .character 'h' | .escape | .backspace | .left => some .back
  | _ => none

/-- What a turn of the wheel asks for: one row up or down. -/
def Move.ofWheel? (m : Mouse) : Option Move :=
  match m.deed with
  | .scroll .down => some .down
  | .scroll .up => some .up
  | _ => none

def Move.ofInput? : Input → Option Move
  | .key k => Move.ofKey? k
  | .mouse m => Move.ofWheel? m

/-- Whether an input is a key that leads out of what is open. -/
def Input.isKeyBack : Input → Bool
  | .key k => Move.ofKey? k = some .back
  | .mouse _ => false

/-- The row that a move selects in a list of `length` rows of which `page` fit on the screen. -/
def step (selected length : Nat) (move : Move) (page : Nat) : Nat :=
  if length = 0 then 0
  else
    match move with
    | .up => selected - 1
    | .down => min (selected + 1) (length - 1)
    | .pageUp => selected - max page 1
    | .pageDown => min (selected + max page 1) (length - 1)
    | .top => 0
    | .bottom => length - 1
    | .enter | .back => selected

/-- The first row of a window of `rows` rows, at least one, that holds the selected row: `offset`
if it can stay, else the nearest that will do. -/
def follow (offset selected rows : Nat) : Nat :=
  if selected < offset then selected
  else if offset + max rows 1 ≤ selected then selected + 1 - max rows 1
  else offset

theorem step_lt {selected length : Nat} (move : Move) (page : Nat) (h : selected < length) :
    step selected length move page < length := by
  unfold step
  split
  · omega
  · cases move <;> dsimp only <;> omega

theorem follow_le (offset selected rows : Nat) : follow offset selected rows ≤ selected := by
  unfold follow
  split
  · exact Nat.le_refl _
  · split <;> omega

theorem lt_follow_add (offset selected rows : Nat) :
    selected < follow offset selected rows + max rows 1 := by
  unfold follow
  split
  · omega
  · split <;> omega

/-- A window that holds the row stays. -/
theorem follow_eq_self {offset selected rows : Nat} (h : offset ≤ selected)
    (h' : selected < offset + max rows 1) : follow offset selected rows = offset := by
  unfold follow
  rw [if_neg (by omega), if_neg (by omega)]

end RepoBrowser
