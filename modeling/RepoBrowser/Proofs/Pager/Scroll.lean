import Mathlib.Algebra.Order.Field.Rat
import Mathlib.Algebra.Order.Field.Basic
import Mathlib.Logic.Function.Iterate
import RepoBrowser.Proofs.Pager.Text
import RepoBrowser.Proofs.Screen.Window

/-!
# Scrolling stays within the text

Texts come and go, the window over them has one size and then another, and at any time it is
scrolled.  It never goes below the last line as long as there are lines above it.

* `Operation`, `operate`, `Arises` — what is done with a pager, and the pagers that come of it;
* `Arises.offset_le` — the offset of each of them is at most the greatest;
* `Input.direction?`, `Scroll`, `input_scroll` — where an input scrolls to;
* `scrolled` — the exact part of the text that has been scrolled through;
* `OnScreen`, `draw_shows` — the lines in the window, and those that are drawn;
* `onScreen_of_down`, `onScreen_of_up` — every line can be brought to the window line by line.
-/

namespace RepoBrowser

/-! ### Directions -/

/-- Where a move leads in a text. -/
def Move.direction? : Move → Option Direction
  | .down | .pageDown | .bottom => some .down
  | .up | .pageUp | .top => some .up
  | .enter | .back => none

/-- Where an input scrolls to. -/
def Input.direction? (i : Input) : Option Direction := (Move.ofInput? i).bind Move.direction?

/-- The row of a line of a text. -/
def TextLine.row (w : Nat) (l : TextLine) : Row := lineRow w .plain [⟨l.text, l.style⟩]

namespace Pager

variable {p q : Pager} {i : Input} {j n w : Nat}

/-! ### What is done with a pager -/

/-- What is done with a pager. -/
inductive Operation where
  | input (i : Input)
  | resized (width height : Nat)
  /-- A text has come. -/
  | came (content path : String)
  /-- A text is waited for. -/
  | awaited
  | missed (reason : String)
  deriving DecidableEq, Repr

/-- A pager with which something has been done. -/
def operate (p : Pager) : Operation → Pager
  | .input i => p.input i
  | .resized width height => p.setSize width height
  | .came content path => p.setContent content path
  | .awaited => p.setLoading
  | .missed reason => p.setError reason

/-- The pagers that come of a new one. -/
inductive Arises : Pager → Prop
  | new (placeholder : String) : Arises { placeholder }
  | operate {p : Pager} (before : Arises p) (o : Operation) : Arises (p.operate o)

/-- What an input does: the window moves in a direction that the input has, or stays. -/
inductive Scroll (p : Pager) (i : Input) : Pager → Prop
  | lower (n : Nat) (down : i.direction? = some .down) : Scroll p i (p.down n)
  | higher (n : Nat) (up : i.direction? = some .up) : Scroll p i (p.up n)
  | stay (neither : i.direction? = none) : Scroll p i p

theorem bottom_eq (p : Pager) : { p with offset := p.maxOffset } = p.down p.maxOffset := by
  unfold down
  rw [Nat.min_eq_right (Nat.le_add_left _ _)]

theorem toTop_eq (p : Pager) : p.toTop = p.up p.offset := by
  unfold toTop up
  rw [Nat.sub_self]

theorem input_key (p : Pager) (k : Key) :
    p.input (.key k) = ((Move.ofKey? k).bind p.move?).getD p := rfl

theorem key_scroll (p : Pager) (k : Key) : p.Scroll (.key k) (p.input (.key k)) := by
  rw [input_key]
  cases asked : Move.ofKey? k with
  | none => exact .stay (congrArg (Option.bind · Move.direction?) asked)
  | some m =>
    have direction : (Input.key k).direction? = m.direction? :=
      congrArg (Option.bind · Move.direction?) asked
    cases m with
    | down => exact .lower 1 direction
    | pageDown => exact .lower p.page direction
    | bottom =>
      show p.Scroll (.key k) { p with offset := p.maxOffset }
      rw [bottom_eq]
      exact .lower p.maxOffset direction
    | up => exact .higher 1 direction
    | pageUp => exact .higher p.page direction
    | top =>
      show p.Scroll (.key k) p.toTop
      rw [toTop_eq]
      exact .higher p.offset direction
    | enter | back => exact .stay direction

theorem mouse_scroll (p : Pager) (m : Mouse) : p.Scroll (.mouse m) (p.input (.mouse m)) := by
  obtain ⟨deed, column, row⟩ := m
  cases deed with
  | scroll d =>
    cases d with
    | down => exact .lower wheelLines rfl
    | up => exact .higher wheelLines rfl
    | left | right => exact .stay rfl
  | _ => exact .stay rfl

/-- **Every input scrolls down, up or not at all.** -/
theorem input_scroll (p : Pager) (i : Input) : p.Scroll i (p.input i) := by
  cases i with
  | key k => exact p.key_scroll k
  | mouse m => exact p.mouse_scroll m

/-! ### The offset -/

theorem Scroll.maxOffset_eq (s : Scroll p i q) : q.maxOffset = p.maxOffset := by
  cases s <;> rfl

theorem Scroll.offset_le (s : Scroll p i q) (h : p.offset ≤ p.maxOffset) :
    q.offset ≤ q.maxOffset := by
  cases s with
  | lower n => exact Nat.min_le_right _ _
  | higher n => exact (Nat.sub_le _ _).trans h
  | stay => exact h

theorem offset_le_of_operate (h : p.offset ≤ p.maxOffset) (o : Operation) :
    (p.operate o).offset ≤ (p.operate o).maxOffset := by
  cases o with
  | input i => exact (p.input_scroll i).offset_le h
  | resized width height => exact Nat.min_le_right _ _
  | came | awaited => exact Nat.zero_le _
  | missed => exact h

/-- **The window never goes below the last line** while there are lines above it. -/
theorem Arises.offset_le (a : Arises p) : p.offset ≤ p.maxOffset := by
  induction a with
  | new => exact Nat.zero_le _
  | operate _ o ih => exact offset_le_of_operate ih o

/-! ### How far the text has been scrolled -/

/-- The part of the text that has been scrolled through; all of it if it fits. -/
def scrolled (p : Pager) : ℚ := p.ratio.1 / p.ratio.2

theorem scrolled_eq_one (fits : p.maxOffset = 0) : p.scrolled = 1 := by
  unfold scrolled ratio
  rw [if_pos fits]
  exact div_one _

theorem scrolled_eq_div (long : p.maxOffset ≠ 0) :
    p.scrolled = ((min p.offset p.maxOffset : Nat) : ℚ) / p.maxOffset := by
  unfold scrolled ratio
  rw [if_neg long]

theorem scrolled_eq (h : p.offset ≤ p.maxOffset) :
    p.scrolled = if p.lines.length ≤ p.height then 1
      else (p.offset : ℚ) / (p.lines.length - p.height : Nat) := by
  split
  · rename_i fits
    exact scrolled_eq_one (Nat.sub_eq_zero_of_le fits)
  · rename_i long
    rw [scrolled_eq_div (Nat.sub_ne_zero_of_lt (Nat.lt_of_not_le long)), Nat.min_eq_left h]
    rfl

theorem scrolled_nonneg (p : Pager) : 0 ≤ p.scrolled :=
  div_nonneg (Nat.cast_nonneg _) (Nat.cast_nonneg _)

theorem scrolled_le_one (p : Pager) : p.scrolled ≤ 1 := by
  by_cases fits : p.maxOffset = 0
  · exact (scrolled_eq_one fits).le
  · rw [scrolled_eq_div fits, div_le_one (Nat.cast_pos.mpr (Nat.pos_of_ne_zero fits)), Nat.cast_le]
    exact Nat.min_le_right _ _

/-- **A window further down is scrolled further.** -/
theorem scrolled_le_scrolled (same : q.maxOffset = p.maxOffset) (lower : p.offset ≤ q.offset) :
    p.scrolled ≤ q.scrolled := by
  by_cases fits : p.maxOffset = 0
  · rw [scrolled_eq_one fits, scrolled_eq_one (same.trans fits)]
  · rw [scrolled_eq_div fits, scrolled_eq_div (same ▸ fits), same]
    refine div_le_div_of_nonneg_right ?_ (Nat.cast_nonneg _)
    rw [Nat.cast_le]
    omega

theorem Scroll.scrolled_le (s : Scroll p i q) (h : p.offset ≤ p.maxOffset)
    (down : i.direction? = some .down) : p.scrolled ≤ q.scrolled := by
  refine scrolled_le_scrolled s.maxOffset_eq ?_
  cases s with
  | lower n => exact Nat.le_min.mpr ⟨Nat.le_add_right _ _, h⟩
  | higher n up => exact nomatch down.symm.trans up
  | stay => exact Nat.le_refl _

theorem Scroll.le_scrolled (s : Scroll p i q) (up : i.direction? = some .up) :
    q.scrolled ≤ p.scrolled := by
  refine scrolled_le_scrolled s.maxOffset_eq.symm ?_
  cases s with
  | lower n down => exact nomatch up.symm.trans down
  | higher n => exact Nat.sub_le _ _
  | stay => exact Nat.le_refl _

/-! ### What is in the window -/

/-- A line is in the window. -/
def OnScreen (p : Pager) (j : Nat) : Prop := p.offset ≤ j ∧ j < p.offset + p.height

/-- **All has been scrolled through exactly when the last line is in the window**, or all of them
are. -/
theorem scrolled_eq_one_iff (h : p.offset ≤ p.maxOffset) (room : 0 < p.height) :
    p.scrolled = 1 ↔ p.lines.length ≤ p.height ∨ p.OnScreen (p.lines.length - 1) := by
  unfold OnScreen
  have greatest : p.maxOffset = p.lines.length - p.height := rfl
  by_cases fits : p.maxOffset = 0
  · exact iff_of_true (scrolled_eq_one fits) (.inl (Nat.sub_eq_zero_iff_le.mp fits))
  · have positive : (0 : ℚ) < p.maxOffset := Nat.cast_pos.mpr (Nat.pos_of_ne_zero fits)
    rw [scrolled_eq_div fits, Nat.min_eq_left h, div_eq_one_iff_eq positive.ne', Nat.cast_inj]
    omega

/-- A window that does not show all lines has no room left. -/
theorem lt_length_of_hidden (h : p.offset ≤ p.maxOffset)
    (hidden : ∃ j < p.lines.length, ¬ p.OnScreen j) (inside : n < p.height) :
    p.offset + n < p.lines.length := by
  obtain ⟨j, line, away⟩ := hidden
  have greatest : p.maxOffset = p.lines.length - p.height := rfl
  unfold OnScreen at away
  omega

/-- **A text is shown from the offset on.** -/
theorem draw_shows (fine : p.error = none) (here : p.loading = false) (some : p.lines ≠ [])
    (w h : Nat) :
    Screen.ShowsFrom (p.draw w h) w h p.offset fun j => p.lines[j]?.map (·.row w) := by
  have drawn : p.draw w h =
      paragraph w h .plain ((p.visible h).map fun l => [⟨l.text, l.style⟩]) := by
    unfold draw
    rw [fine, here]
    exact if_neg (mt List.isEmpty_iff.mp some)
  rw [drawn]
  refine ⟨inArea_length w h .plain _, fun i low => ?_⟩
  unfold paragraph visible
  rw [getElem?_inArea low, List.getElem?_map, List.getElem?_take_of_lt low, List.getElem?_map,
    List.getElem?_take_of_lt low, List.getElem?_drop, Option.map_map]
  rfl

/-- **While lines are hidden each row shows one.** -/
theorem draw_of_hidden (fine : p.error = none) (here : p.loading = false)
    (h : p.offset ≤ p.maxOffset) (hidden : ∃ j < p.lines.length, ¬ p.OnScreen j)
    (inside : n < p.height) :
    ∃ l, p.lines[p.offset + n]? = some l ∧ (p.draw w p.height)[n]? = some (l.row w) := by
  have line : p.offset + n < p.lines.length := lt_length_of_hidden h hidden inside
  have found : p.lines[p.offset + n]? = some p.lines[p.offset + n] :=
    List.getElem?_eq_getElem line
  obtain ⟨-, rows⟩ :=
    draw_shows fine here (List.ne_nil_of_length_pos (Nat.zero_lt_of_lt line)) w p.height
  refine ⟨_, found, ?_⟩
  rw [rows n inside]
  dsimp only
  rw [found]
  rfl

/-- Where there is no text, the placeholder is shown. -/
theorem draw_of_lines_eq_nil (fine : p.error = none) (here : p.loading = false)
    (none : p.lines = []) (w h : Nat) :
    p.draw w h = plainParagraph w h (.inColour .gray) p.placeholder.toList := by
  unfold draw
  rw [fine, here, none]
  rfl

/-! ### Every line can be reached -/

theorem down_down (p : Pager) (m n : Nat) : (p.down m).down n = p.down (m + n) := by
  unfold down maxOffset
  congr 1
  dsimp only
  omega

theorem up_up (p : Pager) (m n : Nat) : (p.up m).up n = p.up (m + n) := by
  unfold up
  rw [Nat.sub_sub]

theorem input_key_down {k : Key} (down : Move.ofKey? k = some .down) (p : Pager) :
    p.input (.key k) = p.down 1 := by
  rw [input_key, down]
  rfl

theorem input_key_up {k : Key} (up : Move.ofKey? k = some .up) (p : Pager) :
    p.input (.key k) = p.up 1 := by
  rw [input_key, up]
  rfl

/-- **A key that asks for one line down, pressed often enough, brings every line below.** -/
theorem onScreen_of_down {k : Key} (down : Move.ofKey? k = some .down) (h : p.offset ≤ p.maxOffset)
    (room : 0 < p.height) (inside : j < p.lines.length) (below : p.offset ≤ j) :
    ((fun q : Pager => q.input (.key k))^[j + 1 - p.offset - p.height] p).OnScreen j := by
  have presses : ∀ n, (fun q : Pager => q.input (.key k))^[n] p = p.down n := by
    intro n
    induction n with
    | zero =>
      show p = { p with offset := min (p.offset + 0) p.maxOffset }
      rw [Nat.add_zero, Nat.min_eq_left h]
    | succ n ih => rw [Function.iterate_succ_apply', ih, input_key_down down, down_down]
  rw [presses]
  show min (p.offset + (j + 1 - p.offset - p.height)) (p.lines.length - p.height) ≤ j
    ∧ j < min (p.offset + (j + 1 - p.offset - p.height)) (p.lines.length - p.height) + p.height
  have greatest : p.offset ≤ p.lines.length - p.height := h
  omega

/-- **A key that asks for one line up, pressed often enough, brings every line above.** -/
theorem onScreen_of_up {k : Key} (up : Move.ofKey? k = some .up) (room : 0 < p.height)
    (above : j ≤ p.offset) :
    ((fun q : Pager => q.input (.key k))^[p.offset - j] p).OnScreen j := by
  have presses : ∀ n, (fun q : Pager => q.input (.key k))^[n] p = p.up n := by
    intro n
    induction n with
    | zero => rfl
    | succ n ih => rw [Function.iterate_succ_apply', ih, input_key_up up, up_up]
  rw [presses]
  show p.offset - (p.offset - j) ≤ j ∧ j < p.offset - (p.offset - j) + p.height
  omega

end Pager

end RepoBrowser
