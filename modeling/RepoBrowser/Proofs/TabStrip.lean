import RepoBrowser.Proofs.Screen.Spans
import RepoBrowser.TabStrip

/-!
# Where the titles of the tabs are

A click is matched against running widths, and the strip is drawn from marks.  Both follow the same
characters, each of which belongs to a tab or, if it is a divider, to none.

* `strip`, `owner?` — the characters with the tabs that they belong to;
* `tabAt?_eq` — a column finds the tab that its character belongs to;
* `stripCells`, `titleRow_glyphs` — the characters are what is drawn, as far as the row is wide;
* `draw_titleRow` — they are in the first row of the area.
-/

namespace RepoBrowser.TabStrip

variable {column x : Nat}

/-- The characters of a title with the blanks on both sides. -/
def titled (t : Tab) : List (Char × Option Tab) :=
  (' ' :: (t.title.toList ++ [' '])).map fun c => (c, some t)

/-- The characters of titles with dividers between them, each with the tab that it belongs to. -/
def strip : List Tab → List (Char × Option Tab)
  | [] => []
  | [t] => titled t
  | t :: ts => titled t ++ (divider, none) :: strip ts

/-- The tab that the character in a column belongs to. -/
def owner? (tabs : List Tab) (column : Nat) : Option Tab := (strip tabs)[column]?.bind (·.2)

/-! ### Clicks -/

theorem titled_length (t : Tab) : (titled t).length = titleColumns t := by
  simp [titled, titleColumns]

theorem snd_of_mem_titled {t : Tab} : ∀ p ∈ titled t, p.2 = some t := by
  intro p hp
  obtain ⟨c, -, rfl⟩ := List.mem_map.mp hp
  rfl

theorem getElem?_titled {t : Tab} (inside : column < titleColumns t) :
    (titled t)[column]?.bind (·.2) = some t := by
  rw [← titled_length] at inside
  rw [List.getElem?_eq_getElem inside, Option.bind_some]
  exact snd_of_mem_titled _ (List.getElem_mem inside)

theorem tabFrom?_of_lt (tabs : List Tab) (left : column < x) : tabFrom? column x tabs = none := by
  induction tabs generalizing x with
  | nil => rfl
  | cons t ts ih =>
    unfold tabFrom?
    rw [if_neg (by simp; omega)]
    exact ih (by omega)

/-- **A column finds the tab that its character belongs to**, wherever the strip begins. -/
theorem tabFrom?_add (tabs : List Tab) (x column : Nat) :
    tabFrom? (x + column) x tabs = owner? tabs column := by
  induction tabs generalizing x column with
  | nil => rfl
  | cons t ts ih =>
    unfold tabFrom?
    rcases Nat.lt_or_ge column (titleColumns t) with inside | beyond
    · have titleEnd : column < (titled t).length := by rwa [titled_length]
      rw [if_pos (by simp; omega), ← getElem?_titled inside]
      cases ts with
      | nil => rfl
      | cons u us => rw [owner?, strip, List.getElem?_append_left titleEnd]; simp
    · have titleEnd : (titled t).length ≤ column := by rwa [titled_length]
      rw [if_neg (by simp; omega)]
      cases ts with
      | nil =>
        rw [owner?, strip, List.getElem?_eq_none titleEnd]
        rfl
      | cons u us =>
        rw [owner?, strip, List.getElem?_append_right titleEnd, titled_length]
        · obtain ⟨k, rfl⟩ := Nat.exists_eq_add_of_le beyond
          rw [Nat.add_sub_cancel_left]
          cases k with
          | zero => exact tabFrom?_of_lt _ (by omega)
          | succ k =>
            have after := ih (x + titleColumns t + 1) k
            rw [show x + (titleColumns t + (k + 1)) = x + titleColumns t + 1 + k by omega, after]
            rfl
        · simp

theorem tabAt?_eq (column : Nat) : tabAt? column = owner? Tab.all column := by
  have found := tabFrom?_add Tab.all 0 column
  rwa [Nat.zero_add] at found

/-- What a press of the left button asks for. -/
theorem target?_press (s : TabStrip) {m : Mouse} (pressed : m.deed = .press .left) :
    s.target? (.mouse m) = if m.row = s.row then owner? Tab.all m.column else none := by
  unfold target?
  simp only [pressed, decide_true, Bool.true_and, decide_eq_true_eq, tabAt?_eq]

/-! ### Drawing -/

/-- What is in the cells of a row of width `w` with the strip at its left. -/
def stripCells (w : Nat) : List (List Char) :=
  ((strip Tab.all).take w).map (fun p => [p.1])
    ++ List.replicate (w - (strip Tab.all).length) [' ']

theorem textMarks_glyphs (style : Style) (s : List Char) (c : Cell) :
    (textMarks style s).map (fun m => (m.on c).glyph) = s.map fun a => [a] := by
  unfold textMarks
  rw [List.map_map]
  rfl

theorem titleMarks_glyphs (active t : Tab) (c : Cell) :
    (titleMarks active t).map (fun m => (m.on c).glyph) = (titled t).map fun p => [p.1] := by
  unfold titleMarks titled
  rw [List.map_append, List.map_append]
  simp only [textMarks_glyphs, List.map_map, List.map_cons, List.map_append, List.map_nil,
    List.append_assoc]
  rfl

/-- **What is drawn are the characters of the strip.** -/
theorem marks_glyphs (active : Tab) (tabs : List Tab) (c : Cell) :
    (marks active tabs).map (fun m => (m.on c).glyph) = (strip tabs).map fun p => [p.1] := by
  induction tabs with
  | nil => rfl
  | cons t ts ih =>
    cases ts with
    | nil => exact titleMarks_glyphs active t c
    | cons u us =>
      rw [marks, strip, List.map_append, List.map_append, List.map_append, titleMarks_glyphs,
        textMarks_glyphs, ih, List.append_assoc]
      · rfl
      · simp
      · simp

theorem titleRow_glyphs (s : TabStrip) (w : Nat) :
    (s.titleRow w).map (·.glyph) = stripCells w := by
  have drawn := marks_glyphs s.active Tab.all { style := baseStyle }
  have count : (marks s.active Tab.all).length = (strip Tab.all).length := by
    simpa using congrArg List.length drawn
  unfold titleRow stripCells
  rw [overlay_blankRow, List.map_append, List.map_map, count, List.map_take, List.map_take, ← drawn]
  unfold blankRow
  rw [List.map_replicate]
  rfl

/-- The titles are in the first row of an area that has a row besides those of the frame. -/
theorem draw_titleRow (s : TabStrip) (w : Nat) {k : Nat} (roomy : 0 < k) :
    (s.draw w (k + s.frame))[0]? = some (s.titleRow w) := by
  unfold draw
  split
  · rw [getElem?_inArea (by omega)]
    rfl
  · rw [if_neg (by omega), List.getElem?_append_left, getElem?_inArea (by omega)]
    · rfl
    · rw [inArea_length]
      omega

end RepoBrowser.TabStrip
