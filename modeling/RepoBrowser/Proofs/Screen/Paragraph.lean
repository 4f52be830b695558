import RepoBrowser.Proofs.Screen.Spans
import RepoBrowser.Proofs.Text.Visible
import RepoBrowser.Screen.Paragraph

/-!
# The rows of a paragraph

A line of a paragraph is drawn glyph by glyph up to the first that does not fit.  As long as every
glyph takes columns, the row consists of the cells of the glyphs that are drawn, and of blanks.

* `columns`, `length_inCells` — the columns that a text takes on screen;
* `fitting_append`, `columnsOf_fitting_le` — the glyphs that are drawn;
* `rowOfGlyphs_glyphs` — their row;
* `prefix_lineRow` — what fits at the beginning of a line stands there;
* `lineRow_full_iff` — a line is its row exactly if it takes all columns of it.
-/

namespace RepoBrowser

open Text Text.Width Text.Grapheme

variable {gs front back : List Glyph} {line : List Span} {text : List Char} {room w : Nat}

/-! ### Columns -/

/-- The columns that the glyphs of a text take on screen. -/
def columns (text : List Char) : Nat := Number.total ((glyphs text).map width)

/-- A text of characters that take one column each. -/
theorem columns_of_singleWidth (h : SingleWidth text) : columns text = text.length :=
  (tiles_of_singleWidth h).sum.trans h.width_eq

/-- The glyphs of visible characters take columns. -/
theorem width_pos_of_mem_glyphs (visible : ∀ c ∈ text, IsVisible c) {g : List Char}
    (hg : g ∈ glyphs text) : 0 < width g := by
  have cluster : g ∈ clusters text := (List.mem_filter.mp hg).1
  have part : ∀ c ∈ g, c ∈ text := fun c hc =>
    clusters_flatten text ▸ List.mem_flatten_of_mem cluster hc
  exact width_pos_of_visible (fun c hc => visible c (part c hc)) (ne_nil_of_mem_clusters cluster)

/-! ### Glyphs that are drawn -/

/-- The cells of a glyph: those behind the first are left as they are. -/
def Glyph.cells (g : Glyph) : List (List Char) := g.text :: List.replicate (g.columns - 1) [' ']

theorem columnsOf_append (front back : List Glyph) :
    columnsOf (front ++ back) = columnsOf front + columnsOf back := by
  unfold columnsOf
  rw [List.map_append, Number.total_append]

theorem columnsOf_cons (g : Glyph) (gs : List Glyph) :
    columnsOf (g :: gs) = g.columns + columnsOf gs := rfl

theorem length_flatMap_cells (pos : ∀ g ∈ gs, 0 < g.columns) :
    (gs.flatMap Glyph.cells).length = columnsOf gs := by
  induction gs with
  | nil => rfl
  | cons g gs ih =>
    have wide := pos g List.mem_cons_self
    rw [List.flatMap_cons, List.length_append, ih fun h hh => pos h (List.mem_cons_of_mem g hh),
      columnsOf_cons, Glyph.cells, List.length_cons, List.length_replicate]
    omega

/-- What fits is drawn, and what is behind it as far as columns are left. -/
theorem fitting_append (fits : columnsOf front ≤ room) (inside : room ≤ w) (back : List Glyph) :
    fitting w room (front ++ back) = front ++ fitting w (room - columnsOf front) back := by
  induction front generalizing room with
  | nil => rfl
  | cons g front ih =>
    rw [columnsOf_cons] at fits ⊢
    rw [List.cons_append, fitting, if_neg (by omega), if_neg (by omega), ih (by omega) (by omega),
      Nat.sub_sub]
    rfl

/-- What is drawn fits. -/
theorem columnsOf_fitting_le (w room : Nat) (gs : List Glyph) :
    columnsOf (fitting w room gs) ≤ room := by
  fun_induction fitting w room gs with
  | case1 => exact Nat.zero_le _
  | case2 room g gs wide ih => exact ih
  | case3 room g gs fits full => exact Nat.zero_le _
  | case4 room g gs fits left ih =>
    rw [columnsOf_cons]
    omega

theorem mem_of_mem_fitting {g : Glyph} (hg : g ∈ fitting w room gs) : g ∈ gs := by
  fun_induction fitting w room gs with
  | case1 => exact hg
  | case2 room h gs wide ih => exact List.mem_cons_of_mem h (ih hg)
  | case3 room h gs fits full => exact absurd hg List.not_mem_nil
  | case4 room h gs fits left ih =>
    rcases List.mem_cons.mp hg with rfl | hg
    · exact List.mem_cons_self
    · exact List.mem_cons_of_mem h (ih hg)

/-! ### Rows -/

/-- The marks of a glyph make its cells. -/
theorem map_marks (pos : ∀ g ∈ gs, 0 < g.columns) (style : Style) :
    ((gs.flatMap Glyph.marks).map (Mark.on · { style })).map (·.glyph)
      = gs.flatMap Glyph.cells := by
  rw [List.map_map, List.map_flatMap]
  refine List.flatMap_congr fun g hg => ?_
  unfold Glyph.marks glyphMarks
  rw [if_neg (Nat.ne_of_gt (pos g hg)), List.map_cons, List.map_replicate]
  rfl

/-- **The row of glyphs that fit.** -/
theorem rowOfGlyphs_glyphs (pos : ∀ g ∈ gs, 0 < g.columns) (fits : columnsOf gs ≤ w)
    (style : Style) :
    (rowOfGlyphs w style gs).map (·.glyph)
      = gs.flatMap Glyph.cells ++ List.replicate (w - columnsOf gs) [' '] := by
  have marks := congrArg List.length (map_marks pos style)
  rw [List.length_map, List.length_map, length_flatMap_cells pos] at marks
  unfold rowOfGlyphs blankRow
  rw [← blankRow, overlay_blankRow, List.take_of_length_le (marks ▸ fits), List.map_append,
    map_marks pos, marks, blankRow, List.map_replicate]

theorem lineGlyphs_cells (line : List Span) :
    (lineGlyphs line).flatMap Glyph.cells = line.flatMap fun s => inCells s.text := by
  unfold lineGlyphs
  rw [List.flatMap_assoc]
  refine List.flatMap_congr fun s _ => ?_
  rw [List.flatMap_map]
  rfl

theorem columnsOf_lineGlyphs (line : List Span) :
    columnsOf (lineGlyphs line) = Number.total (line.map fun s => columns s.text) := by
  induction line with
  | nil => rfl
  | cons s line ih =>
    have first : columnsOf ((glyphs s.text).map fun g => (⟨g, s.style⟩ : Glyph))
        = columns s.text := by
      unfold columnsOf columns
      rw [List.map_map]
      rfl
    unfold lineGlyphs at ih ⊢
    rw [List.flatMap_cons, columnsOf_append, first, ih]
    rfl

/-- The glyphs of a line of visible characters take columns. -/
theorem columns_pos_of_mem_lineGlyphs (visible : ∀ s ∈ line, ∀ c ∈ s.text, IsVisible c) {g : Glyph}
    (hg : g ∈ lineGlyphs line) : 0 < g.columns := by
  obtain ⟨s, hs, hg⟩ := List.mem_flatMap.mp hg
  obtain ⟨t, ht, rfl⟩ := List.mem_map.mp hg
  exact width_pos_of_mem_glyphs (visible s hs) ht

/-- **What fits at the beginning of a line stands there.** -/
theorem prefix_lineRow (first rest : List Span)
    (visible : ∀ s ∈ first ++ rest, ∀ c ∈ s.text, IsVisible c)
    (fits : Number.total (first.map fun s => columns s.text) ≤ w) (style : Style) :
    (first.flatMap fun s => inCells s.text) <+:
      (lineRow w style (first ++ rest)).map (·.glyph) := by
  have split : lineGlyphs (first ++ rest) = lineGlyphs first ++ lineGlyphs rest :=
    List.flatMap_append
  rw [← columnsOf_lineGlyphs] at fits
  let drawn := fitting w (w - columnsOf (lineGlyphs first)) (lineGlyphs rest)
  have pos : ∀ g ∈ lineGlyphs first ++ drawn, 0 < g.columns := by
    intro g hg
    refine columns_pos_of_mem_lineGlyphs visible ?_
    rw [split]
    rcases List.mem_append.mp hg with hg | hg
    · exact List.mem_append_left _ hg
    · exact List.mem_append_right _ (mem_of_mem_fitting hg)
  have inside : columnsOf (lineGlyphs first ++ drawn) ≤ w := by
    have left : columnsOf drawn ≤ w - columnsOf (lineGlyphs first) := columnsOf_fitting_le _ _ _
    rw [columnsOf_append]
    omega
  unfold lineRow
  rw [split, fitting_append fits (Nat.le_refl w), rowOfGlyphs_glyphs pos inside,
    List.flatMap_append, lineGlyphs_cells, List.append_assoc]
  exact List.prefix_append _ _

/-- **A line is its row** exactly if it takes all columns of the row. -/
theorem lineRow_full_iff (visible : ∀ s ∈ line, ∀ c ∈ s.text, IsVisible c) (style : Style) :
    (lineRow w style line).map (·.glyph) = (line.flatMap fun s => inCells s.text) ↔
      Number.total (line.map fun s => columns s.text) = w := by
  have pos : ∀ g ∈ lineGlyphs line, 0 < g.columns := fun g => columns_pos_of_mem_lineGlyphs visible
  rw [← columnsOf_lineGlyphs, ← lineGlyphs_cells]
  constructor
  · intro same
    have long := congrArg List.length same
    rw [List.length_map, lineRow, rowOfGlyphs_length, length_flatMap_cells pos] at long
    exact long.symm
  · intro full
    have all := fitting_append full.le (Nat.le_refl w) []
    rw [List.append_nil, fitting, List.append_nil] at all
    unfold lineRow
    rw [all, rowOfGlyphs_glyphs pos full.le, full, Nat.sub_self, List.replicate_zero,
      List.append_nil]

end RepoBrowser
