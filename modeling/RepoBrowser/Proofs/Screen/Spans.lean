import Mathlib.Data.List.Basic
import RepoBrowser.Proofs.Screen.Window
import RepoBrowser.Proofs.Text.SingleWidth

/-!
# Spans side by side

Spans are drawn one behind the other, each glyph in a cell of its own; a glyph that takes several
columns makes the cells behind it empty.  As long as every glyph takes columns, nothing is drawn
over anything else, and what does not fit is cut at the end of the row.

* `inCells`, `Span.cells` — what a text is on a row with room for it;
* `Tiles` — every glyph of a text takes columns, and together they take those of the text;
* `fittingGlyphs`, `marksFrom_of_pos` — the glyphs that are drawn, and their marks;
* `withSpansFrom_of_fits`, `withSpansFrom_printable` — a span that fits, and printable text that is
  cut;
* `Row.ofSpans_concat`, `ofSpans_table` — a row of spans of which only the last may be cut;
* `suffix_lastColumn_iff` — when the last one is not;
* `listOfRows_glyphs`, `listOfRows_table` — the rows of a list, and such rows in it.
-/

namespace RepoBrowser

open Text Text.Width Text.Grapheme

variable {s : Span} {ss : List Span} {gs : List (List Char)} {k w x : Nat}

/-! ### Cells -/

/-- The glyphs of a text, each with an empty cell for every further column that it takes. -/
def inCells (text : List Char) : List (List Char) :=
  (glyphs text).flatMap fun g => g :: List.replicate (width g - 1) [' ']

/-- A span on a row with room for it. -/
def Span.cells (s : Span) : Row :=
  (glyphs s.text).flatMap fun g => ⟨g, s.style⟩ :: List.replicate (width g - 1) {}

theorem Span.cells_glyph (s : Span) : s.cells.map (·.glyph) = inCells s.text := by
  unfold Span.cells inCells
  rw [List.map_flatMap]
  simp only [List.map_cons, List.map_replicate]

/-- Every glyph of a text takes columns, and together they take those of the text. -/
structure Tiles (text : List Char) : Prop where
  pos : ∀ g ∈ glyphs text, 0 < width g
  sum : Number.total ((glyphs text).map width) = width text

theorem total_map_length (gs : List (List Char)) :
    Number.total (gs.map List.length) = gs.flatten.length := by
  induction gs with
  | nil => rfl
  | cons g gs ih => rw [List.map_cons, Number.total_cons, ih, List.flatten_cons, List.length_append]

/-- A text of characters that take one column each has no line break. -/
theorem glyphs_of_singleWidth {text : List Char} (h : SingleWidth text) :
    glyphs text = clusters text := by
  refine List.filter_eq_self.mpr fun g hg => decide_eq_true fun feed => ?_
  have columns := h.width_of_mem_clusters hg
  rw [feed] at columns
  exact absurd columns (by decide)

theorem tiles_of_singleWidth {text : List Char} (h : SingleWidth text) : Tiles text := by
  have columns : ∀ g ∈ clusters text, width g = g.length := fun g => h.width_of_mem_clusters
  refine ⟨fun g hg => ?_, ?_⟩
  · have cluster : g ∈ clusters text := (List.mem_filter.mp hg).1
    rw [columns g cluster]
    exact List.length_pos_iff.mpr (ne_nil_of_mem_clusters cluster)
  · rw [glyphs_of_singleWidth h, List.map_congr_left columns, total_map_length, clusters_flatten,
      h.width_eq]

/-! ### Marks -/

/-- The glyphs that fit in a room, up to the first that does not. -/
def fittingGlyphs : Nat → List (List Char) → List (List Char)
  | _, [] => []
  | room, g :: gs => if room < width g then [] else g :: fittingGlyphs (room - width g) gs

theorem fittingGlyphs_eq_self (fits : Number.total (gs.map width) ≤ k) :
    fittingGlyphs k gs = gs := by
  induction gs generalizing k with
  | nil => rfl
  | cons g gs ih =>
    rw [List.map_cons, Number.total_cons] at fits
    rw [fittingGlyphs, if_neg (by omega), ih (by omega)]

theorem fittingGlyphs_eq_take (single : ∀ g ∈ gs, width g = 1) (k : Nat) :
    fittingGlyphs k gs = gs.take k := by
  induction gs generalizing k with
  | nil => exact List.take_nil.symm
  | cons g gs ih =>
    rw [fittingGlyphs, single g List.mem_cons_self]
    cases k with
    | zero => rfl
    | succ k =>
      rw [if_neg (by omega), List.take_succ_cons, Nat.add_sub_cancel,
        ih fun g' hg => single g' (List.mem_cons_of_mem g hg)]

theorem marksFrom_nil (style : Style) (room : Nat) (back : List Mark) :
    marksFrom style room [] back [] = back.reverse := by
  rw [marksFrom, List.isEmpty_nil, Bool.not_true, Bool.and_false]
  rfl

theorem marksFrom_of_lt {g : List Char} (full : k < width g) (style : Style) (back : List Mark) :
    marksFrom style k [] back (g :: gs) = back.reverse := by
  unfold marksFrom
  rw [if_pos full, List.isEmpty_nil, Bool.not_true, Bool.and_false]
  rfl

theorem marksFrom_of_le {g : List Char} (fits : width g ≤ k) (pos : 0 < width g) (style : Style)
    (back : List Mark) :
    marksFrom style k [] back (g :: gs)
      = marksFrom style (k - width g) [] ((glyphMarks g style .reset).reverse ++ back) gs := by
  have marks : (glyphMarks g style .reset).reverse ++ back
      = List.replicate (width g - 1) .reset ++ .glyph g style :: back := by
    unfold glyphMarks
    rw [List.reverse_cons, List.reverse_replicate, List.append_assoc]
    rfl
  conv_lhs => unfold marksFrom
  rw [if_neg (Nat.not_lt.mpr fits), marks]
  generalize width g = n at pos ⊢
  cases n with
  | zero => exact absurd pos (Nat.lt_irrefl 0)
  | succ n => cases back <;> rfl

/-- **Glyphs that take columns are drawn one behind the other.** -/
theorem marksFrom_of_pos (pos : ∀ g ∈ gs, 0 < width g) (style : Style) (room : Nat)
    (back : List Mark) :
    marksFrom style room [] back gs
      = back.reverse ++ (fittingGlyphs room gs).flatMap (glyphMarks · style .reset) := by
  induction gs generalizing room back with
  | nil => rw [marksFrom_nil, fittingGlyphs, List.flatMap_nil, List.append_nil]
  | cons g gs ih =>
    rw [fittingGlyphs]
    split
    · rename_i full
      rw [marksFrom_of_lt full, List.flatMap_nil, List.append_nil]
    · rename_i room_left
      rw [marksFrom_of_le (Nat.not_lt.mp room_left) (pos g List.mem_cons_self),
        ih fun g' hg => pos g' (List.mem_cons_of_mem g hg), List.reverse_append,
        List.reverse_reverse, List.append_assoc, List.flatMap_cons]

theorem Tiles.marks_eq (t : Tiles s.text) (room : Nat) :
    s.marks room = (fittingGlyphs room (glyphs s.text)).flatMap (glyphMarks · s.style .reset) :=
  marksFrom_of_pos t.pos s.style room []

/-! ### Drawing on empty cells -/

/-- The cells of glyphs. -/
theorem map_glyphMarks (style : Style) (gs : List (List Char)) :
    (gs.flatMap (glyphMarks · style .reset)).map (Mark.on · {})
      = gs.flatMap fun g => ⟨g, style⟩ :: List.replicate (width g - 1) {} := by
  rw [List.map_flatMap]
  refine List.flatMap_congr fun g _ => ?_
  unfold glyphMarks
  rw [List.map_cons, List.map_replicate]
  show ⟨g, style.onto .plain⟩ :: List.replicate (width g - 1) ({} : Cell) = _
  rw [Style.onto_plain]

theorem overlay_blankRow (ms : List Mark) (k : Nat) (style : Style) :
    overlay ms (blankRow k style)
      = (ms.take k).map (Mark.on · { style }) ++ blankRow (k - ms.length) style := by
  induction ms generalizing k with
  | nil => cases k <;> rfl
  | cons m ms ih =>
    cases k with
    | zero => rw [Nat.zero_sub]; rfl
    | succ k =>
      rw [List.length_cons, Nat.add_sub_add_right, List.take_succ_cons, List.map_cons,
        List.cons_append, ← ih]
      rfl

theorem overlayAt_append (front : Row) (ms : List Mark) (row : Row) :
    overlayAt front.length ms (front ++ row) = front ++ overlay ms row := by
  induction front with
  | nil => rfl
  | cons c front ih => exact congrArg (c :: ·) ih

/-! ### Rows -/

theorem Tiles.cells_length (t : Tiles s.text) : s.cells.length = width s.text := by
  have glyphs_length : ∀ gs : List (List Char), (∀ g ∈ gs, 0 < width g) →
      (gs.flatMap fun g => (⟨g, s.style⟩ : Cell) :: List.replicate (width g - 1) {}).length
        = Number.total (gs.map width) := by
    intro gs pos
    induction gs with
    | nil => rfl
    | cons g gs ih =>
      have columns := pos g List.mem_cons_self
      rw [List.flatMap_cons, List.length_append, List.length_cons, List.length_replicate,
        ih fun g' hg => pos g' (List.mem_cons_of_mem g hg), List.map_cons, Number.total_cons]
      omega
  exact (glyphs_length _ t.pos).trans t.sum

/-- Nothing is drawn behind the end of a row. -/
theorem withSpansFrom_of_le {row : Row} (full : row.length ≤ x) (ss : List Span) :
    Row.withSpansFrom x ss row = row := by
  cases ss with
  | nil => rfl
  | cons s ss =>
    rw [Row.withSpansFrom]
    exact if_pos full

/-- A span on the empty end of a row. -/
theorem withSpansFrom_cons (wide : 0 < width s.text) (room : 0 < k) (front : Row)
    (ss : List Span) :
    Row.withSpansFrom front.length (s :: ss) (front ++ blankRow k .plain)
      = Row.withSpansFrom (front.length + width s.text) ss
        (front ++ overlay (s.marks k) (blankRow k .plain)) := by
  have long : (front ++ blankRow k .plain).length = front.length + k := by
    rw [List.length_append, blankRow_length]
  rw [Row.withSpansFrom, long, if_neg (by omega), if_neg (by omega), Nat.add_sub_cancel_left,
    overlayAt_append]

/-- **A span that fits takes its cells.** -/
theorem withSpansFrom_of_fits (t : Tiles s.text) (fits : width s.text ≤ k) (front : Row)
    (ss : List Span) :
    Row.withSpansFrom front.length (s :: ss) (front ++ blankRow k .plain)
      = Row.withSpansFrom (front ++ s.cells).length ss
        (front ++ s.cells ++ blankRow (k - width s.text) .plain) := by
  have columns := t.cells_length
  rcases Nat.eq_zero_or_pos (width s.text) with empty | wide
  · have none : s.cells = [] := List.eq_nil_of_length_eq_zero (columns.trans empty)
    rw [none, List.append_nil, empty, Nat.sub_zero, Row.withSpansFrom, if_pos empty]
    exact ite_eq_right_iff.mpr fun full => (withSpansFrom_of_le full ss).symm
  · have cells : ((glyphs s.text).flatMap (glyphMarks · s.style .reset)).map
        (Mark.on · { style := .plain }) = s.cells := map_glyphMarks s.style (glyphs s.text)
    have marks := columns
    rw [← cells, List.length_map] at marks
    rw [withSpansFrom_cons wide (Nat.lt_of_lt_of_le wide fits), t.marks_eq,
      fittingGlyphs_eq_self (t.sum ▸ fits), overlay_blankRow,
      List.take_of_length_le (marks ▸ fits), cells, marks, List.length_append, columns,
      List.append_assoc]

/-- Spans that fit take their cells. -/
theorem withSpansFrom_append (tiles : ∀ s ∈ ss, Tiles s.text) (front : Row)
    (fits : Number.total (ss.map fun s => width s.text) ≤ k) (rest : List Span) :
    Row.withSpansFrom front.length (ss ++ rest) (front ++ blankRow k .plain)
      = Row.withSpansFrom (front ++ ss.flatMap Span.cells).length rest
        (front ++ ss.flatMap Span.cells
          ++ blankRow (k - Number.total (ss.map fun s => width s.text)) .plain) := by
  induction ss generalizing front k with
  | nil => rw [List.flatMap_nil, List.append_nil]; rfl
  | cons s ss ih =>
    rw [List.map_cons, Number.total_cons] at fits ⊢
    rw [List.cons_append, withSpansFrom_of_fits (tiles s List.mem_cons_self) (by omega),
      ih (fun s' hs => tiles s' (List.mem_cons_of_mem s hs)) _ (by omega), List.flatMap_cons,
      List.append_assoc, Nat.sub_sub]

/-! ### Printable text at the end of a row -/

variable {text : List Char}

theorem glyphs_printable (h : ∀ c ∈ text, IsPrintable c) : glyphs text = text.map fun c => [c] := by
  rw [glyphs_of_singleWidth (singleWidth_of_printable h), clusters_printable h]

theorem tiles_printable (h : ∀ c ∈ text, IsPrintable c) : Tiles text :=
  tiles_of_singleWidth (singleWidth_of_printable h)

theorem width_printable (h : ∀ c ∈ text, IsPrintable c) : width text = text.length :=
  width_plain fun c hc => (h c hc).isPlain

theorem width_of_mem_glyphs (h : ∀ c ∈ text, IsPrintable c) {g : List Char}
    (hg : g ∈ glyphs text) : width g = 1 := by
  rw [glyphs_printable h] at hg
  obtain ⟨c, hc, rfl⟩ := List.mem_map.mp hg
  exact width_plain fun d hd => List.mem_singleton.mp hd ▸ (h c hc).isPlain

/-- In printable text each cell is a character. -/
theorem Span.cells_printable (h : ∀ c ∈ s.text, IsPrintable c) :
    s.cells = s.text.map fun c => ⟨[c], s.style⟩ := by
  unfold Span.cells
  rw [List.flatMap_congr fun g hg => by rw [width_of_mem_glyphs h hg], glyphs_printable h,
    List.flatMap_map]
  exact List.flatMap_pure_eq_map _ _

/-- Of printable text only what fits is drawn. -/
theorem marks_take (h : ∀ c ∈ s.text, IsPrintable c) (k : Nat) :
    ({ s with text := s.text.take k } : Span).marks k = s.marks k := by
  have part : ∀ c ∈ s.text.take k, IsPrintable c := fun c hc => h c (List.mem_of_mem_take hc)
  rw [(tiles_printable part).marks_eq, (tiles_printable h).marks_eq,
    fittingGlyphs_eq_take fun g => width_of_mem_glyphs part,
    fittingGlyphs_eq_take fun g => width_of_mem_glyphs h, glyphs_printable part,
    glyphs_printable h, ← List.map_take, ← List.map_take, List.take_take, Nat.min_self]

/-- **Printable text is cut at the end of a row.** -/
theorem withSpansFrom_printable (h : ∀ c ∈ s.text, IsPrintable c) (front : Row) :
    Row.withSpansFrom front.length [s] (front ++ blankRow k .plain)
      = front ++ s.cells.take k ++ blankRow (k - s.text.length) .plain := by
  have columns : width s.text = s.text.length := width_printable h
  rcases Nat.lt_or_ge k s.text.length with long | fits
  · have part : ∀ c ∈ s.text.take k, IsPrintable c := fun c hc => h c (List.mem_of_mem_take hc)
    have cells : ({ s with text := s.text.take k } : Span).cells = s.cells.take k := by
      rw [Span.cells_printable part, Span.cells_printable h, List.map_take]
    have whole : width (s.text.take k) = k := by
      rw [width_printable part, List.length_take, Nat.min_eq_left (Nat.le_of_lt long)]
    rw [Nat.sub_eq_zero_of_le (Nat.le_of_lt long)]
    rcases Nat.eq_zero_or_pos k with none | room
    · rw [none, withSpansFrom_of_le (by rw [List.length_append]; exact Nat.le_refl _),
        List.take_zero, List.append_nil]
    · have cut := withSpansFrom_of_fits (s := { s with text := s.text.take k })
        (tiles_printable part) whole.le front []
      rw [withSpansFrom_cons (by rw [whole]; exact room) room, marks_take h, cells, whole,
        Nat.sub_self] at cut
      rw [withSpansFrom_cons (by omega) room]
      exact cut
  · have whole := withSpansFrom_of_fits (tiles_printable h) (columns ▸ fits) front []
    have cells : s.cells.take k = s.cells := by
      rw [List.take_of_length_le]
      rw [Span.cells_printable h, List.length_map]
      exact fits
    rw [whole, cells, columns]
    rfl

/-- **A row of spans of which only the last may be cut.** -/
theorem Row.ofSpans_concat (tiles : ∀ s ∈ ss, Tiles s.text)
    (fits : Number.total (ss.map fun s => width s.text) ≤ w)
    (printable : ∀ c ∈ s.text, IsPrintable c) :
    Row.ofSpans w (ss ++ [s])
      = ss.flatMap Span.cells
        ++ s.cells.take (w - Number.total (ss.map fun s => width s.text))
        ++ blankRow (w - Number.total (ss.map fun s => width s.text) - s.text.length) .plain := by
  have drawn := withSpansFrom_append tiles [] fits [s]
  rw [List.nil_append] at drawn
  exact drawn.trans (withSpansFrom_printable printable _)

/-! ### The last column of a table -/

/-- **A row with columns.**  In front of the last one stand texts that have their columns for
themselves, and in it a text that is aligned with its end and cut where the row ends. -/
theorem ofSpans_table {front : List Span} {last : Span} {texts : List (List Char)} {n : Nat}
    (columns : front.map (·.text) = texts) (single : ∀ t ∈ texts, SingleWidth t)
    (sum : Number.total (texts.map List.length) + n = w) (aligned : last.text = padStart n text)
    (printable : ∀ c ∈ text, IsPrintable c) :
    (Row.ofSpans w (front ++ [last])).map (·.glyph)
      = texts.flatMap inCells ++ ((padStart n text).take n).map fun c => [c] := by
  have singles : ∀ s ∈ front, SingleWidth s.text := fun s hs =>
    single s.text (columns ▸ List.mem_map_of_mem hs)
  have widths : Number.total (front.map fun s => width s.text) = w - n := by
    rw [List.map_congr_left fun s hs => (singles s hs).width_eq, ← Nat.eq_sub_of_add_eq sum,
      ← columns, List.map_map]
    rfl
  have filled : n ≤ last.text.length := by
    rw [aligned, padStart_length]
    omega
  have printable : ∀ c ∈ last.text, IsPrintable c := fun c hc =>
    isPrintable_of_mem_padStart printable (aligned ▸ hc)
  have cells : front.flatMap (fun s => inCells s.text) = texts.flatMap inCells := by
    rw [← columns, List.flatMap_map]
  rw [Row.ofSpans_concat (fun s hs => tiles_of_singleWidth (singles s hs)) (by omega) printable,
    widths, show w - (w - n) = n by omega, Nat.sub_eq_zero_of_le filled, ← aligned,
    Span.cells_printable printable, ← List.map_take]
  simp only [List.map_append, List.map_flatMap, Span.cells_glyph, cells, List.map_map]
  exact List.append_nil _

/-- A text that ends with a character that it has nowhere else, aligned with the end of a row: it
is not cut exactly if it fits in its column. -/
theorem suffix_lastColumn_iff {front : List (List Char)} {text : List Char} {c : Char} {n : Nat}
    (once : c ∉ text) (room : 0 < n) :
    (text ++ [c]).map (fun d => [d])
        <:+ front ++ ((padStart n (text ++ [c])).take n).map (fun d => [d])
      ↔ (text ++ [c]).length ≤ n := by
  have length : (text ++ [c]).length = text.length + 1 := List.length_append
  constructor
  · rintro ⟨before, same⟩
    rw [length]
    refine Nat.lt_of_not_le fun long => ?_
    have cut : (padStart n (text ++ [c])).take n = text.take n := by
      unfold padStart
      rw [Nat.sub_eq_zero_of_le (by omega), List.replicate_zero, List.nil_append,
        List.take_append_of_le_length long]
    have some : (text.take n).map (fun d => [d]) ≠ [] := by
      refine List.ne_nil_of_length_pos ?_
      rw [List.length_map, List.length_take]
      omega
    -- the last cell is that of another character
    rw [cut, List.map_append, ← List.append_assoc] at same
    have last := congrArg List.getLast? same
    rw [List.map_singleton, List.getLast?_concat, List.getLast?_append_of_ne_nil _ some] at last
    obtain ⟨d, hd, hc⟩ := List.mem_map.mp (List.mem_of_getLast? last.symm)
    rw [List.singleton_inj] at hc
    exact once (hc ▸ List.mem_of_mem_take hd)
  · intro fits
    have whole : (padStart n (text ++ [c])).take n = padStart n (text ++ [c]) := by
      refine List.take_of_length_le ?_
      rw [padStart_length]
      omega
    rw [whole]
    exact ((List.suffix_append _ _).map _).trans (List.suffix_append _ _)

/-! ### Rows of a list -/

theorem listRow_glyphs (w : Nat) (isSelected : Bool) (spans : List Span) :
    (listRow w isSelected spans).map (·.glyph) = (Row.ofSpans w spans).map (·.glyph) := by
  unfold listRow
  split
  · unfold Row.tinted
    rw [List.map_map]
    rfl
  · rfl

/-- The rows of a list on screen, from the window that is shown. -/
theorem listOfRows_glyphs {items : List (List Span)} {spans : List Span}
    {offset selected rows i : Nat} (low : i < rows)
    (item : items[windowStart offset selected items.length rows + i]? = some spans) :
    ∃ row, (listOfRows w rows offset selected items)[i]? = some row ∧
      row.map (·.glyph) = (Row.ofSpans w spans).map (·.glyph) := by
  let first := windowStart offset selected items.length rows
  have shown : (listOfRows w rows offset selected items)[i]?
      = some (listRow w (first + i = min selected (items.length - 1)) spans) := by
    unfold listOfRows
    dsimp only
    rw [getElem?_inArea low, List.getElem?_mapIdx, List.getElem?_take_of_lt low,
      List.getElem?_drop, item]
    rfl
  exact ⟨_, shown, listRow_glyphs w _ spans⟩

/-- **A row of a list with columns.** -/
theorem listOfRows_table {items : List (List Span)} {front : List Span} {last : Span}
    {texts : List (List Char)} {offset selected rows i n : Nat} (low : i < rows)
    (item : items[windowStart offset selected items.length rows + i]? = some (front ++ [last]))
    (columns : front.map (·.text) = texts) (single : ∀ t ∈ texts, SingleWidth t)
    (sum : Number.total (texts.map List.length) + n = w) (aligned : last.text = padStart n text)
    (printable : ∀ c ∈ text, IsPrintable c) :
    ∃ row, (listOfRows w rows offset selected items)[i]? = some row ∧
      row.map (·.glyph) = texts.flatMap inCells ++ ((padStart n text).take n).map fun c => [c] := by
  obtain ⟨row, drawn, glyphs⟩ := listOfRows_glyphs (w := w) low item
  exact ⟨row, drawn, glyphs.trans (ofSpans_table columns single sum aligned printable)⟩

end RepoBrowser
