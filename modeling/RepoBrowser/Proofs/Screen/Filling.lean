import RepoBrowser.Session.Basic

/-!
# What is drawn fills its area

Every part of the screen is drawn into an area of its own, and the parts are put one below the
other.  So each part has to have as many rows as its area, no more and no less, and each row as many
cells as the area is wide.

* `Screen.Fills` — a screen has these many rows of this width;
* `Fills.append` — areas one below the other;
* `paragraph_fills`, `listOfRows_fills` — paragraphs and lists, on any area;
* `Pager.draw_fills`, `History.draw_fills`, `Explorer.draw_fills` — the views;
* `TabStrip.draw_fills`, `Browser.drawHeader_fills`, `Browser.drawBody_fills`,
  `Browser.drawStatus_fills` — what stands around them;
* `Browser.draw_fills` — all of them, one below the other.
-/

namespace RepoBrowser

open Time (Instant)

/-- The screen has `h` rows, each of `w` cells. -/
def Screen.Fills (s : Screen) (w h : Nat) : Prop := s.length = h ∧ ∀ row ∈ s, row.length = w

variable {s t : Screen} {w h k n : Nat} {style : Style}

/-- **Areas one below the other are an area.** -/
theorem Screen.Fills.append (hs : Screen.Fills s w h) (ht : Screen.Fills t w k)
    (sum : h + k = n) : Screen.Fills (s ++ t) w n := by
  refine ⟨?_, fun row hrow => ?_⟩
  · rw [List.length_append, hs.1, ht.1, sum]
  · rcases List.mem_append.mp hrow with hrow | hrow
    · exact hs.2 row hrow
    · exact ht.2 row hrow

theorem blankScreen_fills (w h : Nat) (style : Style) :
    Screen.Fills (blankScreen w h style) w h := by
  refine ⟨List.length_replicate, fun row hrow => ?_⟩
  rw [List.eq_of_mem_replicate hrow, blankRow_length]

theorem inArea_fills {rows : List Row} (hr : ∀ r ∈ rows, r.length = w) (h : Nat) (style : Style) :
    Screen.Fills (inArea w h style rows) w h :=
  ⟨inArea_length w h style rows, fun _ hrow => length_of_mem_inArea hr hrow⟩

theorem paragraph_fills (w h : Nat) (style : Style) (lines : List (List Span)) :
    Screen.Fills (paragraph w h style lines) w h := by
  refine inArea_fills (fun row hrow => ?_) h style
  obtain ⟨line, -, rfl⟩ := List.mem_map.mp hrow
  exact rowOfGlyphs_length w style _

theorem wrappedParagraph_fills (w h : Nat) (style : Style) (text : List Char) :
    Screen.Fills (wrappedParagraph w h style text) w h := by
  unfold wrappedParagraph
  split
  · exact inArea_fills (fun row hrow => absurd hrow List.not_mem_nil) h style
  · refine inArea_fills (fun row hrow => ?_) h style
    obtain ⟨gs, -, rfl⟩ := List.mem_map.mp hrow
    exact rowOfGlyphs_length w style gs

theorem listRow_length (w : Nat) (isSelected : Bool) (spans : List Span) :
    (listRow w isSelected spans).length = w := by
  unfold listRow
  split
  · exact (List.length_map _).trans (Row.ofSpans_length w spans)
  · exact Row.ofSpans_length w spans

theorem listOfRows_fills (w h offset selected : Nat) (items : List (List Span)) :
    Screen.Fills (listOfRows w h offset selected items) w h := by
  refine inArea_fills (fun row hrow => ?_) h .plain
  obtain ⟨i, -, rfl⟩ := List.mem_mapIdx.mp hrow
  exact listRow_length w _ _

/-! ### The views -/

theorem Pager.draw_fills (p : Pager) (w h : Nat) : Screen.Fills (p.draw w h) w h := by
  unfold Pager.draw
  split
  · exact wrappedParagraph_fills w h _ _
  · split
    · exact paragraph_fills w h _ _
    · split <;> exact paragraph_fills w h _ _

theorem History.draw_fills (c : History) (now : Instant) (w h : Nat) :
    Screen.Fills (c.draw now w h) w h := by
  unfold History.draw
  split
  · exact c.diff.draw_fills w h
  · split
    · exact paragraph_fills w h _ _
    · exact listOfRows_fills w h _ _ _

theorem Explorer.draw_fills (x : Explorer) (w h : Nat) : Screen.Fills (x.draw w h) w h := by
  unfold Explorer.draw
  split
  · exact x.viewer.draw_fills w h
  · exact paragraph_fills w h _ _
  · split
    · exact paragraph_fills w h _ _
    · exact listOfRows_fills w h _ _ _

/-! ### What stands around the views -/

theorem TabStrip.titleRow_length (s : TabStrip) (w : Nat) : (s.titleRow w).length = w :=
  (overlay_length _ _).trans (blankRow_length w _)

theorem TabStrip.draw_fills (s : TabStrip) (w h : Nat) : Screen.Fills (s.draw w h) w h := by
  have titles : ∀ row ∈ [s.titleRow w], row.length = w := by
    intro row hrow
    rw [List.mem_singleton.mp hrow, titleRow_length]
  unfold TabStrip.draw
  split
  · exact inArea_fills titles h _
  · split
    · rename_i hzero
      rw [hzero]
      exact ⟨rfl, fun row hrow => absurd hrow List.not_mem_nil⟩
    · have line : Screen.Fills [lineRow w] w 1 := by
        refine ⟨rfl, fun row hrow => ?_⟩
        rw [List.mem_singleton.mp hrow]
        exact List.length_replicate
      exact (inArea_fills titles (h - 1) baseStyle).append line (by omega)

/-- The rows of the four areas together. -/
def Layout.Areas.rows (a : Layout.Areas) : Nat := a.header + a.tabs + a.body + a.status

namespace Browser

theorem drawHeader_fills (b : Browser) (w h : Nat) : Screen.Fills (b.drawHeader w h) w h := by
  unfold drawHeader
  split
  · refine (paragraph_fills w _ .plain _).append (blankScreen_fills w _ .plain) ?_
    omega
  · exact blankScreen_fills w h .plain

theorem drawView_fills (b : Browser) (now : Instant) (w h : Nat) :
    Screen.Fills (b.drawView now w h) w h := by
  unfold drawView
  split
  · split
    · exact b.readme.draw_fills w h
    · exact blankScreen_fills w h .plain
  · exact b.explorer.draw_fills w h
  · exact b.history.draw_fills now w h
  · exact blankScreen_fills w h .plain
  · exact blankScreen_fills w h .plain

/-- The active view has the rows of the body that its frame leaves. -/
theorem drawBody_eq (b : Browser) (now : Instant) (w k : Nat) :
    b.drawBody now w (k + b.layout.bodyFrame)
      = blankScreen w b.layout.bodyTop .plain ++ b.drawView now w k
        ++ blankScreen w (b.layout.bodyFrame - b.layout.bodyTop) .plain := by
  unfold drawBody
  rw [if_neg (by omega), Nat.add_sub_cancel]

/-- The body fills its area also where that is too low for the frame. -/
theorem drawBody_fills (b : Browser) (now : Instant) (w h : Nat) :
    Screen.Fills (b.drawBody now w h) w h := by
  rcases Nat.lt_or_ge h b.layout.bodyFrame with low | high
  · unfold drawBody
    rw [if_pos low]
    exact blankScreen_fills w h .plain
  · obtain ⟨k, rfl⟩ := Nat.exists_eq_add_of_le' high
    have htop : b.layout.bodyTop ≤ b.layout.bodyFrame := Nat.div_le_self _ 2
    rw [drawBody_eq]
    refine ((blankScreen_fills w _ .plain).append (b.drawView_fills now w k) rfl).append
      (blankScreen_fills w _ .plain) ?_
    omega

theorem drawStatus_fills (b : Browser) (w h : Nat) : Screen.Fills (b.drawStatus w h) w h := by
  unfold drawStatus
  split
  · exact paragraph_fills w h _ _
  · exact paragraph_fills w h _ _

/-- **A browser fills the areas that its screen is divided into**, whatever size that is. -/
theorem draw_fills (b : Browser) (now : Instant) (w h : Nat) :
    Screen.Fills (b.draw now w h) w (b.layout.areas h).rows :=
  (((b.drawHeader_fills w _).append (b.tabs.draw_fills w _) rfl).append
    (b.drawBody_fills now w _) rfl).append (b.drawStatus_fills w _) rfl

end Browser

end RepoBrowser
