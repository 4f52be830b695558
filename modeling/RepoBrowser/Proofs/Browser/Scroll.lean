import RepoBrowser.Proofs.Browser.Pane
import RepoBrowser.Proofs.Pager.Scroll

/-!
# Scrolling in the panes of a browser

The readme, the file and the changes that a browser shows are pagers, and a browser does nothing
with them but what is done with pagers.

* `History.Response.diff_arises`, `Explorer.Response.viewer_arises` and their like for results — so
  it is in the history and in the explorer;
* `Change.pager_arises`, `run_pager_arises` — so it is in every pane, after every run;
* `scrolling_stays_in_text` — what follows for every window, what is drawn in it, and what can be
  reached from it.
-/

namespace RepoBrowser

/-! ### Changes of commits -/

namespace History

variable {h : History} {i : Input} {m : LogMessage} {out : History × List Request}

theorem setSize_diff_arises (a : h.diff.Arises) (width height : Nat) :
    (h.setSize width height).diff.Arises := a.operate (.resized width height)

theorem reset_diff_arises (h : History) : h.reset.diff.Arises :=
  setSize_diff_arises (h := {}) (.new "No changes.") h.width h.height

theorem Response.diff_arises (r : Response h i out) (a : h.diff.Arises) : out.1.diff.Arises := by
  cases r with
  | ignored | closed => exact a
  | scrolled => exact a.operate (.input i)
  | entered => exact a.operate .awaited
  | moved _ _ turn => exact turn.diff_eq ▸ a

theorem Receipt.diff_arises (r : Receipt h m out) (a : h.diff.Arises) : out.1.diff.Arises := by
  cases r with
  | dropped | pageMissed => exact a
  | pageAdded _ turn => exact turn.diff_eq ▸ a
  | detailShown => exact a.operate (.came _ _)
  | detailMissed => exact a.operate (.missed _)

end History

/-! ### Files -/

namespace Explorer

variable {x y : Explorer} {i : Input} {m : FilesMessage} {out : Explorer × List Request}

theorem setSize_viewer_arises (a : x.viewer.Arises) (width height : Nat) :
    (x.setSize width height).viewer.Arises := a.operate (.resized width height)

theorem reset_viewer_arises (x : Explorer) : x.reset.viewer.Arises :=
  setSize_viewer_arises (x := {}) (.new "Empty file.") x.width x.height

theorem leaveDirectory_viewer (x : Explorer) : x.leaveDirectory.viewer = x.viewer := by
  unfold leaveDirectory
  split <;> rfl

theorem Response.viewer_arises (r : Response x i out) (a : x.viewer.Arises) :
    out.1.viewer.Arises := by
  cases r with
  | scrolled => exact a.operate (.input i)
  | openedFile => exact a.operate .awaited
  | left => exact x.leaveDirectory_viewer ▸ a
  | _ => exact a

theorem Receipt.viewer_arises (r : Receipt x m y) (a : x.viewer.Arises) : y.viewer.Arises := by
  cases r with
  | listed => exact x.keepListing_viewer _ _ ▸ a
  | shown => exact a.operate (.came _ _)
  | fileMissed => exact a.operate (.missed _)
  | dropped | listingMissed => exact a

end Explorer

/-! ### Every pane -/

namespace Browser

variable {layout : Layout} {b b' : Browser} {a : Action} {rs : List Request}

theorem pager_arises_ofLayout (layout : Layout) (p : Pane) :
    ((ofLayout layout).pager p).Arises := by
  cases p with
  | readme => exact .new "No readme found."
  | file => exact .new "Empty file."
  | changes => exact .new "No changes."

/-- **Every change does with the pagers what is done with pagers**, or puts new ones in their
places. -/
theorem Change.pager_arises (c : b.Change a b' rs) (h : ∀ p, (b.pager p).Arises) (p : Pane) :
    (b'.pager p).Arises := by
  have readme : b.readme.Arises := h .readme
  have file : b.explorer.viewer.Arises := h .file
  have changes : b.history.diff.Arises := h .changes
  cases p with
  | readme =>
    cases c with
    | selected => exact readme.operate .awaited
    | readmeShown => exact readme.operate (.came _ _)
    | readmeMissed => exact readme.operate (.missed _)
    | resized w k => exact readme.operate (.resized w (b.layout.bodyHeight k))
    | @readmeInput i => exact readme.operate (.input i)
    | _ => exact readme
  | file =>
    cases c with
    | selected | resolved => exact b.explorer.reset_viewer_arises
    | @filesReceived _ m => exact (b.explorer.receive_receipt m).viewer_arises file
    | resized w k => exact Explorer.setSize_viewer_arises file w (b.layout.bodyHeight k)
    | @filesInput i => exact (b.explorer.input_response i).viewer_arises file
    | _ => exact file
  | changes =>
    cases c with
    | selected | resolved => exact b.history.reset_diff_arises
    | @logReceived _ m => exact (b.history.receive_receipt m).diff_arises changes
    | resized w k => exact History.setSize_diff_arises changes w (b.layout.bodyHeight k)
    | @commitsInput i => exact (b.history.input_response i).diff_arises changes
    | _ => exact changes

/-- **After every run the texts of a browser are in pagers that come of new ones.** -/
theorem run_pager_arises {actions : List Action} (h : (ofLayout layout).run actions = .ok b)
    (p : Pane) : (b.pager p).Arises := by
  refine run_induction (P := fun b => ∀ p, (b.pager p).Arises) (fun {b b' a rs} before update => ?_)
    (pager_arises_ofLayout layout) h p
  obtain ⟨c, l, change, rfl⟩ := change_of_update update
  intro p
  have after := change.pager_arises before p
  cases p with
  | readme | file | changes => exact after

/-- **Scrolling stays within the text.**  This holds of a pager after whatever is done with it, and
so of every pane of a browser after every run.

* The offset is at most the number of lines above the last screenful.
* The part that has been scrolled through is the offset over that number, or all if the text fits.
  In a window that has rows it is all exactly when the last line is in the window or the text fits.
  It is between none and all; an input that scrolls down does not lessen it, and one that scrolls
  up does not raise it.
* Where no notice stands in front of the text, the window shows the lines from the offset on, as
  many as it has rows; only a text without lines is replaced by the placeholder.  While lines are
  hidden each row shows one.
* Every line comes into a window that has rows by a key that asks for one line down or up, pressed
  often enough. -/
theorem scrolling_stays_in_text (p : Pager)
    (h : p.Arises ∨ ∃ layout actions b pane, (ofLayout layout).run actions = .ok b ∧
      p = b.pager pane) :
    p.offset ≤ p.lines.length - p.height ∧
      (p.scrolled = if p.lines.length ≤ p.height then 1
        else (p.offset : ℚ) / (p.lines.length - p.height : Nat)) ∧
      (0 ≤ p.scrolled ∧ p.scrolled ≤ 1) ∧
      (0 < p.height →
        (p.scrolled = 1 ↔ p.lines.length ≤ p.height ∨ p.OnScreen (p.lines.length - 1))) ∧
      (∀ i : Input, (i.direction? = some .down → p.scrolled ≤ (p.input i).scrolled) ∧
        (i.direction? = some .up → (p.input i).scrolled ≤ p.scrolled)) ∧
      (p.error = none → p.loading = false → ∀ w,
        (p.lines ≠ [] → Screen.ShowsFrom (p.draw w p.height) w p.height p.offset
          fun j => p.lines[j]?.map (·.row w)) ∧
        (p.lines = [] → p.draw w p.height
          = plainParagraph w p.height (.inColour .gray) p.placeholder.toList) ∧
        ((∃ j < p.lines.length, ¬ p.OnScreen j) → ∀ i < p.height,
          ∃ l, p.lines[p.offset + i]? = some l ∧ (p.draw w p.height)[i]? = some (l.row w))) ∧
      (0 < p.height → ∀ down up, Move.ofKey? down = some .down → Move.ofKey? up = some .up →
        ∀ j < p.lines.length, ∃ n,
          ((fun q : Pager => q.input (.key down))^[n] p).OnScreen j ∨
          ((fun q : Pager => q.input (.key up))^[n] p).OnScreen j) := by
  have arises : p.Arises := by
    rcases h with arises | ⟨layout, actions, b, pane, run, rfl⟩
    · exact arises
    · exact run_pager_arises run pane
  have offset : p.offset ≤ p.maxOffset := arises.offset_le
  refine ⟨offset, Pager.scrolled_eq offset, ⟨p.scrolled_nonneg, p.scrolled_le_one⟩,
    Pager.scrolled_eq_one_iff offset, fun i => ⟨(p.input_scroll i).scrolled_le offset,
      (p.input_scroll i).le_scrolled⟩, fun fine here w => ⟨?_, ?_, ?_⟩, ?_⟩
  · exact fun some => Pager.draw_shows fine here some w p.height
  · exact fun none => Pager.draw_of_lines_eq_nil fine here none w p.height
  · exact fun hidden i => Pager.draw_of_hidden fine here offset hidden
  · intro room down up down_asks up_asks j inside
    rcases Nat.le_total p.offset j with below | above
    · exact ⟨_, .inl (Pager.onScreen_of_down down_asks offset room inside below)⟩
    · exact ⟨_, .inr (Pager.onScreen_of_up up_asks room above)⟩

/-- Four lines in a window of two rows, scrolled down by one. -/
def samplePager : Pager :=
  ((Pager.operate { placeholder := "" } (.resized 4 2)).operate
    (.came "a\nb\nc\nd" "")).operate (.input (.key ⟨.down, {}⟩))

/-- Half of what is hidden is above the window, each row of the window shows a line, and the last
line can be brought to it. -/
theorem scrolling_stays_in_text_sample :
    samplePager.Arises ∧ samplePager.offset ≤ 4 - 2 ∧ samplePager.scrolled = 1 / 2 ∧
      (∀ i < 2, ∃ l, samplePager.lines[1 + i]? = some l ∧
        (samplePager.draw 4 2)[i]? = some (l.row 4)) ∧
      ∃ n, ((fun q : Pager => q.input (.key ⟨.down, {}⟩))^[n] samplePager).OnScreen 3 ∨
        ((fun q : Pager => q.input (.key ⟨.up, {}⟩))^[n] samplePager).OnScreen 3 := by
  have arises : samplePager.Arises := (((Pager.Arises.new "").operate _).operate _).operate _
  obtain ⟨offset, part, -, -, -, drawn, reached⟩ :=
    scrolling_stays_in_text samplePager (.inl arises)
  obtain ⟨-, -, rows⟩ := drawn rfl rfl 4
  refine ⟨arises, offset, ?_, rows ⟨0, by decide, fun shown => absurd shown.1 (by decide)⟩,
    reached (by decide) _ _ rfl rfl 3 (by decide)⟩
  rw [part, if_neg (by decide)]
  exact congrArg₂ (· / ·) Nat.cast_one rfl

end Browser

end RepoBrowser
