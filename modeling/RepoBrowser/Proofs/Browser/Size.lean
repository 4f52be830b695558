import RepoBrowser.Proofs.Browser.Change

/-!
# The size of the views

A browser hands the size of its body to everything that it shows, whether or not it is on screen.
What is reset or begun anew takes over the size that it had.

* `Pager.size`, `History.Spans`, `Explorer.Spans` — the size of a view, with that of the text in it;
* `Browser.bodySize` — the size of the body;
* `Browser.Fitted` — every part of the browser has this size, and the strip of tabs is where the
  layout has it;
* `Change.fitted`, `run_fitted` — so it is at the beginning, after every change and after every run.
-/

namespace RepoBrowser

/-! ### Texts and lists -/

namespace Pager

/-- The width and the height that a text is shown in. -/
def size (p : Pager) : Nat × Nat := (p.width, p.height)

@[simp] theorem size_setContent (p : Pager) (content path : String) :
    (p.setContent content path).size = p.size := rfl

@[simp] theorem size_input (p : Pager) (i : Input) : (p.input i).size = p.size := by
  obtain ⟨n, h⟩ := p.input_eq i
  rw [h]
  rfl

theorem placeholder_input (p : Pager) (i : Input) :
    (p.input i).placeholder = p.placeholder := by
  obtain ⟨n, h⟩ := p.input_eq i
  rw [h]

end Pager

namespace History

/-- The history and the changes of a commit have this size. -/
def Spans (h : History) (size : Nat × Nat) : Prop := (h.width, h.height) = size ∧ h.diff.size = size

variable {h : History} {i : Input} {m : LogMessage} {out : History × List Request}
  {size : Nat × Nat}

theorem Spans.reset (s : h.Spans size) : h.reset.Spans size := ⟨s.1, s.1⟩

theorem Spans.start (s : h.Spans size) (source : Source) : (h.start source).1.Spans size :=
  ⟨s.1, s.1⟩

theorem Turn.spans (t : Turn h out) (s : h.Spans size) : out.1.Spans size := by
  cases t <;> exact ⟨s.1, s.2⟩

theorem Response.spans (r : Response h i out) (s : h.Spans size) : out.1.Spans size := by
  cases r with
  | scrolled => exact ⟨s.1, (h.diff.size_input i).trans s.2⟩
  | moved _ _ turn => exact turn.spans ⟨s.1, s.2⟩
  | _ => exact ⟨s.1, s.2⟩

theorem Receipt.spans (r : Receipt h m out) (s : h.Spans size) : out.1.Spans size := by
  cases r with
  | pageAdded _ turn => exact turn.spans ⟨s.1, s.2⟩
  | detailShown => exact ⟨s.1, (h.diff.size_setContent _ _).trans s.2⟩
  | _ => exact ⟨s.1, s.2⟩

end History

namespace Explorer

/-- The explorer and the text of a file have this size. -/
def Spans (x : Explorer) (size : Nat × Nat) : Prop :=
  (x.width, x.height) = size ∧ x.viewer.size = size

variable {x y : Explorer} {i : Input} {m : FilesMessage} {out : Explorer × List Request}
  {size : Nat × Nat}

theorem Spans.reset (s : x.Spans size) : x.reset.Spans size := ⟨s.1, s.1⟩

theorem Spans.start (s : x.Spans size) (source : Source) : (x.start source).1.Spans size :=
  ⟨s.1, s.1⟩

theorem Spans.leaveDirectory (s : x.Spans size) : x.leaveDirectory.Spans size := by
  unfold Explorer.leaveDirectory
  split <;> exact ⟨s.1, s.2⟩

theorem Spans.keepListing (s : x.Spans size) (path : String) (entries : List Entry) :
    (x.keepListing path entries).Spans size := by
  unfold Explorer.keepListing
  dsimp only
  split <;> exact ⟨s.1, s.2⟩

theorem Response.spans (r : Response x i out) (s : x.Spans size) : out.1.Spans size := by
  cases r with
  | scrolled => exact ⟨s.1, (x.viewer.size_input i).trans s.2⟩
  | left => exact s.leaveDirectory
  | _ => exact ⟨s.1, s.2⟩

theorem Receipt.spans (r : Receipt x m y) (s : x.Spans size) : y.Spans size := by
  cases r with
  | listed => exact s.keepListing _ _
  | shown => exact ⟨s.1, (x.viewer.size_setContent _ _).trans s.2⟩
  | _ => exact ⟨s.1, s.2⟩

end Explorer

/-! ### The whole browser -/

/-- The width and the height of the strip of tabs. -/
def TabStrip.size (s : TabStrip) : Nat × Nat := (s.width, s.height)

/-- The width and the height of the status line. -/
def StatusLine.size (l : StatusLine) : Nat × Nat := (l.width, l.height)

namespace Browser

/-- The width and the height of the body. -/
def bodySize (b : Browser) : Nat × Nat := (b.width, b.layout.bodyHeight b.height)

/-- The browser is as it was laid out, and all its parts have the size of the body. -/
structure Fitted (layout : Layout) (b : Browser) : Prop where
  laidOut : b.layout = layout
  row : b.tabs.row = layout.headerHeight + layout.headerFrame
  frame : b.tabs.frame = layout.tabsFrame
  placeholder : b.readme.placeholder = "No readme found."
  tabs : b.tabs.size = b.bodySize
  statusLine : b.statusLine.size = b.bodySize
  readme : b.readme.size = b.bodySize
  history : b.history.Spans b.bodySize
  explorer : b.explorer.Spans b.bodySize

variable {layout : Layout} {b b' : Browser} {a : Action} {rs : List Request}

/-- A browser that has not been given a size has none, and neither has its body. -/
theorem fitted_ofLayout (layout : Layout) : Fitted layout (ofLayout layout) := by
  have hsize : (ofLayout layout).bodySize = (0, 0) := congrArg (0, ·) (Nat.zero_sub _)
  have hsize := hsize.symm
  exact ⟨rfl, rfl, rfl, rfl, hsize, hsize, hsize, ⟨hsize, hsize⟩, ⟨hsize, hsize⟩⟩

/-- **A change of the size reaches every part**, whatever size they had. -/
theorem Fitted.setSize (f : Fitted layout b) (w k : Nat) : Fitted layout (b.setSize w k) :=
  ⟨f.laidOut, f.row, f.frame, f.placeholder, rfl, rfl, rfl, ⟨rfl, rfl⟩, ⟨rfl, rfl⟩⟩

theorem Fitted.select (f : Fitted layout b) (r : Repository) : Fitted layout (b.select r).1 :=
  ⟨f.laidOut, f.row, f.frame, f.placeholder, f.tabs, f.statusLine, f.readme, f.history.reset,
    f.explorer.reset⟩

theorem Fitted.resolve (f : Fitted layout b) (r : Repository) (n : Reference) :
    Fitted layout (b.resolve r n).1 :=
  { f with history := f.history.start _, explorer := f.explorer.start _ }

/-- What the status line says has no size. -/
theorem Fitted.withStatus (f : Fitted layout b) {l : StatusLine}
    (size : l.size = b.statusLine.size) : Fitted layout { b with statusLine := l } :=
  { f with statusLine := size.trans f.statusLine }

/-- **Every change keeps the sizes**, or gives the same new one to all. -/
theorem Change.fitted (c : Change b a b' rs) (f : Fitted layout b) : Fitted layout b' := by
  cases c with
  | selected r => exact f.select r
  | resolved => exact f.resolve _ _
  | resized w k => exact f.setSize w k
  | @logReceived r m _ => exact { f with history := (b.history.receive_receipt m).spans f.history }
  | @filesReceived r m _ =>
    exact { f with explorer := (b.explorer.receive_receipt m).spans f.explorer }
  | @readmeInput i r _ _ error =>
    exact { f with
      placeholder := (b.readme.placeholder_input i).trans f.placeholder
      readme := (b.readme.size_input i).trans f.readme }
  | @filesInput i r _ _ error =>
    exact { f with explorer := (b.explorer.input_response i).spans f.explorer }
  | @commitsInput i r _ _ error =>
    exact { f with history := (b.history.input_response i).spans f.history }
  | _ => exact { f with }

theorem refresh_size (b : Browser) : b.refresh.statusLine.size = b.statusLine.size := by
  unfold refresh
  split <;> rfl

theorem Fitted.refresh (f : Fitted layout b) : Fitted layout b.refresh := by
  obtain ⟨l, hl⟩ := b.refresh_eq
  have hsize := b.refresh_size
  rw [hl] at hsize ⊢
  exact f.withStatus hsize

theorem Fitted.update (f : Fitted layout b) (hu : b.update a = .ok (b', rs)) :
    Fitted layout b' := by
  obtain ⟨-, happly⟩ := update_eq_ok_iff.mp hu
  obtain ⟨hb, -⟩ := Prod.mk.inj happly
  have fitted : Fitted layout (b.act a).browser := (b.act_change a).fitted f
  rw [← hb]
  split
  · exact fitted.refresh
  · exact fitted

/-- **All parts of a browser fit together after every run.** -/
theorem run_fitted {actions : List Action} (h : (ofLayout layout).run actions = .ok b) :
    Fitted layout b :=
  run_induction (fun f hu => Fitted.update f hu) (fitted_ofLayout layout) h

end Browser

end RepoBrowser
