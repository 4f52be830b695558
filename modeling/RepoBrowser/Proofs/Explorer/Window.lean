import RepoBrowser.Explorer.Draw
import RepoBrowser.Proofs.Explorer.Trail
import RepoBrowser.Proofs.History.Window

/-!
# The window on the files

The entries change as a whole: a directory is gone into, gone back to, or its listing arrives.  The
selection is valid for the new entries because a listing only arrives where nothing is shown yet,
and a directory is gone back to by the entry at which it was left.

* `Explorer.InView` — the selection is one of the entries, and in the window;
* `Explorer.Returns` — every directory can be gone back to by a selection that is valid there;
* `Response.inView`, `Receipt.inView` — inputs and results keep the selection in view;
* `Response.nearest` — an input moves the window by the least amount; the window of a directory that
  is gone back to is the one that it was left with;
* `Explorer.drawBy`, `drawBy_shows` — with any steady way to draw a list, the entries of the window
  are on screen;
* `Walk.Occurs` — all that can come of a new explorer, whatever it is used for;
* `selection_in_view` — the windows on histories and files, in one statement.
-/

namespace RepoBrowser

open Exchange (sampleForge sampleForge_separatesKinds)
open Time (Instant)

namespace Explorer

/-- The selection is one of the entries, and in the window. -/
def InView (x : Explorer) : Prop := SelectionInView x.entries.length x.offset x.selected x.height

/-- The nearest directory above is kept, and the selection that it was left with is valid there. -/
def Returns (x : Explorer) : Prop :=
  ∀ v rest, x.history = v :: rest → v.selected < ((x.listings.lookup v.path).getD []).length

variable {x y : Explorer} {i : Input} {m : FilesMessage} {out : Explorer × List Request}
  {s : Source}

/-! ### Inputs and results -/

theorem InView.setSize (v : x.InView) (width height : Nat) : (x.setSize width height).InView :=
  follow_inView v.inside x.offset height

theorem reset_inView (x : Explorer) : x.reset.InView :=
  InView.setSize (x := {}) (top_inView 0 0) x.width x.height

/-- The way back ends with the entry by which the directory was left. -/
theorem Trail.returns (t : Trail x.listings x.path x.history) : x.Returns := by
  intro v rest history
  rw [history] at t
  obtain ⟨-, es, e, known, entry, -⟩ := t.exists_entry
  rw [known]
  exact (List.getElem?_eq_some_iff.mp entry).1

theorem InView.leaveDirectory (v : x.InView) (returns : x.Returns) : x.leaveDirectory.InView := by
  unfold Explorer.leaveDirectory
  split
  · exact v
  · rename_i u rest history
    exact follow_inView (.inl (returns u rest history)) u.offset x.height

/-- **An input keeps the selection in view.** -/
theorem Response.inView (r : Response x i out) (v : x.InView) (returns : x.Returns) :
    out.1.InView := by
  cases r with
  | recalled => exact top_inView _ _
  | entered => exact top_inView _ _
  | strayed => exact top_inView _ _
  | left => exact v.leaveDirectory returns
  | moved _ m => exact SelectionInView.step v m x.height
  | _ => exact ⟨v.inside, v.above, v.below⟩

/-- In a window on nothing the selection is at the top, where it is valid for any entries. -/
theorem InView.withEntries (v : x.InView) (bare : x.entries = []) (length : Nat) :
    SelectionInView length x.offset x.selected x.height := by
  have inside := v.inside
  rw [bare] at inside
  have selected : x.selected = 0 := by
    rcases inside with inside | ⟨-, top⟩
    · exact absurd inside (Nat.not_lt_zero _)
    · exact top
  have offset : x.offset = 0 := Nat.le_zero.mp (selected ▸ v.above)
  rw [selected, offset]
  exact top_inView length x.height

/-- **A result keeps the selection in view**, if a listing arrives only where nothing is shown. -/
theorem Receipt.inView (r : Receipt x m y) (v : x.InView)
    (bare : ∀ raw, m = .listing x.path raw → x.pending = some x.path → x.entries = []) :
    y.InView := by
  cases r with
  | @listed path raw pending =>
    unfold keepListing
    dsimp only
    split
    · rename_i here
      subst here
      exact v.withEntries (bare raw rfl pending) _
    · exact ⟨v.inside, v.above, v.below⟩
  | _ => exact ⟨v.inside, v.above, v.below⟩

/-- What an input does to the window: it is moved by the least amount, or it is the window on the
directory above, as that was left, and moved by the least amount if the size has changed since. -/
theorem Response.nearest (r : Response x i out) (v : x.InView) :
    NearestWindow x.offset out.1.selected x.height out.1.offset ∨
      ∃ u rest, x.history = u :: rest ∧ out.1.history = rest ∧ out.1.path = u.path ∧
        out.1.selected = u.selected ∧ NearestWindow u.offset u.selected x.height out.1.offset := by
  cases r with
  | recalled => exact .inl (top_nearest x.offset x.height)
  | entered => exact .inl (top_nearest x.offset x.height)
  | strayed => exact .inl (top_nearest x.offset x.height)
  | moved => exact .inl (follow_nearest x.offset _ x.height)
  | left =>
    cases history : x.history with
    | nil =>
      have stays : x.leaveDirectory = x := by
        unfold leaveDirectory
        rw [history]
      show NearestWindow x.offset x.leaveDirectory.selected x.height x.leaveDirectory.offset ∨ _
      rw [stays]
      exact .inl v.nearest
    | cons u rest =>
      right
      refine ⟨u, rest, rfl, ?_⟩
      show x.leaveDirectory.history = rest ∧ x.leaveDirectory.path = u.path ∧
        x.leaveDirectory.selected = u.selected ∧
        NearestWindow u.offset u.selected x.height x.leaveDirectory.offset
      unfold leaveDirectory
      rw [history]
      exact ⟨rfl, rfl, rfl, follow_nearest u.offset u.selected x.height⟩
  | _ => exact .inl v.nearest

/-! ### On screen -/

/-- The row of an entry; that of the selected one is marked. -/
def rowOf? (x : Explorer) (w j : Nat) : Option Row :=
  x.entries[j]?.map fun e => listRow w (j = x.selected) (entrySpans w (j = x.selected) e)

/-- What is on screen in an area, with the list in the place that it is given. -/
def drawBy (p : Placement) (x : Explorer) (width height : Nat) : Screen :=
  match x.opened, x.error with
  | some _, _ => x.viewer.draw width height
  | none, some reason => plainParagraph width height (.inColour .red) (Pager.errorText reason)
  | none, none =>
    if x.entries.isEmpty then
      plainParagraph width height (.inColour x.emptyNotice.2) x.emptyNotice.1
    else listOfRowsBy p width height x.offset x.selected (x.rows width)

theorem drawBy_windowStart (x : Explorer) (width height : Nat) :
    x.drawBy windowStart width height = x.draw width height := rfl

/-- **On screen are the entries of the window**, in an area as high as the explorer is. -/
theorem drawBy_shows {p : Placement} (steady : p.IsSteady) (v : x.InView) (w : Nat)
    (room : 0 < x.height) (closed : x.opened = none) (fine : x.error = none)
    (some : x.entries ≠ []) :
    (x.drawBy p w x.height).ShowsFrom w x.height x.offset (x.rowOf? w) := by
  have length : (x.rows w).length = x.entries.length := List.length_mapIdx
  have nonempty : x.rows w ≠ [] := by
    intro empty
    rw [empty] at length
    exact some (List.length_eq_zero_iff.mp length.symm)
  have drawn : x.drawBy p w x.height
      = listOfRowsBy p w x.height x.offset x.selected (x.rows w) := by
    unfold drawBy
    rw [closed, fine]
    exact if_neg (mt List.isEmpty_iff.mp some)
  have rows : (fun j => (x.rows w)[j]?.map (listRow w (j = x.selected))) = x.rowOf? w := by
    funext j
    unfold Explorer.rows rowOf?
    rw [List.getElem?_mapIdx, Option.map_map]
    rfl
  rw [drawn, ← rows]
  exact listOfRowsBy_shows steady w (length ▸ v) room nonempty

end Explorer

/-! ### Whatever an explorer is used for -/

namespace Walk

/-- All that can come of a new explorer.  It can be reset, and begin with a source, at any time; what
was asked for before that is given up. -/
inductive Occurs (forge : Forge Set) : Walk → Prop
  | new : Occurs forge ⟨{}, 0, []⟩
  | reset {w : Walk} : Occurs forge w → Occurs forge ⟨w.explorer.reset, 0, []⟩
  | begin {w : Walk} (s : Source) : Occurs forge w → Occurs forge (begin w.explorer s)
  | step {w w' : Walk} : Occurs forge w → Step forge w w' → Occurs forge w'

/-- An explorer that has not begun with a source shows nothing, and no answer is to come. -/
structure Unbegun (w : Walk) : Prop where
  flying : w.inFlight = 0
  bare : w.explorer.Bare

variable {forge : Forge Set} {s : Source} {w w' : Walk}

theorem Unbegun.step (u : Unbegun w) (st : Step forge w w') : Unbegun w' := by
  cases st with
  | input i =>
    obtain ⟨requests, bare⟩ := (w.explorer.input_response i).bare u.bare
    refine ⟨?_, ?_⟩
    · rw [goOn_inFlight_of_nil requests]
      exact u.flying
    · rw [goOn_explorer]
      exact bare
  | resized => exact ⟨u.flying, u.bare.entries, u.bare.history, u.bare.closed⟩
  | answered flying => exact absurd (u.flying.symm.trans flying) (Multiset.cons_ne_zero).symm

/-- **Whatever an explorer is used for, it walks through a source or has not begun with one.** -/
theorem Occurs.unbegun_or_reachable (o : Occurs forge w) :
    Unbegun w ∨ ∃ s, Reachable forge s w := by
  induction o with
  | new => exact .inl ⟨rfl, rfl, rfl, rfl⟩
  | reset => exact .inl ⟨rfl, rfl, rfl, rfl⟩
  | @begin w s _ => exact .inr ⟨s, .begin w.explorer⟩
  | step _ st ih =>
    rcases ih with unbegun | ⟨s, reachable⟩
    · exact .inl (unbegun.step st)
    · exact .inr ⟨s, reachable.step st⟩

theorem Occurs.returns (o : Occurs forge w) (kinds : forge.KeepsKindsApart) :
    w.explorer.Returns := by
  rcases o.unbegun_or_reachable with unbegun | ⟨s, reachable⟩
  · intro v rest history
    exact nomatch unbegun.bare.history.symm.trans history
  · exact (reachable.trail_of_apart kinds).returns

/-- A listing that is waited for where a directory is shown arrives where nothing is shown yet. -/
theorem Reachable.bare_of_listing (h : Reachable forge s w) (kinds : forge.KeepsKindsApart) {n : Nat}
    (flying : (n, s.listing w.explorer.path) ∈ w.inFlight)
    (pending : w.explorer.pending = some w.explorer.path) : w.explorer.entries = [] := by
  have closed : w.explorer.opened = none := by
    cases opened : w.explorer.opened with
    | none => rfl
    | some f =>
      -- while a file is open only this file is waited for
      obtain rfl := h.drawnFrom.pending f _ opened pending
      exact absurd opened (h.apart kinds flying)
  obtain ⟨-, unknown⟩ := h.placed.here _ closed pending
  rw [h.placed.entries, unknown]
  rfl

/-- **The selection is in view whatever an explorer is used for.** -/
theorem Occurs.inView (o : Occurs forge w) (kinds : forge.KeepsKindsApart) :
    w.explorer.InView := by
  induction o with
  | new => exact top_inView 0 0
  | @reset w _ _ => exact w.explorer.reset_inView
  | @begin w s _ _ =>
    rw [Walk.begin, goOn_explorer]
    exact w.explorer.reset_inView
  | @step w _ o st ih =>
    cases st with
    | input i =>
      rw [goOn_explorer]
      exact (w.explorer.input_response i).inView ih (o.returns kinds)
    | resized width height => exact ih.setSize width height
    | @answered n r rest g m flying given result =>
      refine (w.explorer.receive_receipt m).inView ih fun raw listing pending => ?_
      rcases o.unbegun_or_reachable with unbegun | ⟨s, reachable⟩
      · exact unbegun.bare.entries
      · subst listing
        have hmem : (n, r.request) ∈ w.inFlight := flying ▸ Multiset.mem_cons_self _ _
        obtain rfl := Reply.eq_listing result (reachable.isFrom n _ hmem)
        exact reachable.bare_of_listing kinds hmem pending

/-- Where entries are shown, no error is. -/
theorem Occurs.error_eq_none (o : Occurs forge w) (some : w.explorer.entries ≠ []) :
    w.explorer.error = none := by
  rcases o.unbegun_or_reachable with unbegun | ⟨s, reachable⟩
  · exact absurd unbegun.bare.entries some
  · refine reachable.placed.fine ?_
    rw [reachable.placed.lookup_eq some]
    exact Option.some_ne_none _

/-- **The selection is always valid and on screen**, in the history after every run, and in the files
whatever comes of them, as long as the forge keeps directories apart from files.

* The selection is a row of the list, or where the first one would be, and the window holds it.
* An input leaves the window as it is if the selection stays in it, and moves it by the least amount
  otherwise.  Each directory has a window of its own: it is the one at the top when the directory is
  gone into, and when it is gone back to it is the window with which it was left.
* Drawn in an area of its own height, a list that is not empty has exactly the rows of the window on
  screen, and of these the row of the selection is marked.  The list is placed in the area in any way
  that leaves a window which holds the selection as it is; that in which it is drawn is one. -/
theorem selection_in_view (forge : Forge Set) (kinds : forge.KeepsKindsApart) :
    (∀ ops : List History.Operation,
      (History.run ops).InView ∧
      (∀ i, NearestWindow (History.run ops).offset ((History.run ops).input i).1.selected
        (History.run ops).height ((History.run ops).input i).1.offset) ∧
      ∀ (p : Placement) (now : Instant) (width : Nat), p.IsSteady → 0 < (History.run ops).height →
        (History.run ops).opened = none → (History.run ops).commits ≠ [] →
        ((History.run ops).drawBy p now width (History.run ops).height).ShowsFrom width
          (History.run ops).height (History.run ops).offset
          ((History.run ops).rowOf? now width)) ∧
    (∀ w : Walk, Occurs forge w →
      w.explorer.InView ∧
      (∀ i, NearestWindow w.explorer.offset (w.explorer.input i).1.selected w.explorer.height
          (w.explorer.input i).1.offset ∨
        ∃ u rest, w.explorer.history = u :: rest ∧ (w.explorer.input i).1.history = rest ∧
          (w.explorer.input i).1.path = u.path ∧ (w.explorer.input i).1.selected = u.selected ∧
          NearestWindow u.offset u.selected w.explorer.height (w.explorer.input i).1.offset) ∧
      ∀ (p : Placement) (width : Nat), p.IsSteady → 0 < w.explorer.height →
        w.explorer.opened = none → w.explorer.entries ≠ [] →
        (w.explorer.drawBy p width w.explorer.height).ShowsFrom width w.explorer.height
          w.explorer.offset (w.explorer.rowOf? width)) ∧
    Placement.IsSteady windowStart ∧
    (∀ (h : History) now width height,
      h.drawBy windowStart now width height = h.draw now width height) ∧
    ∀ (x : Explorer) width height, x.drawBy windowStart width height = x.draw width height := by
  refine ⟨fun ops => ⟨History.run_inView ops, fun i => ?_,
      fun p now width steady room closed some => ?_⟩,
    fun w o => ⟨o.inView kinds, fun i => ?_, fun p width steady room closed some => ?_⟩,
    windowStart_isSteady, History.drawBy_windowStart, Explorer.drawBy_windowStart⟩
  · exact ((History.run ops).input_response i).nearest (History.run_inView ops)
  · exact History.drawBy_shows steady (History.run_inView ops) now width room closed some
  · exact (w.explorer.input_response i).nearest (o.inView kinds)
  · exact Explorer.drawBy_shows steady (o.inView kinds) width room closed (o.error_eq_none some) some

/-- A run to the last of three commits, in a window of two rows. -/
def sampleRun : List History.Operation :=
  [.resize 40 2, .start Source.sample,
    .receive (.pageLoaded 1 ⟨List.replicate 3 ⟨"4f2c9a1", "begin", "someone", ⟨0, 0⟩⟩, none⟩),
    .input (.key ⟨.character 'G', {}⟩)]

/-- The last commit of that run is selected and on screen; and so is the second of two entries, in a
window of one row. -/
theorem selection_in_view_sample :
    sampleForge.KeepsKindsApart ∧
    ((History.run sampleRun).selected = 2 ∧ (History.run sampleRun).offset = 1 ∧
      ∀ now, ((History.run sampleRun).draw now 40 2).ShowsFrom 40 2 1
        ((History.run sampleRun).rowOf? now 40)) ∧
    ∃ w, Occurs sampleForge w ∧ w.explorer.entries = sampleEntries ∧ w.explorer.selected = 1 ∧
      (w.explorer.draw 40 1).ShowsFrom 40 1 1 (w.explorer.rowOf? 40) := by
  have kinds := sampleForge_separatesKinds.keepsKindsApart
  obtain ⟨histories, files, steady, -, -⟩ := selection_in_view sampleForge kinds
  refine ⟨kinds, ⟨rfl, rfl, fun now => ?_⟩, ?_⟩
  · obtain ⟨-, -, drawn⟩ := histories sampleRun
    exact drawn windowStart now 40 steady (by decide) rfl (by decide)
  · have o : Occurs sampleForge (begin {} Source.sample) := Occurs.new.begin Source.sample
    have flying : (begin {} Source.sample).inFlight = (0, Source.sample.listing "") ::ₘ 0 := rfl
    have o := o.step (.answered (r := ⟨Source.sample.listing "", .ok sampleEntries⟩) flying rfl rfl)
    rw [receive_sampleEntries] at o
    have o := o.step (.resized 40 1)
    have o := o.step (.input (.key ⟨.down, {}⟩))
    obtain ⟨-, -, drawn⟩ := files _ o
    exact ⟨_, o, rfl, rfl, drawn windowStart 40 steady (by decide) rfl (by decide)⟩

end Walk

end RepoBrowser
