import RepoBrowser.History.Draw
import RepoBrowser.Proofs.History.Response
import RepoBrowser.Proofs.History.Run
import RepoBrowser.Proofs.Screen.Window

/-!
# The window on a history

Moves, pages and changes of the size all touch what the window hangs on, each another part of it.

* `History.InView` — the selection is one of the commits, and in the window;
* `InView.operate`, `run_inView` — so it is after every operation and after every run;
* `Response.nearest` — an input leaves the window or moves it by the least amount;
* `History.drawBy`, `drawBy_shows` — with any steady way to draw a list, the commits of the window
  are on screen.
-/

namespace RepoBrowser.History

open Time (Instant)

/-- The selection is one of the commits, and in the window. -/
def InView (h : History) : Prop := SelectionInView h.commits.length h.offset h.selected h.height

variable {h : History} {i : Input} {m : LogMessage} {out : History × List Request}

/-! ### Operations and runs -/

theorem Turn.inView (t : Turn h out) (v : h.InView) : out.1.InView := by
  cases t <;> exact v

/-- A move selects another row, and the window follows it. -/
theorem InView.select (v : h.InView) (m : Move) :
    History.InView { h with
      selected := step h.selected h.commits.length m h.height
      offset := follow h.offset (step h.selected h.commits.length m h.height) h.height } :=
  SelectionInView.step v m h.height

theorem Response.inView (r : Response h i out) (v : h.InView) : out.1.InView := by
  cases r with
  | moved _ m turn => exact turn.inView (v.select m)
  | _ => exact ⟨v.inside, v.above, v.below⟩

theorem Receipt.inView (r : Receipt h m out) (v : h.InView) : out.1.InView := by
  cases r with
  | @pageAdded n page _ _ turn =>
    refine turn.inView ?_
    show SelectionInView (h.commits ++ page.items).length h.offset h.selected h.height
    rw [List.length_append]
    exact v.grow page.items.length
  | _ => exact ⟨v.inside, v.above, v.below⟩

theorem InView.setSize (v : h.InView) (width height : Nat) : (h.setSize width height).InView :=
  follow_inView v.inside h.offset height

theorem reset_inView (h : History) : h.reset.InView :=
  InView.setSize (h := {}) (top_inView 0 0) h.width h.height

/-- **Every operation keeps the selection in view.** -/
theorem InView.operate (v : h.InView) (op : Operation) : (h.operate op).1.InView := by
  cases op with
  | reset => exact h.reset_inView
  | start s => exact h.reset_inView
  | receive m => exact (h.receive_receipt m).inView v
  | input i => exact (h.input_response i).inView v
  | resize width height => exact v.setSize width height

theorem run_inView (ops : List Operation) : (run ops).InView :=
  run_induction (top_inView 0 0) (fun _ op v => v.operate op) ops

/-! ### The least amount -/

theorem Turn.offset_eq (t : Turn h out) : out.1.offset = h.offset := by
  cases t <;> rfl

/-- **An input moves the window by the least amount** that brings the selection into view, which is
nothing if it is in view already. -/
theorem Response.nearest (r : Response h i out) (v : h.InView) :
    NearestWindow h.offset out.1.selected h.height out.1.offset := by
  cases r with
  | moved _ m turn =>
    rw [turn.commits_eq.1, turn.offset_eq]
    exact follow_nearest h.offset _ h.height
  | _ => exact v.nearest

/-! ### On screen -/

/-- The row of a commit; that of the selected one is marked. -/
def rowOf? (h : History) (now : Instant) (w j : Nat) : Option Row :=
  h.commits[j]?.map fun c => listRow w (j = h.selected) (commitSpans now w (j = h.selected) c)

/-- What is on screen in an area, with the list in the place that it is given. -/
def drawBy (p : Placement) (h : History) (now : Instant) (width height : Nat) : Screen :=
  match h.opened with
  | some _ => h.diff.draw width height
  | none =>
    if h.commits.isEmpty then
      plainParagraph width height (.inColour h.emptyNotice.2) h.emptyNotice.1
    else listOfRowsBy p width height h.offset h.selected (h.rows now width)

theorem drawBy_windowStart (h : History) (now : Instant) (width height : Nat) :
    h.drawBy windowStart now width height = h.draw now width height := rfl

/-- **On screen are the commits of the window**, in an area as high as the history is. -/
theorem drawBy_shows {p : Placement} (steady : p.IsSteady) (v : h.InView) (now : Instant) (w : Nat)
    (room : 0 < h.height) (closed : h.opened = none) (some : h.commits ≠ []) :
    (h.drawBy p now w h.height).ShowsFrom w h.height h.offset (h.rowOf? now w) := by
  have length : (h.rows now w).length = h.commits.length := List.length_mapIdx
  have nonempty : h.rows now w ≠ [] := by
    intro empty
    rw [empty] at length
    exact some (List.length_eq_zero_iff.mp length.symm)
  have drawn : h.drawBy p now w h.height
      = listOfRowsBy p w h.height h.offset h.selected (h.rows now w) := by
    unfold drawBy
    rw [closed]
    exact if_neg (mt List.isEmpty_iff.mp some)
  have rows : (fun j => (h.rows now w)[j]?.map (listRow w (j = h.selected))) = h.rowOf? now w := by
    funext j
    unfold History.rows rowOf?
    rw [List.getElem?_mapIdx, Option.map_map]
    rfl
  rw [drawn, ← rows]
  exact listOfRowsBy_shows steady w (length ▸ v) room nonempty

end RepoBrowser.History
