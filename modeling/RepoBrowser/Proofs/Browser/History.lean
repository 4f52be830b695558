import RepoBrowser.Proofs.Browser.Routing
import RepoBrowser.Proofs.History.Lookahead
import RepoBrowser.Proofs.History.Total

/-!
# The history of a browser

What a browser does to its history is decided without looking at any view, and nothing else is done
to it.  So the history of a browser is one that has been through these operations alone, and what
holds after every run of a history holds in every browser, whatever happens around it.

* `Browser.historyOperations` — what a run of a browser does to its history;
* `history_eq_run`, `history_of_run` — the history is that of a run of its own, and has what such
  runs have;
* `history_paged`, `history_tallied` — its commits are the pages that were accepted, and their
  number is the one that was reported or counted;
* `history_inView`, `history_ahead` — its selection is in the window, and as far from the end as the
  window was high when it was last looked at;
* `history_commits` — since it was last begun, its commits are whole pages, numbered from one on.
-/

namespace RepoBrowser.Browser

open History (Operation PageEvent Paged Tallied accepted events lastLook)

variable {layout : Layout} {actions : List Action} {b : Browser}

/-- What a run of a new browser does to its history. -/
def historyOperations (layout : Layout) (actions : List Action) : List Operation :=
  ((ofLayout layout).router.deliveries historyView actions).map Delivery.operation

/-- **The history of a browser is that of a run of its own.** -/
theorem history_eq_run (h : (ofLayout layout).run actions = .ok b) :
    b.history = History.run (historyOperations layout actions) := by
  obtain ⟨-, hviews⟩ := run_eq h
  have hhistory := congrArg Views.history hviews
  refine hhistory.trans ?_
  unfold History.run History.runFrom historyOperations
  rw [List.foldl_map]
  rfl

/-- What holds after every run of a history holds in every browser. -/
theorem history_of_run {P : History → List Operation → Prop}
    (alone : ∀ ops, P (History.run ops) ops) (h : (ofLayout layout).run actions = .ok b) :
    P b.history (historyOperations layout actions) := by
  rw [history_eq_run h]
  exact alone _

theorem history_paged (h : (ofLayout layout).run actions = .ok b) :
    Paged b.history (events (historyOperations layout actions)) :=
  history_of_run (P := fun k ops => Paged k (events ops)) History.run_paged h

theorem history_tallied (h : (ofLayout layout).run actions = .ok b) :
    Tallied b.history (events (historyOperations layout actions)) :=
  history_of_run (P := fun k ops => Tallied k (events ops)) History.run_tallied h

theorem history_inView (h : (ofLayout layout).run actions = .ok b) : b.history.InView :=
  history_of_run (P := fun k _ => k.InView) History.run_inView h

theorem history_ahead (h : (ofLayout layout).run actions = .ok b) :
    b.history.Ahead (lastLook (historyOperations layout actions)) :=
  history_of_run (P := fun k ops => k.Ahead (lastLook ops)) History.run_ahead h

/-- **The commits of a browser are whole pages**, numbered from one on, that arrived since its
history was last begun or reset, and at most the page behind them is on its way.  No tab, no other
view and no earlier selection leaves a gap or puts anything in between. -/
theorem history_commits (h : (ofLayout layout).run actions = .ok b) :
    b.history.commits
      = (accepted (events (historyOperations layout actions))).flatMap (·.2.items) ∧
    (accepted (events (historyOperations layout actions))).map Prod.fst
      = List.range' 1 b.history.loadedPages ∧
    ∀ n, b.history.pendingPage = some n → n = b.history.loadedPages + 1 := by
  have p := history_paged h
  refine ⟨p.commits, ?_, fun n pending => p.next pending⟩
  rw [p.loaded]
  exact p.orderly.numbers.1

end RepoBrowser.Browser
