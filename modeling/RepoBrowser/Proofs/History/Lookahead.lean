import RepoBrowser.Proofs.History.Window

/-!
# How far ahead commits are loaded

The next page is asked for once the selection is within a screen of the end of what is loaded.  A
history looks whether it is when a page arrives and when the selection moves, but not when the size
changes.  So a window that has become taller since may have room below the last commit although
there are more, and none of them is on its way.

* `looks`, `lastLook` — when a history looks, and how tall its window was when it did so last;
* `History.Ahead` — unless a page is on its way, or failed to arrive, or there are no more, the
  selection is more than a number of rows away from the end;
* `askNext_ahead`, `Ahead.operate`, `run_ahead` — looking makes it so, and whatever does not look
  leaves it so;
* `stays_ahead` — a window that is no taller than at the last look is full of commits;
* `taller_window_waits` — a taller one is not.
-/

namespace RepoBrowser

/-- Whether a move is one of the selection. -/
def Move.selects : Move → Bool
  | .enter | .back => false
  | _ => true

namespace History

/-- Whether a history looks if the next page is wanted. -/
def looks (h : History) : Operation → Bool
  | .receive (.pageLoaded n _) => h.pendingPage = some n
  | .input i => h.opened.isNone && (Move.ofInput? i).any Move.selects
  | _ => false

/-- The rows of the window at the last look of a sequence of operations, or else those given. -/
def lastLookFrom (h : History) (rows : Nat) : List Operation → Nat
  | [] => rows
  | op :: ops => lastLookFrom (h.operate op).1 (if h.looks op then h.height else rows) ops

/-- The rows of the window at the last look of a run. -/
def lastLook (ops : List Operation) : Nat := lastLookFrom {} 0 ops

/-- Unless a page is on its way or failed to arrive, or there are no more, the selection is more
than a number of rows away from the end. -/
def Ahead (h : History) (rows : Nat) : Prop :=
  ∀ s, h.source = some s → h.pendingPage = none → h.error = none → h.hasMore = true →
    h.selected + max rows 1 < h.commits.length

/-- The list of one history is that of another, and so is what is on its way to it. -/
structure SameList (h k : History) : Prop where
  source : k.source = h.source
  commits : k.commits = h.commits
  selected : k.selected = h.selected
  pending : k.pendingPage = h.pendingPage
  error : k.error = h.error
  total : k.total = h.total
  exhausted : k.exhausted = h.exhausted

variable {h k : History} {rows : Nat}

theorem SameList.refl (h : History) : SameList h h := ⟨rfl, rfl, rfl, rfl, rfl, rfl, rfl⟩

theorem SameList.hasMore_eq (same : SameList h k) : k.hasMore = h.hasMore := by
  unfold hasMore
  rw [same.exhausted, same.total, same.commits]

theorem Ahead.of_sameList (a : h.Ahead rows) (same : SameList h k) : k.Ahead rows := by
  intro s source idle fine more
  rw [same.selected, same.commits]
  exact a s (same.source ▸ source) (same.pending ▸ idle) (same.error ▸ fine)
    (same.hasMore_eq ▸ more)

/-! ### Looking, and not looking -/

theorem looks_input (h : History) (i : Input) :
    h.looks (.input i) = (h.opened.isNone && (Move.ofInput? i).any Move.selects) := rfl

/-- **To look is to be ahead**, by as many rows as there are. -/
theorem askNext_ahead (h : History) : h.askNext.1.Ahead h.height := by
  unfold askNext
  split
  · unfold askPage
    split
    · rename_i none
      exact fun s source => nomatch none.symm.trans source
    · exact fun s source idle => nomatch idle
  · -- nothing is on its way and there are more, so it is the distance that keeps from asking
    rename_i unwanted
    intro s source idle fine more
    rw [idle, more] at unwanted
    have far : h.isNearEnd = false := Bool.eq_false_of_not_eq_true unwanted
    exact Nat.not_le.mp (of_decide_eq_false far)

theorem input_of_looks {i : Input} (looking : h.looks (.input i) = true) :
    ∃ m, h.input i = h.select m := by
  rw [looks_input, Bool.and_eq_true] at looking
  obtain ⟨closed, selecting⟩ := looking
  unfold input
  rw [Option.isNone_iff_eq_none.mp closed]
  cases moved : Move.ofInput? i with
  | none =>
    rw [moved] at selecting
    exact nomatch selecting
  | some m =>
    rw [moved] at selecting
    refine ⟨m, ?_⟩
    cases m with
    | enter => exact nomatch selecting
    | back => exact nomatch selecting
    | _ => rfl

theorem input_of_not_looks {i : Input} (blind : h.looks (.input i) = false) :
    SameList h (h.input i).1 := by
  unfold input
  split
  · split <;> exact ⟨rfl, rfl, rfl, rfl, rfl, rfl, rfl⟩
  · rename_i closed
    split
    · rename_i m moved
      have resting : m.selects = false := by
        rw [looks_input, closed, moved] at blind
        exact blind
      cases m with
      | enter =>
        show SameList h h.openSelected.1
        unfold openSelected
        split <;> exact ⟨rfl, rfl, rfl, rfl, rfl, rfl, rfl⟩
      | back => exact .refl h
      | _ => exact nomatch resting
    · exact .refl h

theorem receive_of_looks {m : LogMessage} (looking : h.looks (.receive m) = true) :
    ∃ n page, h.receive m = (h.addPage n page).askNext := by
  cases m with
  | pageLoaded n page => exact ⟨n, page, if_pos (of_decide_eq_true looking)⟩
  | _ => exact nomatch looking

/-- A page that failed to arrive excuses what is not looked at. -/
theorem Receipt.ahead_of_not_looks {m : LogMessage} {out : History × List Request}
    (r : Receipt h m out) (blind : h.looks (.receive m) = false) (a : h.Ahead rows) :
    out.1.Ahead rows := by
  cases r with
  | dropped => exact a
  | pageAdded pending => exact nomatch blind.symm.trans (decide_eq_true pending)
  | pageMissed => exact fun s source idle fine => nomatch fine
  | detailShown => exact a.of_sameList ⟨rfl, rfl, rfl, rfl, rfl, rfl, rfl⟩
  | detailMissed => exact a.of_sameList ⟨rfl, rfl, rfl, rfl, rfl, rfl, rfl⟩

/-! ### Operations and runs -/

theorem Ahead.input (a : h.Ahead rows) (i : Input) :
    (h.input i).1.Ahead (if h.looks (.input i) then h.height else rows) := by
  cases looking : h.looks (.input i) with
  | true =>
    obtain ⟨m, moved⟩ := input_of_looks looking
    rw [moved]
    exact askNext_ahead _
  | false => exact a.of_sameList (input_of_not_looks looking)

theorem Ahead.receive (a : h.Ahead rows) (m : LogMessage) :
    (h.receive m).1.Ahead (if h.looks (.receive m) then h.height else rows) := by
  cases looking : h.looks (.receive m) with
  | true =>
    obtain ⟨n, page, added⟩ := receive_of_looks looking
    rw [added]
    exact askNext_ahead _
  | false => exact (h.receive_receipt m).ahead_of_not_looks looking a

/-- **Whatever looks makes it so, and whatever does not leaves it so.** -/
theorem Ahead.operate (a : h.Ahead rows) (op : Operation) :
    (h.operate op).1.Ahead (if h.looks op then h.height else rows) := by
  cases op with
  | reset => exact fun s source => nomatch source
  | start s => exact fun s source idle => nomatch idle
  | receive m => exact a.receive m
  | input i => exact a.input i
  | resize w hgt => exact a.of_sameList ⟨rfl, rfl, rfl, rfl, rfl, rfl, rfl⟩

theorem Ahead.runFrom (a : h.Ahead rows) (ops : List Operation) :
    (h.runFrom ops).Ahead (h.lastLookFrom rows ops) := by
  induction ops generalizing h rows with
  | nil => exact a
  | cons op ops ih => exact ih (a.operate op)

theorem run_ahead (ops : List Operation) : (run ops).Ahead (lastLook ops) :=
  Ahead.runFrom (h := {}) (fun _ source => nomatch source) ops

/-- **Commits are loaded a screen ahead**, in every run, as the screen was when the history last
looked whether a page is wanted: at the last page that arrived or the last move of the selection.
Unless a page is on its way or failed to arrive, or there are no more, the selection is further away
from the end than that; and if the window has not become taller since, it is full of commits, and
does not stand at their end. -/
theorem stays_ahead (ops : List Operation) {s : Source} (begun : (run ops).source = some s)
    (idle : (run ops).pendingPage = none) (fine : (run ops).error = none)
    (more : (run ops).hasMore = true) :
    (run ops).selected + max (lastLook ops) 1 < (run ops).commits.length ∧
    ((run ops).height ≤ max (lastLook ops) 1 →
      (run ops).selected + max (run ops).height 1 < (run ops).commits.length ∧
      (run ops).offset + max (run ops).height 1 < (run ops).commits.length) := by
  have ahead := run_ahead ops s begun idle fine more
  refine ⟨ahead, fun no_taller => ?_⟩
  have above := (run_inView ops).above
  omega

/-- A page of a longer history arrives in a window of ten rows, and then the window changes. -/
def resizedRun (rows : Nat) : List Operation :=
  [.resize 80 10, .start Source.sample,
    .receive (.pageLoaded 1
      ⟨List.replicate pageSize ⟨"4f2c9a1", "begin", "someone", ⟨0, 0⟩⟩, some 120⟩),
    .resize 80 rows]

/-- A window that becomes smaller is full of commits. -/
theorem stays_ahead_smaller :
    ((run (resizedRun 8)).source = some Source.sample ∧ (run (resizedRun 8)).pendingPage = none ∧
      (run (resizedRun 8)).error = none ∧ (run (resizedRun 8)).hasMore = true) ∧
    lastLook (resizedRun 8) = 10 ∧ (run (resizedRun 8)).height = 8 ∧
    (run (resizedRun 8)).offset + 8 < (run (resizedRun 8)).commits.length := by
  obtain ⟨-, full⟩ := stays_ahead (resizedRun 8) (s := Source.sample) rfl rfl rfl rfl
  exact ⟨⟨rfl, rfl, rfl, rfl⟩, rfl, rfl, (full (by decide)).2⟩

/-- **A window that becomes taller may have room below the last commit**, although there are more
and none of them is on its way: nothing is asked for when the size changes. -/
theorem taller_window_waits :
    ((run (resizedRun 60)).source = some Source.sample ∧ (run (resizedRun 60)).pendingPage = none ∧
      (run (resizedRun 60)).error = none ∧ (run (resizedRun 60)).hasMore = true) ∧
    ¬ (run (resizedRun 60)).selected + max (run (resizedRun 60)).height 1
      < (run (resizedRun 60)).commits.length ∧
    (run (resizedRun 60)).commits.length
      < (run (resizedRun 60)).offset + (run (resizedRun 60)).height :=
  ⟨⟨rfl, rfl, rfl, rfl⟩, by decide, by decide⟩

end History

end RepoBrowser
