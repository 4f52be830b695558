import RepoBrowser.Proofs.Browser.Arrival

/-!
# What fails is told, and nothing else changes

A failure tells its reason in one place and takes away at most the mark that something was waited
for.  No text, no list and no selection is lost to it, and nothing is asked for in its place.

* `Action.isFailure` — the actions that tell of a failure;
* `Failure` — what they do, each with the condition under which it does it;
* `act_failure` — every failure does one of these things, and asks for nothing;
* `Browser.withoutNotices` — all that is not a notice; `Failure.withoutNotices_eq` — it stays;
* `Browser.Reports` — the place where a failure that is of any interest is told;
* `run_refreshFault?_eq_none` — the status line can be brought up to date after every run, so that
  no failure stops the program;
* `failures_touch_notices` — all of it, after every run.
-/

namespace RepoBrowser

/-- Whether an action tells that something has failed. -/
def Action.isFailure : Action → Bool
  | .referenceFailed .. | .readmeFailed .. | .failed _
  | .log _ (.pageFailed ..) | .log _ (.detailFailed ..) | .files _ (.failed ..) => true
  | _ => false

/-! ### Notices -/

/-- All of a pager but that it waits for a text, and why there is none. -/
def Pager.withoutNotices (p : Pager) : Pager := { p with loading := false, error := none }

/-- All of a history but what it waits for, and what could not be loaded. -/
def History.withoutNotices (h : History) : History :=
  { h with pendingPage := none, error := none, diff := h.diff.withoutNotices }

/-- All of an explorer but what it waits for, and what could not be loaded. -/
def Explorer.withoutNotices (x : Explorer) : Explorer :=
  { x with pending := none, error := none, viewer := x.viewer.withoutNotices }

/-- All of a browser but the notices in it and what the status line says. -/
def Browser.withoutNotices (b : Browser) : Browser :=
  { b with
    statusLine := b.statusLine.say {}
    readme := b.readme.withoutNotices
    history := b.history.withoutNotices
    explorer := b.explorer.withoutNotices
    error := none }

namespace Browser

variable {b c : Browser} {a : Action} {rs : List Request}

/-! ### What a failure does -/

/-- What a failure does to a browser, the status line apart. -/
inductive Failure (b : Browser) : Action → Browser → Prop
  /-- Something has failed that another selection has asked for. -/
  | stale {a : Action} {g : Nat} (result : a.generation? = some g) (stale : b.isStale g = true) :
      Failure b a b
  | told (reason : String) : Failure b (.failed reason) { b with error := some reason }
  | unresolved {g : Nat} {reason : String} (fresh : b.isStale g = false) :
      Failure b (.referenceFailed g reason) { b with error := some reason }
  | noReadme {g : Nat} {reason : String} (fresh : b.isStale g = false) :
      Failure b (.readmeFailed g reason) { b with readme := b.readme.setError reason }
  | unwantedLog {g : Nat} {m : LogMessage} (fresh : b.isStale g = false)
      (foreign : ¬ b.history.Awaits m) : Failure b (.log g m) b
  | noPage {g n : Nat} {reason : String} (fresh : b.isStale g = false)
      (pending : b.history.pendingPage = some n) :
      Failure b (.log g (.pageFailed n reason))
        { b with history := { b.history with pendingPage := none, error := some reason } }
  | noChanges {g : Nat} {id reason : String} (fresh : b.isStale g = false)
      (opened : b.history.opened = some id) :
      Failure b (.log g (.detailFailed id reason))
        { b with history := { b.history with diff := b.history.diff.setError reason } }
  | unwantedFiles {g : Nat} {m : FilesMessage} (fresh : b.isStale g = false)
      (foreign : b.explorer.pending ≠ some m.path) : Failure b (.files g m) b
  | noFile {g : Nat} {f path reason : String} (fresh : b.isStale g = false)
      (pending : b.explorer.pending = some path) (opened : b.explorer.opened = some f) :
      Failure b (.files g (.failed path reason))
        { b with
          explorer :=
            { b.explorer with pending := none, viewer := b.explorer.viewer.setError reason } }
  | noListing {g : Nat} {path reason : String} (fresh : b.isStale g = false)
      (pending : b.explorer.pending = some path) (closed : b.explorer.opened = none) :
      Failure b (.files g (.failed path reason))
        { b with explorer := { b.explorer with pending := none, error := some reason } }

theorem log_failure {g : Nat} {m : LogMessage} {out : History × List Request}
    (receipt : b.history.Receipt m out) (failure : (Action.log g m).isFailure = true)
    (fresh : b.isStale g = false) :
    Failure b (.log g m) { b with history := out.1 } ∧ out.2 = [] := by
  cases receipt with
  | dropped _ foreign => exact ⟨.unwantedLog fresh foreign, rfl⟩
  | pageMissed pending => exact ⟨.noPage fresh pending, rfl⟩
  | detailMissed opened => exact ⟨.noChanges fresh opened, rfl⟩
  | pageAdded | detailShown => exact nomatch failure

theorem files_failure {g : Nat} {m : FilesMessage} {x : Explorer}
    (receipt : b.explorer.Receipt m x) (failure : (Action.files g m).isFailure = true)
    (fresh : b.isStale g = false) : Failure b (.files g m) { b with explorer := x } := by
  cases receipt with
  | dropped _ foreign => exact .unwantedFiles fresh foreign
  | fileMissed pending opened => exact .noFile fresh pending opened
  | listingMissed pending closed => exact .noListing fresh pending closed
  | listed | shown => exact nomatch failure

/-- **Every failure does one of these things, and asks for nothing.** -/
theorem act_failure (b : Browser) (failure : a.isFailure = true) :
    Failure b a (b.act a).browser ∧ (b.act a).requests = [] := by
  rcases b.stale_or_fresh a with ⟨g, result, stale⟩ | fresh
  · rw [act_of_stale result stale]
    exact ⟨.stale result stale, rfl⟩
  cases a with
  | failed reason => exact ⟨.told reason, rfl⟩
  | referenceFailed g reason =>
    rw [act_referenceFailed (fresh g rfl)]
    exact ⟨.unresolved (fresh g rfl), rfl⟩
  | readmeFailed g reason =>
    rw [act_readmeFailed (fresh g rfl)]
    exact ⟨.noReadme (fresh g rfl), rfl⟩
  | log g m =>
    rw [act_log (fresh g rfl)]
    exact log_failure (b.history.receive_receipt m) failure (fresh g rfl)
  | files g m =>
    rw [act_files (fresh g rfl)]
    exact ⟨files_failure (b.explorer.receive_receipt m) failure (fresh g rfl), rfl⟩
  | _ => exact nomatch failure

/-! ### What stays, and where the failure is told -/

/-- **Only notices change.** -/
theorem Failure.withoutNotices_eq (f : Failure b a c) : c.withoutNotices = b.withoutNotices := by
  cases f <;> rfl

theorem withoutNotices_refresh (b : Browser) : b.refresh.withoutNotices = b.withoutNotices := by
  unfold refresh
  split <;> rfl

theorem Failure.statusLine_eq (f : Failure b a c) : c.statusLine = b.statusLine := by
  cases f <;> rfl

theorem Failure.readme_eq (f : Failure b a c) (other : a.subject? ≠ some .readme) :
    c.readme = b.readme := by
  cases f with
  | noReadme => exact absurd rfl other
  | _ => rfl

theorem Failure.history_eq (f : Failure b a c)
    (other : ∀ g m, a = .log g m → ¬ b.history.Awaits m) : c.history = b.history := by
  cases f with
  | noPage _ pending => exact absurd pending (other _ _ rfl)
  | noChanges _ opened => exact absurd opened (other _ _ rfl)
  | _ => rfl

theorem Failure.explorer_eq (f : Failure b a c)
    (other : ∀ g m, a = .files g m → b.explorer.pending ≠ some m.path) :
    c.explorer = b.explorer := by
  cases f with
  | noFile _ pending => exact absurd pending (other _ _ rfl)
  | noListing _ pending => exact absurd pending (other _ _ rfl)
  | _ => rfl

/-- What fails in a view is told in that view. -/
theorem Failure.error_eq (f : Failure b a c) {k : Subject} (about : a.subject? = some k)
    (view : k ≠ .reference) : c.error = b.error := by
  cases f with
  | told => exact nomatch about
  | unresolved => exact absurd (Option.some.inj about).symm view
  | _ => rfl

/-- The reason of a failure stands in the place for it, if what has failed is still wanted; the view
that waited for it waits no longer. -/
def Reports (b c : Browser) : Action → Prop
  | .failed reason | .referenceFailed _ reason => c.error = some reason
  | .readmeFailed _ reason => c.readme = b.readme.setError reason
  | .log _ (.pageFailed n reason) => b.history.pendingPage = some n →
      c.history = { b.history with pendingPage := none, error := some reason }
  | .log _ (.detailFailed id reason) => b.history.opened = some id →
      c.history = { b.history with diff := b.history.diff.setError reason }
  | .files _ (.failed path reason) => b.explorer.pending = some path →
      c.explorer = match b.explorer.opened with
        | some _ => { b.explorer with
            pending := none, viewer := b.explorer.viewer.setError reason }
        | none => { b.explorer with pending := none, error := some reason }
  | _ => True

theorem Failure.reports (f : Failure b a c)
    (fresh : ∀ g, a.generation? = some g → b.isStale g = false) : b.Reports c a := by
  cases f with
  | stale result stale => exact nomatch stale.symm.trans (fresh _ result)
  | told => rfl
  | unresolved => rfl
  | noReadme => rfl
  | noPage => exact fun _ => rfl
  | noChanges => exact fun _ => rfl
  | noFile _ _ opened =>
    intro _
    rw [opened]
  | noListing _ _ closed =>
    intro _
    rw [closed]
  | @unwantedLog g m _ foreign =>
    cases m with
    | pageFailed | detailFailed => exact fun wanted => absurd wanted foreign
    | _ => trivial
  | @unwantedFiles g m _ foreign =>
    cases m with
    | failed => exact fun wanted => absurd wanted foreign
    | _ => trivial

/-! ### No fault -/

/-- A failure leaves what the status line reads of the selected commit. -/
theorem Failure.refreshFault?_eq (f : Failure b a c) : c.refreshFault? = b.refreshFault? := by
  cases f <;> rfl

theorem refreshFault?_refresh (b : Browser) : b.refresh.refreshFault? = b.refreshFault? := by
  obtain ⟨l, hl⟩ := b.refresh_eq
  rw [hl]
  rfl

/-- A fault of the status line stops the program when it is first brought up to date. -/
theorem refreshFault?_update (h : b.refreshFault? = none) (update : b.update a = .ok (c, rs)) :
    c.refreshFault? = none := by
  obtain ⟨faultless, happly⟩ := update_eq_ok_iff.mp update
  obtain ⟨-, shown⟩ := fault?_eq_none_iff.mp faultless
  cases refreshes : (b.act a).refreshes with
  | true =>
    rw [apply_of_refreshes refreshes] at happly
    rw [← (Prod.mk.inj happly).1, refreshFault?_refresh]
    exact shown refreshes
  | false =>
    rw [apply_of_silent refreshes] at happly
    rw [← (Prod.mk.inj happly).1, (act_silent refreshes).refreshFault?_eq]
    exact h

/-- **After every run the status line can be brought up to date.** -/
theorem run_refreshFault?_eq_none {layout : Layout} {actions : List Action}
    (h : (ofLayout layout).run actions = .ok b) : b.refreshFault? = none :=
  run_induction (P := fun b => b.refreshFault? = none)
    (fun hb update => refreshFault?_update hb update) rfl h

/-- So no failure stops the program. -/
theorem update_failure (faultless : b.refreshFault? = none) (failure : a.isFailure = true) :
    b.update a = .ok ((b.apply a).1, []) := by
  obtain ⟨f, requests⟩ := b.act_failure failure
  have received : b.receivedFault? a = none := by
    cases a with
    | log g m =>
      cases m with
      | pageFailed | detailFailed => exact ite_self _
      | _ => exact nomatch failure
    | _ => rfl
  refine update_eq_ok_iff.mpr ⟨fault?_eq_none_iff.mpr ⟨received, fun _ => ?_⟩, ?_⟩
  · rw [f.refreshFault?_eq]
    exact faultless
  · rw [← requests]
    rfl

/-! ### After every run -/

theorem apply_withoutNotices (f : Failure b a (b.act a).browser) :
    (b.apply a).1.withoutNotices = b.withoutNotices := by
  cases refreshes : (b.act a).refreshes with
  | true => rw [apply_of_refreshes refreshes, withoutNotices_refresh, f.withoutNotices_eq]
  | false => rw [apply_of_silent refreshes, f.withoutNotices_eq]

/-- The status line is left alone or brought up to date. -/
theorem apply_statusLine (f : Failure b a (b.act a).browser) :
    (b.apply a).1.statusLine = b.statusLine ∨
      ∃ r, (b.apply a).1.repository = some r ∧
        (b.apply a).1.statusLine.status = (b.apply a).1.statusOf r := by
  cases refreshes : (b.act a).refreshes with
  | true =>
    rw [apply_of_refreshes refreshes]
    rcases Option.eq_none_or_eq_some (b.act a).browser.repository with unselected | ⟨r, selected⟩
    · rw [refresh_of_unselected unselected]
      exact .inl f.statusLine_eq
    · rw [refresh_of_selected selected]
      exact .inr ⟨r, selected, rfl⟩
  | false =>
    rw [apply_of_silent refreshes]
    exact .inl f.statusLine_eq

/-- **A failure changes notices, and nothing else.**  After every run each failure, of any selection
and about anything, asks for nothing.

* All but the notices and the status line stays: the selection, its reference and the tab, all
  sizes, texts and offsets, the commits and their total, the directories and the way back, the
  selections in both lists and what is open.
* Of the views only the one that the failure is about can change; the notice of the whole browser
  changes only if the failure is about none of them.
* The status line says what it said before, or what there is to say now.
* A failure in another selection changes nothing at all.  One that is about a page, a commit or a
  path that is not wanted leaves its view.
* Any other is told in its place. -/
theorem failures_touch_notices (layout : Layout) (actions : List Action) (b : Browser)
    (h : (ofLayout layout).run actions = .ok b) (a : Action) (failure : a.isFailure = true) :
    ∃ c, b.update a = .ok (c, []) ∧
      c.withoutNotices = b.withoutNotices ∧
      (a.subject? ≠ some .readme → c.readme = b.readme) ∧
      (a.subject? ≠ some .log → c.history = b.history) ∧
      (a.subject? ≠ some .files → c.explorer = b.explorer) ∧
      (∀ k, a.subject? = some k → k ≠ .reference → c.error = b.error) ∧
      (c.statusLine = b.statusLine ∨
        ∃ r, c.repository = some r ∧ c.statusLine.status = c.statusOf r) ∧
      (∀ g, a.generation? = some g → b.repository = none ∨ g ≠ b.generation → c = b) ∧
      (∀ g m, a = .log g m → ¬ b.history.Awaits m → c.history = b.history) ∧
      (∀ g m, a = .files g m → b.explorer.pending ≠ some m.path → c.explorer = b.explorer) ∧
      ((∀ g, a.generation? = some g → b.isStale g = false) → b.Reports c a) := by
  obtain ⟨f, -⟩ := b.act_failure failure
  have update := update_failure (run_refreshFault?_eq_none h) failure
  obtain ⟨-, l, same⟩ := act_of_update update
  refine ⟨_, update, apply_withoutNotices f, ?_, ?_, ?_, ?_, apply_statusLine f, ?_, ?_, ?_, ?_⟩
  · rw [same]
    exact f.readme_eq
  · intro other
    rw [same]
    exact f.history_eq fun g m log => absurd (congrArg Action.subject? log) other
  · intro other
    rw [same]
    exact f.explorer_eq fun g m files => absurd (congrArg Action.subject? files) other
  · rw [same]
    exact fun k => f.error_eq
  · intro g result foreign
    have stale : b.isStale g = true := by simpa [isStale] using foreign
    have silent : b.act a = ⟨b, [], false⟩ := act_of_stale result stale
    rw [apply_of_silent (congrArg Outcome.refreshes silent), silent]
  · intro g m log foreign
    rw [same]
    refine f.history_eq fun g' m' log' => ?_
    obtain ⟨-, rfl⟩ := Action.log.inj (log.symm.trans log')
    exact foreign
  · intro g m files foreign
    rw [same]
    refine f.explorer_eq fun g' m' files' => ?_
    obtain ⟨-, rfl⟩ := Action.files.inj (files.symm.trans files')
    exact foreign
  · intro fresh
    rw [same]
    exact f.reports fresh

/-- The first page cannot be loaded while the root directory is waited for. -/
theorem failures_touch_notices_sample :
    ∃ b c, (ofLayout {}).run
        [.selectRepository Source.sample.ticket.repository,
          .referenceResolved 1 Source.sample.reference, .tabChanged .commits] = .ok b ∧
      b.history.pendingPage = some 1 ∧
      b.update (.log 1 (.pageFailed 1 "no answer")) = .ok (c, []) ∧
      c.history.pendingPage = none ∧ c.history.error = some "no answer" ∧
      c.explorer = b.explorer ∧ c.explorer.pending = some "" ∧ c.error = none := by
  obtain ⟨c, update, -, -, -, files, notice, -, -, -, -, reports⟩ := failures_touch_notices {}
    [.selectRepository Source.sample.ticket.repository,
      .referenceResolved 1 Source.sample.reference, .tabChanged .commits] _ rfl
    (.log 1 (.pageFailed 1 "no answer")) rfl
  have told := reports (fun g current => Option.some.inj current ▸ rfl) rfl
  have kept := files (by decide)
  exact ⟨_, c, rfl, rfl, update, congrArg History.pendingPage told, congrArg History.error told,
    kept, congrArg Explorer.pending kept, notice _ rfl (by decide)⟩

end Browser

end RepoBrowser
