import RepoBrowser.Proofs.Browser.Agreement
import RepoBrowser.Proofs.Explorer.Waiting
import RepoBrowser.Proofs.History.Waiting

/-!
# What a browser waits for

* `Browser.Wants` — the requests whose answers a browser waits for, those for pages apart;
* `Browser.Poised` — no view waits before it has anything to wait for;
* `Browser.AtRest` — no view waits at all;
* `Change.wants` — what a change makes a browser wait for, it asks for;
* `Wants.answered` — an answer ends the waiting for it;
* `Change.awaited`, `awaited_of_answer` — the account of pages;
* `Change.listing_asked`, `Change.opened_eq` — only directories are listed, and only files and links
  are opened.
-/

namespace RepoBrowser.Browser

/-- The requests whose answers are waited for, those for pages apart. -/
inductive Wants (b : Browser) : Request → Prop
  | readme {t : Ticket} (ticket : b.ticket? = some t) (loading : b.readme.loading = true) :
      Wants b (.fetchReadme t)
  | history {w : Request} (wants : b.history.Wants w) : Wants b w
  | explorer {w : Request} (wants : b.explorer.Wants w) : Wants b w

/-- Before there is a selection the readme is not loading, and the other views are poised. -/
structure Poised (b : Browser) : Prop where
  readme : b.ticket? = none → b.readme.loading = false
  history : b.history.Poised
  explorer : b.explorer.Poised

/-- Nothing that is shown is loading, and nothing is pending. -/
structure AtRest (b : Browser) : Prop where
  readme : b.readme.loading = false
  page : b.history.pendingPage = none
  changes : ∀ id, b.history.opened = some id → b.history.diff.loading = false
  explorer : b.explorer.pending = none
  file : ∀ f, b.explorer.opened = some f → b.explorer.viewer.loading = false

variable {b b' : Browser} {a : Action} {rs : List Request} {w : Request}

/-- What is waited for belongs to the current selection. -/
theorem Wants.exists_ticket (hw : b.Wants w) (hb : Agrees b) :
    ∃ t, b.ticket? = some t ∧ w.ticket? = some t := by
  cases hw with
  | readme ht _ => exact ⟨_, ht, rfl⟩
  | history hw =>
    obtain ⟨s, hs, hticket⟩ := hw.exists_source
    exact ⟨s.ticket, (source?_eq_some_iff.mp (hb.history.symm.trans hs)).1, hticket⟩
  | explorer hw =>
    obtain ⟨s, hs, hticket⟩ := hw.exists_source
    exact ⟨s.ticket, (source?_eq_some_iff.mp (hb.explorer.symm.trans hs)).1, hticket⟩

/-- The status line waits for nothing. -/
theorem Wants.withoutStatus {l : StatusLine} (hw : ({ b with statusLine := l } : Browser).Wants w) :
    b.Wants w := by
  cases hw with
  | readme ht hl => exact .readme ht hl
  | history hw => exact .history hw
  | explorer hw => exact .explorer hw

/-! ### What is waited for is asked for -/

/-- As long as the selection is the same, what is waited for is what each view waits for. -/
theorem Wants.keep (hw : b'.Wants w) (ticket : b'.ticket? = b.ticket?)
    (readme : b'.readme.loading = true → b.readme.loading = true)
    (history : b'.history.Wants w → w ∈ rs ∨ b.history.Wants w)
    (explorer : b'.explorer.Wants w → w ∈ rs ∨ b.explorer.Wants w) : w ∈ rs ∨ b.Wants w := by
  cases hw with
  | readme ht loading =>
    rw [ticket] at ht
    exact .inr (.readme ht (readme loading))
  | history hw => exact (history hw).imp_right .history
  | explorer hw => exact (explorer hw).imp_right .explorer

/-- **What a change makes a browser wait for, it asks for.** -/
theorem Change.wants (c : b.Change a b' rs) (hw : b'.Wants w) : w ∈ rs ∨ b.Wants w := by
  cases c with
  | selected r =>
    cases hw with
    | readme ht _ =>
      obtain rfl := Option.some.inj ht
      exact .inl List.mem_cons_self
    | history hw => exact absurd hw (History.not_wants_of_closed rfl)
    | explorer hw => exact absurd hw (Explorer.not_wants_of_idle rfl)
  | @resolved r n selected stage =>
    refine hw.keep rfl id (fun h => absurd h (History.not_wants_of_closed rfl)) fun h => ?_
    cases h with
    | listing hs _ hp =>
      obtain rfl := Option.some.inj hs
      obtain rfl := Option.some.inj hp
      exact .inl (List.mem_append_right _ (List.mem_singleton_self _))
    | file _ ho _ => exact nomatch ho
  | readmeShown => exact hw.keep rfl (nomatch ·) .inr .inr
  | readmeMissed => exact hw.keep rfl (nomatch ·) .inr .inr
  | @logReceived r m selected =>
    exact hw.keep rfl id (fun h => .inr ((b.history.receive_receipt m).wants h)) .inr
  | @filesReceived r m selected =>
    exact hw.keep rfl id .inr fun h => .inr ((b.explorer.receive_receipt m).wants h).1
  | resized width height =>
    exact hw.keep rfl id (fun h => .inr (h.of_eq rfl rfl rfl)) fun h => .inr (h.of_eq rfl rfl rfl)
  | @readmeInput i r selected tab error =>
    exact hw.keep rfl (fun hl => (b.readme.loading_input i).symm.trans hl) .inr .inr
  | @filesInput i r selected tab error =>
    exact hw.keep rfl id .inr (b.explorer.input_response i).wants
  | @commitsInput i r selected tab error =>
    exact hw.keep rfl id (b.history.input_response i).wants .inr
  | _ => exact hw.keep rfl id .inr .inr

/-! ### An answer ends the waiting -/

theorem isStale_eq_false {t : Ticket} (ht : b.ticket? = some t) :
    b.isStale t.generation = false := by
  obtain ⟨hr, hg⟩ := ticket?_eq_some_iff.mp ht
  unfold isStale
  rw [hr, hg]
  simp

theorem act_log_history {g : Nat} (fresh : b.isStale g = false) (m : LogMessage) :
    (b.act (.log g m)).browser.history = (b.history.receive m).1 := by
  simp [act, fresh]

theorem act_log_requests {g : Nat} (fresh : b.isStale g = false) (m : LogMessage) :
    (b.act (.log g m)).requests = (b.history.receive m).2 := by
  simp [act, fresh]

theorem act_files_explorer {g : Nat} (fresh : b.isStale g = false) (m : FilesMessage) :
    (b.act (.files g m)).browser.explorer = b.explorer.receive m := by
  simp [act, fresh]

/-- Whatever comes of the request for a readme, the readme is no longer loading. -/
theorem act_readme_loading {t : Ticket} (ht : b.ticket? = some t)
    (o : (Request.fetchReadme t).query.Outcome) :
    (b.act ((Request.fetchReadme t).answer o)).browser.readme.loading = false := by
  have fresh := isStale_eq_false ht
  cases o with
  | error e => simp [Request.answer, act, fresh, Pager.setError]
  | ok readme => simp [Request.answer, act, fresh, Pager.setContent]

/-- **An answer ends the waiting for it**, whether it brings something or an error. -/
theorem Wants.answered (hw : b.Wants w) (hb : Agrees b) {o : w.query.Outcome} (named : w.Names o) :
    ¬ (b.act (w.answer o)).browser.Wants w := by
  obtain ⟨t, ht, hwt⟩ := hw.exists_ticket hb
  have fresh := isStale_eq_false ht
  intro hw'
  cases hw with
  | readme ht' _ =>
    cases hw' with
    | readme _ loading => exact nomatch (act_readme_loading ht' o).symm.trans loading
    | history h => exact nomatch h
    | explorer h => exact nomatch h
  | history hw =>
    obtain ⟨m, id, hm, opened, about⟩ := hw.exists_message hwt named
    rw [hm] at hw'
    cases hw' with
    | readme => exact nomatch hw
    | history h =>
      rw [act_log_history fresh] at h
      exact (b.history.receive_receipt m).settled opened about h
    | explorer h =>
      cases hw
      exact nomatch h
  | explorer hw =>
    obtain ⟨m, hm, pending⟩ := hw.exists_message hwt o
    rw [hm] at hw'
    cases hw' with
    | readme => exact nomatch hw
    | history h =>
      cases h
      exact nomatch hw
    | explorer h =>
      rw [act_files_explorer fresh] at h
      exact ((b.explorer.receive_receipt m).wants h).2 pending

/-! ### The account of pages -/

/-- A selection begins a new number; nothing else changes it. -/
theorem Change.generation_eq (c : b.Change a b' rs) :
    b'.generation = b.generation ∨
      ∃ r, a = .selectRepository r ∧ b' = (b.select r).1 ∧ rs = (b.select r).2 := by
  cases c with
  | selected r => exact .inr ⟨r, rfl, rfl, rfl⟩
  | _ => exact .inl rfl

theorem Agrees.generation_of_source (hb : Agrees b) :
    ∀ s, b.history.source = some s → s.ticket.generation = b.generation := by
  intro s hs
  have ht := (source?_eq_some_iff.mp (hb.history.symm.trans hs)).1
  exact (ticket?_eq_some_iff.mp ht).2

/-- Requests of an explorer are not for pages. -/
theorem filter_isPageOf_eq_nil {x : Explorer} {i : Input} {out : Explorer × List Request}
    (r : Explorer.Response x i out) (g : Nat) : out.2.filter (Request.isPageOf g) = [] := by
  cases r <;> rfl

/-- **What is awaited is what was awaited and what is asked for**, as long as the selection is the
same and nothing arrives about a page. -/
theorem Change.awaited (c : b.Change a b' rs) (hb : Agrees b)
    (same : b'.generation = b.generation)
    (foreign : ∀ m, a = .log b.generation m → m.page? = none) :
    b'.history.awaited = b.history.awaited ++ rs.filter (Request.isPageOf b.generation) := by
  cases c with
  | selected r => exact absurd same (Nat.succ_ne_self _)
  | @resolved r n selected stage =>
    obtain ⟨-, idle, -⟩ := hb.rests (by rw [stage]; decide)
    have hpage : Request.isPageOf b.generation (.fetchCommits ⟨b.generation, r⟩ n 1) :=
      decide_eq_true rfl
    rw [History.awaited_of_idle idle]
    exact (List.filter_cons_of_pos (l := [.fetchListing ⟨b.generation, r⟩ n ""]) hpage).symm
  | @logReceived r m selected =>
    exact (b.history.receive_receipt m).awaited_of_foreign (foreign m rfl)
  | resized width height => exact History.awaited_eq_append rfl rfl rfl
  | @filesInput i r selected tab error =>
    exact History.awaited_eq_append rfl rfl (filter_isPageOf_eq_nil (b.explorer.input_response i) _)
  | @commitsInput i r selected tab error =>
    exact (b.history.input_response i).awaited hb.generation_of_source
  | _ => exact (List.append_nil _).symm

/-- **After an answer to the request that was awaited, only what is asked for anew is awaited.** -/
theorem awaited_of_answer (hb : Agrees b) (hw : w ∈ b.history.awaited) (o : w.query.Outcome) :
    (b.act (w.answer o)).browser.history.awaited
      = (b.act (w.answer o)).requests.filter (Request.isPageOf b.generation) := by
  obtain ⟨s, n, source, pending, rfl⟩ := History.eq_of_mem_awaited hw
  have fresh : b.isStale s.ticket.generation = false :=
    isStale_eq_false (source?_eq_some_iff.mp (hb.history.symm.trans source)).1
  obtain ⟨m, hm, about⟩ : ∃ m, (Request.fetchCommits s.ticket s.reference n).answer o
      = .log s.ticket.generation m ∧ m.page? = some n := by
    cases o <;> exact ⟨_, rfl, rfl⟩
  rw [hm, act_log_history fresh, act_log_requests fresh]
  exact (b.history.receive_receipt m).awaited_of_page pending about hb.generation_of_source

/-! ### No view waits without something to wait for -/

/-- A listing of the path of the file that is open would be taken for the file; none may come. -/
theorem Change.poised (c : b.Change a b' rs) (p : Poised b)
    (apart : ∀ path entries, a = .files b.generation (.listing path entries) →
      b.explorer.opened ≠ some path) : Poised b' := by
  cases c with
  | selected r =>
    exact ⟨(nomatch ·), ⟨fun _ => rfl, fun _ => rfl⟩, Explorer.poised_of_idle rfl fun _ _ => rfl⟩
  | @resolved r n selected stage =>
    refine ⟨p.readme, ⟨(nomatch ·), fun _ => rfl⟩, (nomatch ·), fun q _ hp => ?_,
      fun _ => (nomatch ·)⟩
    obtain rfl := Option.some.inj hp
    exact ⟨rfl, rfl⟩
  | readmeShown => exact ⟨fun _ => rfl, p.history, p.explorer⟩
  | readmeMissed => exact ⟨fun _ => rfl, p.history, p.explorer⟩
  | @logReceived r m selected =>
    exact ⟨p.readme, (b.history.receive_receipt m).poised p.history, p.explorer⟩
  | @filesReceived r m selected =>
    refine ⟨p.readme, p.history, (b.explorer.receive_receipt m).poised p.explorer ?_⟩
    rintro path entries rfl
    exact apart path entries rfl
  | resized width height =>
    exact ⟨p.readme, ⟨p.history.idle, p.history.closed⟩, p.explorer.setSize _ _⟩
  | @readmeInput i r selected tab error =>
    exact ⟨fun ht => (b.readme.loading_input i).trans (p.readme ht), p.history, p.explorer⟩
  | @filesInput i r selected tab error =>
    exact ⟨p.readme, p.history, (b.explorer.input_response i).poised p.explorer⟩
  | @commitsInput i r selected tab error =>
    exact ⟨p.readme, (b.history.input_response i).poised p.history, p.explorer⟩
  | _ => exact ⟨p.readme, p.history, p.explorer⟩

/-! ### What is loading or pending is waited for -/

theorem Poised.wants_readme (p : Poised b) (loading : b.readme.loading = true) :
    ∃ t, b.ticket? = some t ∧ b.Wants (.fetchReadme t) := by
  cases ht : b.ticket? with
  | none => exact nomatch (p.readme ht).symm.trans loading
  | some t => exact ⟨t, rfl, .readme ht loading⟩

theorem Poised.wants_changes (p : Poised b) (hb : Agrees b) {id : String}
    (opened : b.history.opened = some id) (loading : b.history.diff.loading = true) :
    ∃ src, b.source? = some src ∧ b.Wants (.fetchCommit src.ticket id) := by
  cases source : b.history.source with
  | none => exact nomatch (p.history.closed source).symm.trans opened
  | some src =>
    exact ⟨src, hb.history.symm.trans source, .history (.changes source opened loading)⟩

theorem Poised.wants_listing (p : Poised b) (hb : Agrees b) {path : String}
    (closed : b.explorer.opened = none) (pending : b.explorer.pending = some path) :
    ∃ src, b.source? = some src ∧ b.Wants (.fetchListing src.ticket src.reference path) := by
  cases source : b.explorer.source with
  | none => exact nomatch (p.explorer.idle source).symm.trans pending
  | some src =>
    exact ⟨src, hb.explorer.symm.trans source, .explorer (.listing source closed pending)⟩

theorem Poised.wants_file (p : Poised b) (hb : Agrees b) {f : String}
    (opened : b.explorer.opened = some f) (pending : b.explorer.pending = some f) :
    ∃ src, b.source? = some src ∧ b.Wants (.fetchFile src.ticket src.reference f) := by
  cases source : b.explorer.source with
  | none => exact nomatch (p.explorer.idle source).symm.trans pending
  | some src =>
    exact ⟨src, hb.explorer.symm.trans source, .explorer (.file source opened pending)⟩

/-! ### Directories and files -/

/-- Only the root is asked for as a directory, or what is shown as one. -/
theorem Change.listing_asked (c : b.Change a b' rs) {t : Ticket} {n : Reference} {path : String}
    (h : .fetchListing t n path ∈ rs) : path = "" ∨ b.explorer.source = some ⟨t, n⟩ ∧
      ∃ e ∈ b.explorer.entries, e.kind = .directory ∧ e.path = path := by
  cases c with
  | selected r => simp [select] at h
  | @resolved r n selected stage =>
    have hcases := List.mem_append.mp h
    simp only [History.start_eq, Explorer.start_eq, List.mem_singleton, reduceCtorEq, false_or,
      Request.fetchListing.injEq] at hcases
    exact .inl hcases.2.2
  | @logReceived r m selected => exact ((b.history.receive_receipt m).forCommits _ h).elim
  | @filesInput i r selected tab error =>
    exact .inr ((b.explorer.input_response i).listing_asked h)
  | @commitsInput i r selected tab error =>
    exact ((b.history.input_response i).forCommits _ h).elim
  | _ => exact absurd h List.not_mem_nil

/-- Only what is shown as a file or a link is opened as a file. -/
theorem Change.opened_eq (c : b.Change a b' rs) {f : String}
    (h : b'.explorer.opened = some f) : b'.source? = b.source? ∧ (b.explorer.opened = some f ∨
      ∃ e ∈ b.explorer.entries, (e.kind = .file ∨ e.kind = .symlink) ∧ e.path = f) := by
  cases c with
  | selected r => exact nomatch h
  | resolved => exact nomatch h
  | @filesReceived r m selected =>
    exact ⟨rfl, .inl ((b.explorer.receive_receipt m).opened_eq.symm.trans h)⟩
  | @filesInput i r selected tab error =>
    exact ⟨rfl, (b.explorer.input_response i).opened_eq h⟩
  | _ => exact ⟨rfl, .inl h⟩

end RepoBrowser.Browser
