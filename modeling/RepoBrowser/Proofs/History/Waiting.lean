import RepoBrowser.Proofs.History.Response

/-!
# What a history waits for

* `History.Wants` — the request whose answer the changes on screen wait for;
* `History.awaited` — the request for a page whose answer is waited for;
* `Request.isPageOf` — the requests for pages that belong to a selection;
* `Request.IsForCommits` — the requests that a history makes;
* `Request.Names` — whether an outcome is about the commit that was asked for;
* `Response.wants`, `Receipt.wants`, `Receipt.settled` — changes are asked for when the waiting for
  them begins, and a result about them ends it;
* `Turn.awaited`, `Response.awaited`, `Receipt.awaited_of_foreign`, `Receipt.awaited_of_page` — with
  pages it is an exact account.
-/

namespace RepoBrowser

/-- A request for a page of commits that belongs to a selection. -/
def Request.isPageOf (generation : Nat) : Request → Bool
  | .fetchCommits t .. => t.generation = generation
  | _ => false

/-- A request that a history makes. -/
def Request.IsForCommits : Request → Prop
  | .fetchCommits .. | .fetchCommit .. => True
  | _ => False

/-- An outcome that, if it brings the changes of a commit, brings those that were asked for. -/
def Request.Names : (q : Request) → q.query.Outcome → Prop
  | .fetchCommit _ id, .ok d => d.id = id
  | _, _ => True

/-- The number of the page that a result is about. -/
def LogMessage.page? : LogMessage → Option Nat
  | .pageLoaded n _ | .pageFailed n _ => some n
  | .detailLoaded _ | .detailFailed .. => none

/-- The id of the commit that a result is about. -/
def LogMessage.commit? : LogMessage → Option String
  | .pageLoaded .. | .pageFailed .. => none
  | .detailLoaded d => some d.id
  | .detailFailed id _ => some id

namespace History

/-- The requests whose answers are waited for, those for pages apart. -/
inductive Wants (h : History) : Request → Prop
  | changes {s : Source} {id : String} (source : h.source = some s) (opened : h.opened = some id)
      (loading : h.diff.loading = true) : Wants h (.fetchCommit s.ticket id)

/-- The request for the page that is waited for. -/
def awaited (h : History) : List Request :=
  match h.source, h.pendingPage with
  | some s, some n => [.fetchCommits s.ticket s.reference n]
  | _, _ => []

/-- Without a source nothing is waited for and nothing is open. -/
structure Poised (h : History) : Prop where
  idle : h.source = none → h.pendingPage = none
  closed : h.source = none → h.opened = none

variable {h : History} {i : Input} {m : LogMessage} {out : History × List Request} {w : Request}

/-! ### Changes -/

theorem Wants.exists_source (hw : h.Wants w) :
    ∃ s, h.source = some s ∧ w.ticket? = some s.ticket := by
  cases hw with
  | changes source _ _ => exact ⟨_, source, rfl⟩

theorem not_wants_of_closed (closed : h.opened = none) : ¬ h.Wants w := by
  intro hw
  cases hw with
  | changes _ opened _ => exact nomatch closed.symm.trans opened

/-- Changes that are not loading are not waited for. -/
theorem not_wants_of_still (still : h.diff.loading = false) : ¬ h.Wants w := by
  intro hw
  cases hw with
  | changes _ _ loading => exact nomatch still.symm.trans loading

/-- The source, what is open and whether it is loading are all that counts. -/
theorem Wants.of_eq {k : History} (hw : k.Wants w) (source : k.source = h.source)
    (opened : k.opened = h.opened) (loading : k.diff.loading = h.diff.loading) : h.Wants w := by
  cases hw with
  | changes hs ho hl => exact .changes (source ▸ hs) (opened ▸ ho) (loading ▸ hl)

theorem Turn.wants (t : Turn h out) (hw : out.1.Wants w) : h.Wants w := by
  cases t with
  | rests => exact hw
  | asks => exact hw.of_eq rfl rfl rfl

/-- **Changes that an input makes a history wait for are asked for.** -/
theorem Response.wants (r : Response h i out) (hw : out.1.Wants w) : w ∈ out.2 ∨ h.Wants w := by
  cases r with
  | ignored => exact .inr hw
  | closed => exact absurd hw (not_wants_of_closed rfl)
  | scrolled => exact .inr (hw.of_eq rfl rfl (h.diff.loading_input i))
  | @entered s c _ source _ =>
    cases hw with
    | changes hs ho _ =>
      obtain rfl := Option.some.inj (source.symm.trans hs)
      obtain rfl := Option.some.inj ho
      exact .inl (List.mem_singleton_self _)
  | moved _ _ turn => exact .inr ((turn.wants hw).of_eq rfl rfl rfl)

theorem Receipt.wants (r : Receipt h m out) (hw : out.1.Wants w) : h.Wants w := by
  cases r with
  | dropped => exact hw
  | pageAdded _ turn => exact (turn.wants hw).of_eq rfl rfl rfl
  | pageMissed => exact hw.of_eq rfl rfl rfl
  | detailShown => exact absurd hw (not_wants_of_still rfl)
  | detailMissed => exact absurd hw (not_wants_of_still rfl)

/-- An answer that is waited for becomes a result about the commit that is open. -/
theorem Wants.exists_message (hw : h.Wants w) {t : Ticket} (ht : w.ticket? = some t)
    {o : w.query.Outcome} (named : w.Names o) :
    ∃ m id, w.answer o = .log t.generation m ∧ h.opened = some id ∧ m.commit? = some id := by
  cases hw with
  | @changes s id source opened _ =>
    obtain rfl : s.ticket = t := Option.some.inj ht
    cases o with
    | error e => exact ⟨_, id, rfl, opened, rfl⟩
    | ok d => exact ⟨_, id, rfl, opened, congrArg some named⟩

/-- **A result about the commit that is open ends the waiting for its changes.** -/
theorem Receipt.settled (r : Receipt h m out) {id : String} (opened : h.opened = some id)
    (about : m.commit? = some id) : ¬ out.1.Wants w := by
  cases r with
  | dropped _ foreign =>
    cases m with
    | pageLoaded n page => exact nomatch about
    | pageFailed n reason => exact nomatch about
    | detailLoaded d => exact absurd (opened.trans about.symm) foreign
    | detailFailed id' reason => exact absurd (opened.trans about.symm) foreign
  | pageAdded => exact nomatch about
  | pageMissed => exact nomatch about
  | detailShown => exact not_wants_of_still rfl
  | detailMissed => exact not_wants_of_still rfl

/-! ### Pages -/

theorem awaited_of_idle (idle : h.pendingPage = none) : h.awaited = [] := by
  unfold awaited
  rw [idle]
  split
  · rename_i hp
    exact nomatch hp
  · rfl

theorem awaited_of_pending {s : Source} {n : Nat} (source : h.source = some s)
    (pending : h.pendingPage = some n) :
    h.awaited = [.fetchCommits s.ticket s.reference n] := by
  unfold awaited
  rw [source, pending]

/-- What is awaited is the page that is pending. -/
theorem eq_of_mem_awaited (hw : w ∈ h.awaited) : ∃ s n, h.source = some s ∧
    h.pendingPage = some n ∧ w = .fetchCommits s.ticket s.reference n := by
  unfold awaited at hw
  split at hw
  · rename_i s n source pending
    exact ⟨s, n, source, pending, List.mem_singleton.mp hw⟩
  · exact absurd hw List.not_mem_nil

theorem awaited_congr {k : History} (source : k.source = h.source)
    (pending : k.pendingPage = h.pendingPage) : k.awaited = h.awaited := by
  unfold awaited
  rw [source, pending]

variable {g : Nat}

/-- As long as no page is asked for, the same is awaited. -/
theorem awaited_eq_append {k : History} {rs : List Request} (source : k.source = h.source)
    (pending : k.pendingPage = h.pendingPage) (hrs : rs.filter (Request.isPageOf g) = []) :
    k.awaited = h.awaited ++ rs.filter (Request.isPageOf g) := by
  rw [hrs, List.append_nil]
  exact awaited_congr source pending

/-- **What is awaited is what was awaited and what is asked for.** -/
theorem Turn.awaited (t : Turn h out) (hg : ∀ s, h.source = some s → s.ticket.generation = g) :
    out.1.awaited = h.awaited ++ out.2.filter (Request.isPageOf g) := by
  cases t with
  | rests => exact (List.append_nil _).symm
  | @asks s source idle _ _ =>
    have hpage : Request.isPageOf g (.fetchCommits s.ticket s.reference (h.loadedPages + 1)) :=
      decide_eq_true (hg s source)
    have hnew : History.awaited { h with pendingPage := some (h.loadedPages + 1) }
        = [.fetchCommits s.ticket s.reference (h.loadedPages + 1)] := awaited_of_pending source rfl
    rw [awaited_of_idle idle, List.nil_append, hnew, List.filter_cons_of_pos hpage, List.filter_nil]

theorem Response.awaited (r : Response h i out)
    (hg : ∀ s, h.source = some s → s.ticket.generation = g) :
    out.1.awaited = h.awaited ++ out.2.filter (Request.isPageOf g) := by
  cases r with
  | moved _ _ turn =>
    rw [turn.awaited hg]
    exact congrArg (· ++ _) (awaited_congr rfl rfl)
  | _ => exact awaited_eq_append rfl rfl rfl

/-- A result about a commit has no part in the account of pages. -/
theorem Receipt.awaited_of_foreign (r : Receipt h m out) (foreign : m.page? = none) :
    out.1.awaited = h.awaited ++ out.2.filter (Request.isPageOf g) := by
  cases r with
  | pageAdded => exact nomatch foreign
  | pageMissed => exact nomatch foreign
  | _ => exact awaited_eq_append rfl rfl rfl

/-- A result about the page that is pending is waited for. -/
theorem awaits_of_page {n : Nat} (pending : h.pendingPage = some n) (about : m.page? = some n) :
    h.Awaits m := by
  cases m with
  | pageLoaded k page => exact pending.trans about.symm
  | pageFailed k reason => exact pending.trans about.symm
  | detailLoaded d => exact nomatch about
  | detailFailed id reason => exact nomatch about

/-- **After a result about the page that was awaited, only what is asked for anew is awaited.** -/
theorem Receipt.awaited_of_page (r : Receipt h m out) {n : Nat} (pending : h.pendingPage = some n)
    (about : m.page? = some n) (hg : ∀ s, h.source = some s → s.ticket.generation = g) :
    out.1.awaited = out.2.filter (Request.isPageOf g) := by
  cases r with
  | dropped _ foreign => exact absurd (awaits_of_page pending about) foreign
  | pageAdded _ turn =>
    rw [turn.awaited hg, awaited_of_idle rfl, List.nil_append]
  | pageMissed => exact awaited_of_idle rfl
  | detailShown => exact nomatch about
  | detailMissed => exact nomatch about

/-! ### What a history asks for -/

theorem Turn.forCommits (t : Turn h out) : ∀ q ∈ out.2, q.IsForCommits := by
  cases t with
  | rests => exact fun q hq => absurd hq List.not_mem_nil
  | asks =>
    intro q hq
    rw [List.mem_singleton.mp hq]
    trivial

theorem Response.forCommits (r : Response h i out) : ∀ q ∈ out.2, q.IsForCommits := by
  cases r with
  | entered =>
    intro q hq
    rw [List.mem_singleton.mp hq]
    trivial
  | moved _ _ turn => exact turn.forCommits
  | _ => exact fun q hq => absurd hq List.not_mem_nil

theorem Receipt.forCommits (r : Receipt h m out) : ∀ q ∈ out.2, q.IsForCommits := by
  cases r with
  | pageAdded _ turn => exact turn.forCommits
  | _ => exact fun q hq => absurd hq List.not_mem_nil

/-! ### Histories without a source -/

theorem Turn.poised (t : Turn h out) (p : Poised h) : Poised out.1 := by
  cases t with
  | rests => exact p
  | asks source => exact ⟨fun hs => (nomatch hs.symm.trans source), p.closed⟩

theorem Response.poised (r : Response h i out) (p : Poised h) : Poised out.1 := by
  cases r with
  | ignored => exact p
  | closed => exact ⟨p.idle, fun _ => rfl⟩
  | scrolled => exact ⟨p.idle, p.closed⟩
  | entered _ source => exact ⟨p.idle, fun hs => nomatch hs.symm.trans source⟩
  | moved _ _ turn => exact turn.poised ⟨p.idle, p.closed⟩

theorem Receipt.poised (r : Receipt h m out) (p : Poised h) : Poised out.1 := by
  cases r with
  | dropped => exact p
  | pageAdded _ turn => exact turn.poised ⟨fun _ => rfl, p.closed⟩
  | pageMissed => exact ⟨fun _ => rfl, p.closed⟩
  | detailShown => exact ⟨p.idle, p.closed⟩
  | detailMissed => exact ⟨p.idle, p.closed⟩

end History

end RepoBrowser
