import RepoBrowser.Proofs.Browser.Waiting
import RepoBrowser.Proofs.Exchange.Provenance

/-!
# No view waits in vain

To open something, to leave it and to open it again puts several equal requests in flight, and any
of them may be answered first.  A view still never waits for an answer that is not coming, as long
as the forge keeps to two rules.

* `Forge.NamesCommits`, `Forge.SeparatesKinds` — the rules: changes of a commit bear the id that was
  asked for, and no path is listed both as a directory and as a file or a link;
* `Reachable.pages` — the requests for pages in flight are the one that is awaited, if there is one;
* `Reachable.listing_known`, `Reachable.opened_known` — what is asked for as a directory or opened
  as a file was listed as such;
* `Reachable.poised` — a file that says that it is loading is waited for;
* `Reachable.wanted` — what is waited for is in flight;
* `Reachable.atRest_of_quiet` — without requests of the selection in flight no view waits;
* `no_wait_in_vain` — all of it, whatever happens.
-/

namespace RepoBrowser

/-- The forge may list an entry of this kind under the path. -/
def Forge.Lists (forge : Forge Set) (r : Repository) (n : Reference) (path : String)
    (kind : EntryKind) : Prop :=
  ∃ directory es, .ok es ∈ forge.ask (.directory r n directory) ∧
    ∃ e ∈ es, e.path = path ∧ e.kind = kind

/-- No path is listed both as a directory and as a file or a link; the root is a directory. -/
def Forge.SeparatesKinds (forge : Forge Set) : Prop :=
  ∀ r n path, path = "" ∨ forge.Lists r n path .directory →
    ¬ forge.Lists r n path .file ∧ ¬ forge.Lists r n path .symlink

/-- The changes of a commit bear the id that was asked for. -/
def Forge.NamesCommits (forge : Forge Set) : Prop :=
  ∀ r id d, .ok d ∈ forge.ask (.commit r id) → d.id = id

variable {forge : Forge Set}

theorem Forge.NamesCommits.names (h : forge.NamesCommits) {q : Request} {o : q.query.Outcome}
    (given : o ∈ forge.ask q.query) : q.Names o := by
  cases q with
  | fetchCommit t id =>
    cases o with
    | error e => trivial
    | ok d => exact h t.repository id d given
  | _ => cases o <;> trivial

namespace Exchange

variable {layout : Layout} {s s' : Exchange} {a : Action} {b : Browser} {rs : List Request}

/-! ### Pages -/

/-- The requests for pages of the current selection that are in flight. -/
def pagesInFlight (s : Exchange) : Multiset Request :=
  s.inFlight.filter fun q => q.isPageOf s.browser.generation

theorem filter_isPageOf_coe (rs : List Request) (g : Nat) :
    (↑rs : Multiset Request).filter (fun q => q.isPageOf g)
      = ↑(rs.filter (Request.isPageOf g)) := by
  simp

/-- Requests of a selection that there has not been yet are not in flight. -/
theorem Reachable.filter_isPageOf_succ (h : Reachable forge layout s) :
    s.inFlight.filter (fun q => q.isPageOf (s.browser.generation + 1)) = 0 := by
  refine Multiset.filter_eq_nil.mpr fun q hq hpage => ?_
  obtain ⟨t, ht, hle⟩ := (h.dated q hq).exists_ticket
  cases q with
  | fetchCommits t' n k =>
    obtain rfl : t' = t := Option.some.inj ht
    have heq : t'.generation = s.browser.generation + 1 := of_decide_eq_true hpage
    omega
  | _ => exact nomatch hpage

/-- What comes of a request for anything else is no result about a page of the selection. -/
theorem page?_eq_none {q : Request} {o : q.query.Outcome} {g : Nat} {msg : LogMessage}
    (ha : q.answer o = .log g msg) (hpage : ¬ q.isPageOf g = true) : msg.page? = none := by
  cases q with
  | fetchCommits t n k =>
    have hg : t.generation = g := by
      cases o <;> exact (Action.log.inj ha).1
    exact absurd (decide_eq_true hg) hpage
  | fetchCommit t id =>
    cases o <;>
    · obtain ⟨-, rfl⟩ := Action.log.inj ha
      rfl
  | _ => cases o <;> exact nomatch ha

/-- An answer to a request of a selection selects nothing. -/
theorem generation_eq_of_answer {q : Request} {o : q.query.Outcome} {t : Ticket}
    (ht : q.ticket? = some t) (c : s.browser.Change (q.answer o) b rs) :
    b.generation = s.browser.generation := by
  rcases c.generation_eq with same | ⟨r, ha, -, -⟩
  · exact same
  · cases q with
    | resolveRepository name => exact nomatch ht
    | _ => cases o <;> exact nomatch ha

/-- A reply takes the request that was awaited out of flight, or none that is for a page. -/
theorem Move.pages_of_reply {q : Request} {o : q.query.Outcome} {rest : Multiset Request}
    (m : Move forge s s' (q.answer o) b rs) (hs : Reachable forge layout s)
    (flying : s.inFlight = q ::ₘ rest) (hpages : s.pagesInFlight = ↑s.browser.history.awaited) :
    rest.filter (fun q => q.isPageOf s.browser.generation)
      + ↑(rs.filter (Request.isPageOf s.browser.generation)) = ↑b.history.awaited := by
  have hpages : (q ::ₘ rest).filter (fun q => q.isPageOf s.browser.generation)
      = ↑s.browser.history.awaited := by
    rw [← flying]
    exact hpages
  by_cases hpage : q.isPageOf s.browser.generation = true
  · rw [Multiset.filter_cons, if_pos hpage, Multiset.singleton_add] at hpages
    have hmem : q ∈ s.browser.history.awaited := by
      rw [← Multiset.mem_coe, ← hpages]
      exact Multiset.mem_cons_self _ _
    have hnew := Browser.awaited_of_answer hs.agrees hmem o
    rw [m.act, m.requests] at hnew
    -- it was the only one in flight
    obtain ⟨src, n, source, pending, rfl⟩ := History.eq_of_mem_awaited hmem
    rw [History.awaited_of_pending source pending, Multiset.coe_singleton,
      ← Multiset.cons_zero, Multiset.cons_inj_right] at hpages
    rw [hpages, hnew, Multiset.zero_add]
  · rw [Multiset.filter_cons, if_neg hpage, Multiset.zero_add] at hpages
    obtain ⟨t, ht, -⟩ := (hs.dated q (mem_of_flying flying)).exists_ticket
    have same := generation_eq_of_answer ht m.change
    rw [hpages, m.change.awaited hs.agrees same fun msg ha => page?_eq_none ha hpage]
    rfl

/-- **The requests for pages that are in flight are the one that is awaited**, if there is one. -/
theorem Reachable.pages (h : Reachable forge layout s) :
    s.pagesInFlight = ↑s.browser.history.awaited := by
  induction h with
  | start => rfl
  | @step s s' hs st ih =>
    obtain ⟨a, b, rs, m⟩ := st.exists_move
    obtain ⟨l, hb⟩ := m.browser
    unfold pagesInFlight
    rw [hb]
    show s'.inFlight.filter (fun q => q.isPageOf b.generation) = ↑b.history.awaited
    rcases m.source with ⟨hnone, hflight, -⟩ | ⟨⟨q, o⟩, rest, rfl, flying, -, hflight, -⟩
    · rw [hflight, Multiset.filter_add, filter_isPageOf_coe]
      rcases m.change.generation_eq with same | ⟨r, -, rfl, rfl⟩
      · have hforeign : ∀ msg, a = .log s.browser.generation msg → msg.page? = none := by
          rintro msg rfl
          exact nomatch hnone
        rw [m.change.awaited hs.agrees same hforeign, same]
        exact congrArg (· + _) ih
      · exact congrArg (· + _) hs.filter_isPageOf_succ
    · obtain ⟨t, ht, -⟩ := (hs.dated q (mem_of_flying flying)).exists_ticket
      rw [hflight, Multiset.filter_add, filter_isPageOf_coe, generation_eq_of_answer ht m.change]
      exact m.pages_of_reply hs flying ih

/-! ### Directories and files -/

/-- The entries that are shown were listed at the source of the selection. -/
theorem Reachable.lists (h : Reachable forge layout s) {e : Entry}
    (he : e ∈ s.browser.explorer.entries) : ∃ src, s.browser.source? = some src ∧
      forge.Lists src.ticket.repository src.reference e.path e.kind := by
  obtain ⟨raw, ⟨src, hsrc, hraw⟩, heq⟩ :=
    h.sourced.explorer.entries (List.ne_nil_of_mem he)
  rw [heq] at he
  exact ⟨src, hsrc, _, raw, h.given _ hraw, e, List.mem_mergeSort.mp he, rfl, rfl⟩

/-- What is asked for as a directory is the root or was listed as one. -/
theorem Reachable.listing_known (h : Reachable forge layout s) :
    ∀ t n path, .fetchListing t n path ∈ s.inFlight →
      path = "" ∨ forge.Lists t.repository n path .directory := by
  induction h with
  | start => exact fun t n path hq => absurd hq (Multiset.notMem_zero _)
  | @step s s' hs st ih =>
    obtain ⟨a, b, rs, m⟩ := st.exists_move
    intro t n path hq
    rcases m.mem_inFlight hq with hq | hq
    · exact ih t n path hq
    · rcases m.change.listing_asked hq with hroot | ⟨hsource, e, he, hkind, hpath⟩
      · exact .inl hroot
      · obtain ⟨src, hsrc, hlists⟩ := hs.lists he
        obtain rfl : src = ⟨t, n⟩ :=
          Option.some.inj (hsrc.symm.trans (hs.agrees.explorer.symm.trans hsource))
        rw [hkind, hpath] at hlists
        exact .inr hlists

/-- What is opened as a file was listed as a file or a link. -/
theorem Reachable.opened_known (h : Reachable forge layout s) :
    ∀ f src, s.browser.explorer.opened = some f → s.browser.source? = some src →
      forge.Lists src.ticket.repository src.reference f .file ∨
        forge.Lists src.ticket.repository src.reference f .symlink := by
  induction h with
  | start => exact fun f src hopen => nomatch hopen
  | @step s s' hs st ih =>
    obtain ⟨a, b, rs, m⟩ := st.exists_move
    obtain ⟨l, hb⟩ := m.browser
    rw [hb]
    intro f src hopen hsrc
    obtain ⟨hsource, hcases⟩ := m.change.opened_eq hopen
    have hsrc : s.browser.source? = some src := hsource.symm.trans hsrc
    rcases hcases with hopen | ⟨e, he, hkind, hpath⟩
    · exact ih f src hopen hsrc
    · obtain ⟨src', hsrc', hlists⟩ := hs.lists he
      obtain rfl : src' = src := Option.some.inj (hsrc'.symm.trans hsrc)
      rw [hpath] at hlists
      rcases hkind with hkind | hkind
      · exact .inl (hkind ▸ hlists)
      · exact .inr (hkind ▸ hlists)

/-- **No listing arrives for a file that is open**, if the forge keeps the kinds apart. -/
theorem Move.apart (m : Move forge s s' a b rs) (hs : Reachable forge layout s)
    (kinds : forge.SeparatesKinds) {path : String} {entries : List Entry}
    (ha : a = .files s.browser.generation (.listing path entries)) :
    s.browser.explorer.opened ≠ some path := by
  intro hopen
  obtain ⟨⟨q, o⟩, -, hq, hflight⟩ := m.exists_reply (g := s.browser.generation) (by rw [ha]; rfl)
  have ha : q.answer o = .files s.browser.generation (.listing path entries) := hq.symm.trans ha
  cases q with
  | fetchListing t n path' =>
    cases o with
    | error e => exact nomatch (Action.files.inj ha).2
    | ok raw =>
      obtain ⟨hg, hm⟩ := Action.files.inj ha
      obtain ⟨rfl, -⟩ := FilesMessage.listing.inj hm
      have hsrc := ((hs.dated _ hflight).owns rfl hg).source_eq rfl rfl
      obtain ⟨hfile, hlink⟩ := kinds t.repository n path' (hs.listing_known t n path' hflight)
      rcases hs.opened_known path' _ hopen hsrc with h | h
      · exact hfile h
      · exact hlink h
  | fetchFile t n path' => cases o <;> exact nomatch (Action.files.inj ha).2
  | _ => cases o <;> exact nomatch ha

/-! ### Waiting -/

/-- **A file that says that it is loading is waited for**, and no view waits for what it does not
show. -/
theorem Reachable.poised (h : Reachable forge layout s) (kinds : forge.SeparatesKinds) :
    s.browser.Poised := by
  induction h with
  | start =>
    exact ⟨fun _ => rfl, ⟨fun _ => rfl, fun _ => rfl⟩, Explorer.poised_of_idle rfl fun _ _ => rfl⟩
  | @step s s' hs st ih =>
    obtain ⟨a, b, rs, m⟩ := st.exists_move
    obtain ⟨l, hb⟩ := m.browser
    have hp : b.Poised := m.change.poised ih fun _ _ ha => m.apart hs kinds ha
    rw [hb]
    exact ⟨hp.readme, hp.history, hp.explorer⟩

/-- **What is waited for is in flight.** -/
theorem Reachable.wanted (h : Reachable forge layout s) (names : forge.NamesCommits) :
    ∀ w, s.browser.Wants w → w ∈ s.inFlight := by
  induction h with
  | start =>
    intro w hw
    cases hw with
    | readme ht _ => exact nomatch ht
    | history hw => exact absurd hw (History.not_wants_of_closed rfl)
    | explorer hw => exact absurd hw (Explorer.not_wants_of_idle rfl)
  | @step s s' hs st ih =>
    obtain ⟨a, b, rs, m⟩ := st.exists_move
    obtain ⟨l, hb⟩ := m.browser
    intro w hw
    rw [hb] at hw
    have hw : b.Wants w := hw.withoutStatus
    have hwants := m.change.wants hw
    rcases m.source with ⟨-, hflight, -⟩ | ⟨⟨q, o⟩, rest, rfl, flying, given, hflight, -⟩
    · rw [hflight, Multiset.mem_add]
      rcases hwants with hrs | hold
      · exact .inr hrs
      · exact .inl (ih w hold)
    · rw [hflight, Multiset.mem_add]
      rcases hwants with hrs | hold
      · exact .inr hrs
      · have hmem := ih w hold
        rw [flying] at hmem
        rcases Multiset.mem_cons.mp hmem with rfl | hrest
        · -- the answer that has come has ended the waiting
          have hnot := hold.answered hs.agrees (names.names given)
          rw [show w.answer o = Reply.action ⟨w, o⟩ from rfl, m.act] at hnot
          exact absurd hw hnot
        · exact .inl hrest

/-- A page is pending exactly if it is what the only request for a page in flight asks for. -/
theorem Reachable.pendingPage_eq_some_iff (h : Reachable forge layout s) (hp : s.browser.Poised)
    (n : Nat) : s.browser.history.pendingPage = some n ↔ ∃ src, s.browser.source? = some src ∧
      s.pagesInFlight = {.fetchCommits src.ticket src.reference n} := by
  rw [h.pages]
  constructor
  · intro pending
    cases source : s.browser.history.source with
    | none => exact nomatch (hp.history.idle source).symm.trans pending
    | some src =>
      refine ⟨src, h.agrees.history.symm.trans source, ?_⟩
      rw [History.awaited_of_pending source pending, Multiset.coe_singleton]
  · rintro ⟨src, -, hpages⟩
    have hmem : .fetchCommits src.ticket src.reference n ∈ s.browser.history.awaited := by
      rw [← Multiset.mem_coe, hpages]
      exact Multiset.mem_singleton_self _
    obtain ⟨src', n', -, pending, heq⟩ := History.eq_of_mem_awaited hmem
    rw [pending, (Request.fetchCommits.inj heq).2.2]

theorem Reachable.pendingPage_eq_none_iff (h : Reachable forge layout s) (hp : s.browser.Poised) :
    s.browser.history.pendingPage = none ↔ s.pagesInFlight = 0 := by
  constructor
  · intro idle
    rw [h.pages, History.awaited_of_idle idle]
    rfl
  · intro hnone
    cases hn : s.browser.history.pendingPage with
    | none => rfl
    | some n =>
      obtain ⟨src, -, hpages⟩ := (h.pendingPage_eq_some_iff hp n).mp hn
      rw [hnone] at hpages
      exact absurd hpages.symm (Multiset.singleton_ne_zero _)

/-! ### No view waits in vain -/

/-- No request of the current selection is in flight. -/
def Quiet (s : Exchange) : Prop :=
  ∀ q ∈ s.inFlight, ∀ t, q.ticket? = some t → t.generation ≠ s.browser.generation

theorem Reachable.not_wants_of_quiet (h : Reachable forge layout s) (names : forge.NamesCommits)
    (quiet : s.Quiet) {w : Request} : ¬ s.browser.Wants w := by
  intro hw
  obtain ⟨t, ht, hwt⟩ := hw.exists_ticket h.agrees
  exact quiet w (h.wanted names w hw) t hwt (Browser.ticket?_eq_some_iff.mp ht).2

theorem Quiet.pagesInFlight_eq_zero (quiet : s.Quiet) : s.pagesInFlight = 0 := by
  refine Multiset.filter_eq_nil.mpr fun q hq hpage => ?_
  cases q with
  | fetchCommits t n k => exact quiet _ hq t rfl (of_decide_eq_true hpage)
  | _ => exact nomatch hpage

/-- **Once no request of the current selection is in flight, no view waits.** -/
theorem Reachable.atRest_of_quiet (h : Reachable forge layout s) (names : forge.NamesCommits)
    (kinds : forge.SeparatesKinds) (quiet : s.Quiet) : s.browser.AtRest := by
  have hb : s.browser.Agrees := h.agrees
  have hp : s.browser.Poised := h.poised kinds
  have unwanted : ∀ w, ¬ s.browser.Wants w := fun w => h.not_wants_of_quiet names quiet
  have hpending : s.browser.explorer.pending = none := by
    cases pending : s.browser.explorer.pending with
    | none => rfl
    | some p =>
      cases opened : s.browser.explorer.opened with
      | none =>
        obtain ⟨src, -, hw⟩ := hp.wants_listing hb opened pending
        exact absurd hw (unwanted _)
      | some f =>
        obtain rfl : p = f := h.sourced.explorer.pending f p opened pending
        obtain ⟨src, -, hw⟩ := hp.wants_file hb opened pending
        exact absurd hw (unwanted _)
  refine ⟨?_, (h.pendingPage_eq_none_iff hp).mpr quiet.pagesInFlight_eq_zero, ?_, hpending, ?_⟩
  · rw [← Bool.not_eq_true]
    intro loading
    obtain ⟨t, -, hw⟩ := hp.wants_readme loading
    exact unwanted _ hw
  · intro id opened
    rw [← Bool.not_eq_true]
    intro loading
    obtain ⟨src, -, hw⟩ := hp.wants_changes hb opened loading
    exact unwanted _ hw
  · intro f opened
    rw [← Bool.not_eq_true]
    intro loading
    exact nomatch hpending.symm.trans (hp.explorer.loading f opened loading)

/-- **No view waits for an answer that is not coming**, in whatever order results arrive and
whatever the forge answers, as long as it names commits as asked and keeps directories apart from
files.

* While the readme is loading, a request for it is in flight.
* A page is pending exactly if there is one request for a page of the selection in flight, and it
  asks for that page.
* While the changes of a commit are open and loading, a request for them is in flight.
* What the explorer waits for is in flight: among the entries it is the directory that is shown,
  which is not known yet; while a file is open it is this file.
* A file that is open and loading is waited for.

So once no request of the current selection is in flight, nothing is loading and nothing pending. -/
theorem no_wait_in_vain (forge : Forge Set) (layout : Layout) (s : Exchange)
    (names : forge.NamesCommits) (kinds : forge.SeparatesKinds) (h : Reachable forge layout s) :
    (s.browser.readme.loading = true →
      ∃ t, s.browser.ticket? = some t ∧ .fetchReadme t ∈ s.inFlight) ∧
    (∀ n, s.browser.history.pendingPage = some n ↔ ∃ src, s.browser.source? = some src ∧
      s.pagesInFlight = {.fetchCommits src.ticket src.reference n}) ∧
    (s.browser.history.pendingPage = none ↔ s.pagesInFlight = 0) ∧
    (∀ id, s.browser.history.opened = some id → s.browser.history.diff.loading = true →
      ∃ src, s.browser.source? = some src ∧ .fetchCommit src.ticket id ∈ s.inFlight) ∧
    (∀ p, s.browser.explorer.pending = some p → s.browser.explorer.opened = none →
      p = s.browser.explorer.path ∧ s.browser.explorer.listings.lookup p = none ∧
      ∃ src, s.browser.source? = some src ∧
        .fetchListing src.ticket src.reference p ∈ s.inFlight) ∧
    (∀ p f, s.browser.explorer.pending = some p → s.browser.explorer.opened = some f →
      p = f ∧ ∃ src, s.browser.source? = some src ∧
        .fetchFile src.ticket src.reference f ∈ s.inFlight) ∧
    (∀ f, s.browser.explorer.opened = some f → s.browser.explorer.viewer.loading = true →
      s.browser.explorer.pending = some f) ∧
    (s.Quiet →
      s.browser.readme.loading = false ∧ s.browser.history.pendingPage = none ∧
      (∀ id, s.browser.history.opened = some id → s.browser.history.diff.loading = false) ∧
      s.browser.explorer.pending = none ∧
      ∀ f, s.browser.explorer.opened = some f → s.browser.explorer.viewer.loading = false) := by
  have hb : s.browser.Agrees := h.agrees
  have hp : s.browser.Poised := h.poised kinds
  have wanted := h.wanted names
  have hsame := h.sourced.explorer.pending
  refine ⟨?readme, h.pendingPage_eq_some_iff hp, h.pendingPage_eq_none_iff hp, ?changes, ?listing,
    ?file, hp.explorer.loading, ?quiet⟩
  case readme =>
    intro loading
    obtain ⟨t, ht, hw⟩ := hp.wants_readme loading
    exact ⟨t, ht, wanted _ hw⟩
  case changes =>
    intro id opened loading
    obtain ⟨src, hsrc, hw⟩ := hp.wants_changes hb opened loading
    exact ⟨src, hsrc, wanted _ hw⟩
  case listing =>
    intro p pending closed
    obtain ⟨hhere, hunknown⟩ := hp.explorer.here p closed pending
    obtain ⟨src, hsrc, hw⟩ := hp.wants_listing hb closed pending
    exact ⟨hhere, hunknown, src, hsrc, wanted _ hw⟩
  case file =>
    intro p f pending opened
    obtain rfl : p = f := hsame f p opened pending
    obtain ⟨src, hsrc, hw⟩ := hp.wants_file hb opened pending
    exact ⟨rfl, src, hsrc, wanted _ hw⟩
  case quiet =>
    intro quiet
    obtain ⟨readme, page, changes, explorer, file⟩ := h.atRest_of_quiet names kinds quiet
    exact ⟨readme, page, changes, explorer, file⟩

/-- A forge with one commit, one directory and one file. -/
def sampleForge : Forge Set where
  name := "sample"
  ask
    | .repository name => {.error (.notFound name)}
    | .readme _ => {.ok ⟨"# demo", "README.md"⟩}
    | .head _ => {.ok Source.sample.reference}
    | .commits .. => {.ok ⟨[⟨"4f2c9a1", "begin", "someone", ⟨0, 0⟩⟩], none⟩}
    | .commit _ id => {.ok ⟨id, "begin", "someone", ⟨0, 0⟩, 0, 0, 0, []⟩}
    | .directory _ _ path =>
      {.ok (if path = "" then [⟨"lib", "lib", .directory, 0⟩, ⟨"README.md", "README.md", .file, 6⟩]
        else [])}
    | .file .. => {.ok "# demo"}

theorem sampleForge_namesCommits : sampleForge.NamesCommits := by
  intro r id d hd
  rw [Except.ok.inj (Set.mem_singleton_iff.mp hd)]

theorem sampleForge_lists {r : Repository} {n : Reference} {path : String} {kind : EntryKind}
    (h : sampleForge.Lists r n path kind) :
    path = "lib" ∧ kind = .directory ∨ path = "README.md" ∧ kind = .file := by
  obtain ⟨directory, es, hes, e, he, rfl, rfl⟩ := h
  rw [Except.ok.inj (Set.mem_singleton_iff.mp hes)] at he
  split at he
  · rcases List.mem_pair.mp he with rfl | rfl
    · exact .inl ⟨rfl, rfl⟩
    · exact .inr ⟨rfl, rfl⟩
  · exact absurd he List.not_mem_nil

theorem sampleForge_separatesKinds : sampleForge.SeparatesKinds := by
  intro r n path hdir
  have hpath : path ≠ "README.md" := by
    rintro rfl
    rcases hdir with hroot | hlists
    · exact absurd hroot (by decide)
    · rcases sampleForge_lists hlists with ⟨h, -⟩ | ⟨-, h⟩
      · exact absurd h (by decide)
      · exact nomatch h
  constructor
  · intro hlists
    rcases sampleForge_lists hlists with ⟨-, h⟩ | ⟨h, -⟩
    · exact nomatch h
    · exact hpath h
  · intro hlists
    rcases sampleForge_lists hlists with ⟨-, h⟩ | ⟨-, h⟩
    · exact nomatch h
    · exact nomatch h

/-- While the root is listed, a commit is opened; both requests are in flight. -/
theorem no_wait_in_vain_sample :
    sampleForge.NamesCommits ∧ sampleForge.SeparatesKinds ∧
    ∃ s, Reachable sampleForge {} s ∧
      s.browser.history.opened = some "4f2c9a1" ∧ s.browser.history.diff.loading = true ∧
      (∃ src, s.browser.source? = some src ∧ .fetchCommit src.ticket "4f2c9a1" ∈ s.inFlight) ∧
      s.browser.explorer.pending = some "" ∧
      ∃ src, s.browser.source? = some src ∧
        .fetchListing src.ticket src.reference "" ∈ s.inFlight := by
  have h : Reachable sampleForge {} (.start {}) := .start
  have h := h.command (.selectRepository Source.sample.ticket.repository) rfl rfl
  have h := h.answer (.ok ⟨"# demo", "README.md"⟩) rfl rfl
  have h := h.answer (.ok Source.sample.reference) rfl rfl
  have h := h.answer (.ok ⟨[⟨"4f2c9a1", "begin", "someone", ⟨0, 0⟩⟩], none⟩) rfl rfl
  have h := h.command (.tabChanged .commits) rfl rfl
  have h := h.command (.key ⟨.enter, {}⟩) rfl rfl
  obtain ⟨-, -, -, hchanges, hlisting, -⟩ :=
    no_wait_in_vain _ _ _ sampleForge_namesCommits sampleForge_separatesKinds h
  obtain ⟨-, -, hlists⟩ := hlisting "" rfl rfl
  exact ⟨sampleForge_namesCommits, sampleForge_separatesKinds, _, h, rfl, rfl,
    hchanges _ rfl rfl, rfl, hlists⟩

end Exchange

end RepoBrowser
