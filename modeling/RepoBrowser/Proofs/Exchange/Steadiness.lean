import Mathlib.Logic.Relation
import RepoBrowser.Proofs.Browser.Pane
import RepoBrowser.Proofs.Exchange.Asking
import RepoBrowser.Proofs.Exchange.Waiting

/-!
# What is shown stays

Once a text is shown, no answer that is still in flight replaces it or moves the window over it,
until what is shown is left or opened anew.  The readme is asked for once, and a file that has come
is not waited for any more.  Changes of a commit are taken whenever they are about the commit that
is open: an answer to an earlier opening of the same commit shows them anew, from their first line.

* `Coming` — an answer in flight can be about a commit;
* `Settled` — a pane shows what it is open for, and no more is to come for the changes of a commit;
* `Settled.not_takes`, `Settled.step` — the pane takes no answer, and goes on so;
* `shown_stays` — so what is shown stays, whatever happens;
* `reopened_changes_rescroll` — why the changes of a commit need that no more is to come.
-/

namespace RepoBrowser

/-- Only what came of a request for the changes of a commit is about a commit. -/
theorem Request.eq_of_answer_commit? {q : Request} {o : q.query.Outcome} {g : Nat} {m : LogMessage}
    {id : String} (answer : q.answer o = .log g m) (about : m.commit? = some id) :
    ∃ t asked, q = .fetchCommit t asked ∧ t.generation = g := by
  cases q with
  | fetchCommit t asked => cases o <;> exact ⟨t, asked, rfl, (Action.log.inj answer).1⟩
  | fetchCommits t n k =>
    cases o <;>
    · obtain ⟨-, rfl⟩ := Action.log.inj answer
      exact nomatch about
  | _ => cases o <;> exact nomatch answer

/-- What the look-up of a repository brings. -/
theorem Reply.cases_command (r : Reply) (command : r.action.generation? = none) :
    (∃ repository, r.action = .selectRepository repository) ∨
      ∃ reason, r.action = .failed reason := by
  obtain ⟨q, o⟩ := r
  cases q with
  | resolveRepository name =>
    cases o with
    | ok repository => exact .inl ⟨repository, rfl⟩
    | error e => exact .inr ⟨lookupMessage name e, rfl⟩
  | _ => cases o <;> exact nomatch command

namespace Exchange

/-- An answer in flight can be about the commit. -/
def Coming (forge : Forge Set) (s : Exchange) (id : String) : Prop :=
  ∃ q ∈ s.inFlight, ∃ o ∈ forge.ask q.query, ∃ m,
    q.answer o = .log s.browser.generation m ∧ m.commit? = some id

/-- The pane shows what it is open for.  If this is a commit no answer in flight can be about it. -/
structure Settled (forge : Forge Set) (s : Exchange) (p : Pane) (o : Nat × String) : Prop where
  opened : s.browser.opening? p = some o
  still : (s.browser.pager p).loading = false
  alone : p = .changes → ¬ s.Coming forge o.2

/-- Steps after each of which the pane is open for the same. -/
def Stays (forge : Forge Set) (p : Pane) (o : Nat × String) : Exchange → Exchange → Prop :=
  Relation.ReflTransGen fun s s' => Step forge s s' ∧ s'.browser.opening? p = some o

variable {forge : Forge Set} {layout : Layout} {s s' : Exchange} {p : Pane} {o : Nat × String}

theorem Reachable.served (h : Reachable forge layout s) : s.browser.Served := by
  induction h with
  | start => exact ⟨fun _ => ⟨rfl, rfl⟩, Explorer.served_of_closed rfl⟩
  | step hs st ih =>
    obtain ⟨a, b, rs, m⟩ := st.exists_move
    obtain ⟨l, hb⟩ := m.browser
    have served : b.Served := m.change.served hs.agrees ih
    rw [hb]
    exact ⟨served.closed, served.file⟩

/-- Nothing is coming about a commit that no request in flight asks for, if the forge names commits
as asked. -/
theorem not_coming {id : String} (names : forge.NamesCommits)
    (unasked : ∀ t, t.generation = s.browser.generation → .fetchCommit t id ∉ s.inFlight) :
    ¬ s.Coming forge id := by
  rintro ⟨q, flying, o, given, m, answer, about⟩
  obtain ⟨t, asked, rfl, hg⟩ := Request.eq_of_answer_commit? answer about
  have hid : asked = id := by
    have named := names.names given
    cases o with
    | error e =>
      obtain ⟨-, rfl⟩ := Action.log.inj answer
      exact Option.some.inj about
    | ok d =>
      obtain ⟨-, rfl⟩ := Action.log.inj answer
      exact named.symm.trans (Option.some.inj about)
  exact unasked t hg (hid ▸ flying)

/-- **No answer in flight is taken by a pane that is settled.** -/
theorem Settled.not_takes (settled : s.Settled forge p o) (h : Reachable forge layout s)
    {r : Reply} (flying : r.request ∈ s.inFlight)
    (given : r.outcome ∈ forge.ask r.request.query) : ¬ s.browser.Takes r.action p := by
  cases p with
  | readme =>
    rintro ⟨about, result⟩
    obtain ⟨t, -, ticket⟩ := h.exists_ticket flying result
    have first : Request.fetchReadme t ∈ t.first := List.mem_pair.mpr (.inl rfl)
    have hr : r.request = .fetchReadme t := h.request_eq ticket first flying about result
    have loading : s.browser.readme.loading = true :=
      h.lacks_of_flying ticket first (hr ▸ flying)
    exact nomatch settled.still.symm.trans loading
  | file =>
    rintro ⟨m, -, pending⟩
    obtain ⟨opened, -⟩ := Browser.opening?_file settled.opened
    exact nomatch pending.symm.trans (h.served.file o.2 opened settled.still)
  | changes =>
    rintro ⟨m, id, answer, opened, about⟩
    obtain ⟨opened', -⟩ := Browser.opening?_changes settled.opened
    obtain rfl : id = o.2 := Option.some.inj (opened.symm.trans opened')
    exact settled.alone rfl ⟨r.request, flying, r.outcome, given, m, answer, about⟩

/-- **A pane that is settled and stays open is settled after the step**, and shows the same text. -/
theorem Settled.step (settled : s.Settled forge p o) (h : Reachable forge layout s)
    (st : Step forge s s') (stays : s'.browser.opening? p = some o) :
    s'.Settled forge p o ∧ (s.browser.pager p).Moved (s'.browser.pager p) := by
  obtain ⟨a, b, rs, m⟩ := st.exists_move
  obtain ⟨l, hb⟩ := m.browser
  rw [hb] at stays
  have after : b.opening? p = some o := by
    cases p <;> exact stays
  have hpager : s'.browser.pager p = b.pager p := by
    rw [hb]
    cases p <;> rfl
  have foreign : ¬ s.browser.Takes a p := by
    rcases m.source with ⟨command, -, -⟩ | ⟨r, rest, rfl, flying, given, -, -⟩
    · exact Browser.not_takes_of_command command
    · exact settled.not_takes h (mem_of_flying flying) given
  obtain ⟨moved, -⟩ := m.change.pager_moved p settled.opened after foreign
  refine ⟨⟨?_, ?_, ?_⟩, hpager ▸ moved⟩
  · rw [hb]
    exact stays
  · rw [hpager, moved.loading_eq]
    exact settled.still
  · rintro rfl ⟨q, flying, out, given, msg, answer, about⟩
    have same : s'.browser.generation = s.browser.generation := by
      rw [hb]
      exact (Browser.generation_of_opening? after).trans
        (Browser.generation_of_opening? settled.opened).symm
    rw [same] at answer
    rcases m.mem_inFlight flying with hold | hnew
    · exact settled.alone rfl ⟨q, hold, out, given, msg, answer, about⟩
    · obtain ⟨t, asked, rfl, -⟩ := Request.eq_of_answer_commit? answer about
      exact m.change.fetchCommit_notMem settled.opened after t asked hnew

/-- So it goes on as long as the pane stays open. -/
theorem Settled.stays (settled : s.Settled forge p o) (h : Reachable forge layout s)
    (stays : Stays forge p o s s') :
    Reachable forge layout s' ∧ s'.Settled forge p o ∧
      (s.browser.pager p).Moved (s'.browser.pager p) := by
  induction stays with
  | refl => exact ⟨h, settled, .refl _⟩
  | tail _ last ih =>
    obtain ⟨h', settled', moved⟩ := ih
    obtain ⟨settled'', moved'⟩ := settled'.step h' last.1 last.2
    exact ⟨h'.step last.1, settled'', moved.trans moved'⟩

/-- **An answer in flight leaves a pane that is settled as it is**, the window over the text
included, unless the answer selects a repository. -/
theorem Settled.answered (settled : s.Settled forge p o) (h : Reachable forge layout s) {r : Reply}
    {b : Browser} {rs : List Request} (flying : r.request ∈ s.inFlight)
    (given : r.outcome ∈ forge.ask r.request.query)
    (update : s.browser.update r.action = .ok (b, rs))
    (same : ∀ repository, r.action ≠ .selectRepository repository) :
    b.opening? p = some o ∧ b.pager p = s.browser.pager p := by
  obtain ⟨-, l, hb⟩ := Browser.act_of_update update
  have kept : (s.browser.act r.action).browser.opening? p = some o ∧
      (s.browser.act r.action).browser.pager p = s.browser.pager p := by
    cases command : r.action.generation? with
    | none =>
      rcases r.cases_command command with ⟨repository, selects⟩ | ⟨reason, fails⟩
      · exact absurd selects (same repository)
      · rw [fails]
        refine ⟨Eq.trans ?_ settled.opened, ?_⟩ <;> cases p <;> rfl
    | some g =>
      have result : r.action.generation? ≠ none := by
        rw [command]
        exact Option.some_ne_none g
      have change := s.browser.act_change r.action
      have after := (change.opening?_eq h.served result p).trans settled.opened
      exact ⟨after, (change.pager_moved p settled.opened after
        (settled.not_takes h flying given)).2 result⟩
  rw [hb]
  refine ⟨Eq.trans ?_ kept.1, Eq.trans ?_ kept.2⟩ <;> cases p <;> rfl

theorem Stays.command {b : Browser} {rs : List Request} (a : Action)
    (command : a.generation? = none) (update : s.browser.update a = .ok (b, rs))
    (stays : b.opening? p = some o) :
    Stays forge p o s ⟨b, s.inFlight + rs, s.replies⟩ :=
  .single ⟨.command command update, stays⟩

/-! ### Whatever happens -/

/-- **What is shown stays** until it is left or opened anew or a repository is selected, whatever
the user does meanwhile and in whatever order answers arrive: the text, its path and its error are
the same, and no answer moves the window.  This goes for the readme and for files, and for the
changes of a commit if no answer in flight can be about the commit. -/
theorem shown_stays (forge : Forge Set) (layout : Layout) (s : Exchange) (p : Pane)
    (o : Nat × String) (h : Reachable forge layout s) (opened : s.browser.opening? p = some o)
    (still : (s.browser.pager p).loading = false)
    (alone : p = .changes → ¬ s.Coming forge o.2) (s' : Exchange) (stays : Stays forge p o s s') :
    (∃ w k n, s'.browser.pager p
      = { s.browser.pager p with width := w, height := k, offset := n }) ∧
    ∀ (r : Reply) (rest : Multiset Request) (b : Browser) (rs : List Request),
      s'.inFlight = r.request ::ₘ rest → r.outcome ∈ forge.ask r.request.query →
      s'.browser.update r.action = .ok (b, rs) →
      (∀ repository, r.action ≠ .selectRepository repository) →
      b.opening? p = some o ∧ b.pager p = s'.browser.pager p := by
  have settled : s.Settled forge p o := ⟨opened, still, alone⟩
  obtain ⟨h', settled', moved⟩ := settled.stays h stays
  exact ⟨moved, fun r rest b rs flying given update same =>
    settled'.answered h' (mem_of_flying flying) given update same⟩

/-- The request for the root of the sample. -/
def sampleListing : Reply where
  request := .fetchListing Source.sample.ticket Source.sample.reference ""
  outcome := .ok [⟨"lib", "lib", .directory, 0⟩, ⟨"README.md", "README.md", .file, 6⟩]

/-- A run after which the changes of a commit are shown while the root is still being listed; they
can be scrolled, and the listing can arrive after that. -/
theorem exists_changes_shown : ∃ s b c, Reachable sampleForge {} s ∧
    s.browser.opening? .changes = some (1, "4f2c9a1") ∧
    (s.browser.pager .changes).loading = false ∧ s.inFlight = {sampleListing.request} ∧
    s.browser.update (.key ⟨.down, {}⟩) = .ok (b, []) ∧
    b.opening? .changes = some (1, "4f2c9a1") ∧ (b.pager .changes).offset = 1 ∧
    b.update sampleListing.action = .ok (c, []) := by
  have h : Reachable sampleForge {} (.start {}) := .start
  have h := h.command (.selectRepository Source.sample.ticket.repository) rfl rfl
  have h := h.answer (.ok ⟨"# demo", "README.md"⟩) rfl rfl
  have h := h.answer (.ok Source.sample.reference) rfl rfl
  have h := h.answer (.ok ⟨[⟨"4f2c9a1", "begin", "someone", ⟨0, 0⟩⟩], none⟩) rfl rfl
  have h := h.command (.tabChanged .commits) rfl rfl
  have h := h.command (.key ⟨.enter, {}⟩) rfl rfl
  -- the commit is answered before the root, which was asked for first
  have h := h.answerEarly [sampleListing.request]
    (.ok ⟨"4f2c9a1", "begin", "someone", ⟨0, 0⟩, 0, 0, 0, []⟩) rfl rfl
  refine ⟨_, _, _, h, rfl, rfl, rfl, rfl, rfl, ?_, rfl⟩
  decide +kernel

/-- They are scrolled, the listing arrives, and they stay as they are. -/
theorem shown_stays_sample :
    ∃ (s s' : Exchange) (r : Reply) (c : Browser), Reachable sampleForge {} s ∧
      s.browser.opening? .changes = some (1, "4f2c9a1") ∧
      (s.browser.pager .changes).loading = false ∧ ¬ s.Coming sampleForge "4f2c9a1" ∧
      Stays sampleForge .changes (1, "4f2c9a1") s s' ∧
      (s'.browser.pager .changes).offset = 1 ∧ s'.inFlight = {r.request} ∧
      s'.browser.update r.action = .ok (c, []) ∧
      c.pager .changes = s'.browser.pager .changes := by
  obtain ⟨s, b, c, h, opened, still, flying, scroll, opened', offset, update⟩ :=
    exists_changes_shown
  have alone : ¬ s.Coming sampleForge "4f2c9a1" := by
    refine not_coming sampleForge_namesCommits fun t _ hmem => ?_
    rw [flying] at hmem
    exact nomatch Multiset.mem_singleton.mp hmem
  have stays : Stays sampleForge .changes (1, "4f2c9a1") s
      ⟨b, s.inFlight + ([] : List Request), s.replies⟩ := .command _ rfl scroll opened'
  have flying' : s.inFlight + ([] : List Request) = sampleListing.request ::ₘ 0 := by
    rw [flying]
    rfl
  obtain ⟨-, answered⟩ := shown_stays sampleForge {} s .changes (1, "4f2c9a1") h opened still
    (fun _ => alone) _ stays
  obtain ⟨-, kept⟩ := answered sampleListing 0 c [] flying' rfl update fun _ => nofun
  exact ⟨s, _, sampleListing, c, h, opened, still, alone, stays, offset, flying', update, kept⟩

/-- A commit is opened, left and opened again, so that it is in flight twice.  The first answer
shows its changes, they are scrolled, and the second answer shows them from their first line
again. -/
theorem reopened_changes_rescroll :
    ∃ (s : Exchange) (r : Reply) (b : Browser), Reachable sampleForge {} s ∧
      s.browser.opening? .changes = some (1, "4f2c9a1") ∧
      s.browser.history.diff.loading = false ∧ s.browser.history.diff.offset = 1 ∧
      s.inFlight = {r.request} ∧ r.outcome ∈ sampleForge.ask r.request.query ∧
      s.browser.update r.action = .ok (b, []) ∧
      b.opening? .changes = some (1, "4f2c9a1") ∧ b.history.diff.offset = 0 := by
  have h : Reachable sampleForge {} (.start {}) := .start
  have h := h.command (.selectRepository Source.sample.ticket.repository) rfl rfl
  have h := h.answer (.ok ⟨"# demo", "README.md"⟩) rfl rfl
  have h := h.answer (.ok Source.sample.reference) rfl rfl
  have h := h.answer (.ok ⟨[⟨"4f2c9a1", "begin", "someone", ⟨0, 0⟩⟩], none⟩) rfl rfl
  have h := h.command (.tabChanged .commits) rfl rfl
  have h := h.command (.key ⟨.enter, {}⟩) rfl rfl
  have h := h.command (.key ⟨.escape, {}⟩) rfl rfl
  have h := h.command (.key ⟨.enter, {}⟩) rfl rfl
  have h := h.answer sampleListing.outcome rfl rfl
  have h := h.answer (.ok ⟨"4f2c9a1", "begin", "someone", ⟨0, 0⟩, 0, 0, 0, []⟩) rfl rfl
  have h := h.command (.key ⟨.down, {}⟩) rfl rfl
  refine ⟨_, ⟨.fetchCommit Source.sample.ticket "4f2c9a1",
    .ok ⟨"4f2c9a1", "begin", "someone", ⟨0, 0⟩, 0, 0, 0, []⟩⟩, _, h, rfl, rfl, ?_, rfl, rfl, rfl,
    rfl, rfl⟩
  decide +kernel

end Exchange

end RepoBrowser
