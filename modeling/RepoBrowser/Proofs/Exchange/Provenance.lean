import RepoBrowser.Proofs.Exchange.Basic
import RepoBrowser.Proofs.Explorer.Contents
import RepoBrowser.Proofs.History.Contents

/-!
# Where all that is shown comes from

Results arrive in any order, those for earlier selections among them.  All that is shown comes all
the same from what the forge has answered to requests of the current selection.

* `pages`, `details`, `listings`, `files` — what has been answered to the current selection;
* `Vouched` — what a result brings, if it is for the current selection, is among that;
* `Sourced` — so is all that is shown;
* `shown_was_answered` — this holds whatever happens.
-/

namespace RepoBrowser.Exchange

/-! ### What was answered to a selection -/

/-- The pages of commits that were answered to the selection. -/
def pages (s : Exchange) (b : Browser) (p : Page Commit) : Prop :=
  ∃ src n, b.source? = some src ∧ s.Answered (.fetchCommits src.ticket src.reference n) p

/-- The changes of commits that were answered to the selection. -/
def details (s : Exchange) (b : Browser) (d : CommitDetail) : Prop :=
  ∃ src id, b.source? = some src ∧ s.Answered (.fetchCommit src.ticket id) d

/-- The directories that were answered to the selection. -/
def listings (s : Exchange) (b : Browser) (path : String) (raw : List Entry) : Prop :=
  ∃ src, b.source? = some src ∧ s.Answered (.fetchListing src.ticket src.reference path) raw

/-- The files that were answered to the selection. -/
def files (s : Exchange) (b : Browser) (path content : String) : Prop :=
  ∃ src, b.source? = some src ∧ s.Answered (.fetchFile src.ticket src.reference path) content

/-- What an action brings, if it is a result for the current selection, was answered to it. -/
def Vouched (s : Exchange) (b : Browser) : Action → Prop
  | .readmeLoaded g readme =>
    g = b.generation → ∃ t, b.ticket? = some t ∧ s.Answered (.fetchReadme t) readme
  | .referenceResolved g n =>
    g = b.generation → ∃ t, b.ticket? = some t ∧ s.Answered (.resolveReference t) n
  | .log g (.pageLoaded _ p) => g = b.generation → s.pages b p
  | .log g (.detailLoaded d) => g = b.generation → s.details b d
  | .files g (.listing path raw) => g = b.generation → s.listings b path raw
  | .files g (.file path content) => g = b.generation → s.files b path content
  | _ => True

variable {forge : Forge Set} {layout : Layout} {s s' : Exchange} {a : Action} {b b' : Browser}
  {rs : List Request}

theorem vouched_of_command (command : a.generation? = none) : Vouched s b a := by
  cases a <;> trivial

/-- **Whatever arrives was asked for.**  A result that bears the number of the current selection is
an answer to a request of this selection, at its reference. -/
theorem Move.vouched (m : Move forge s s' a b rs) (hs : Reachable forge layout s) :
    Vouched s' s.browser a := by
  rcases m.source with ⟨hnone, -, -⟩ | ⟨⟨q, o⟩, rest, rfl, hflight, -, -, hr⟩
  · exact vouched_of_command hnone
  · have hin : (⟨q, o⟩ : Reply) ∈ s'.replies := by
      rw [hr]
      exact List.mem_cons_self
    have owns : ∀ t, q.ticket? = some t → t.generation = s.browser.generation →
        s.browser.Owns q := fun _ ht hg => (hs.dated q (mem_of_flying hflight)).owns ht hg
    cases q with
    | resolveRepository name => cases o <;> trivial
    | fetchReadme t =>
      cases o with
      | error e => trivial
      | ok readme => exact fun hg => ⟨t, (owns t rfl hg).ticket_eq rfl, hin⟩
    | resolveReference t =>
      cases o with
      | error e => trivial
      | ok n => exact fun hg => ⟨t, (owns t rfl hg).ticket_eq rfl, hin⟩
    | fetchCommits t n k =>
      cases o with
      | error e => trivial
      | ok p => exact fun hg => ⟨⟨t, n⟩, k, (owns t rfl hg).source_eq rfl rfl, hin⟩
    | fetchCommit t id =>
      cases o with
      | error e => trivial
      | ok d =>
        intro hg
        obtain ⟨src, hsrc, rfl⟩ := (owns t rfl hg).exists_source rfl rfl
        exact ⟨src, id, hsrc, hin⟩
    | fetchListing t n path =>
      cases o with
      | error e => trivial
      | ok raw => exact fun hg => ⟨⟨t, n⟩, (owns t rfl hg).source_eq rfl rfl, hin⟩
    | fetchFile t n path =>
      cases o with
      | error e => trivial
      | ok content => exact fun hg => ⟨⟨t, n⟩, (owns t rfl hg).source_eq rfl rfl, hin⟩

/-! ### What is shown -/

/-- All that is shown was answered to the current selection. -/
structure Sourced (s : Exchange) (b : Browser) : Prop where
  readme : ∀ t, b.ticket? = some t → b.readme.HoldsText →
    ∃ readme, s.Answered (.fetchReadme t) readme ∧ b.readme.Shows readme.content readme.path
  blank : b.ticket? = none → b.readme.lines = []
  reference : ∀ n, b.reference = some n →
    ∃ t, b.ticket? = some t ∧ s.Answered (.resolveReference t) n
  history : b.history.DrawnFrom (s.pages b) (s.details b)
  explorer : b.explorer.DrawnFrom (s.listings b) (s.files b)

theorem sourced_start (layout : Layout) : Sourced (start layout) (.ofLayout layout) where
  readme := fun _ => (nomatch ·)
  blank := fun _ => rfl
  reference := fun _ => (nomatch ·)
  history := History.drawnFrom_nil rfl rfl
  explorer := Explorer.drawnFrom_nil rfl rfl rfl

/-- With more replies, what is shown was answered as before. -/
theorem Sourced.mono (d : Sourced s b) (h : ∀ r ∈ s.replies, r ∈ s'.replies) : Sourced s' b where
  readme := by
    intro t ht htext
    obtain ⟨readme, hr, hshows⟩ := d.readme t ht htext
    exact ⟨readme, h _ hr, hshows⟩
  blank := d.blank
  reference := by
    intro n hn
    obtain ⟨t, ht, hr⟩ := d.reference n hn
    exact ⟨t, ht, h _ hr⟩
  history := by
    refine d.history.mono ?_ ?_
    · rintro p ⟨src, n, hsrc, hp⟩
      exact ⟨src, n, hsrc, h _ hp⟩
    · rintro c ⟨src, id, hsrc, hc⟩
      exact ⟨src, id, hsrc, h _ hc⟩
  explorer := by
    refine d.explorer.mono ?_ ?_
    · rintro path raw ⟨src, hsrc, hraw⟩
      exact ⟨src, hsrc, h _ hraw⟩
    · rintro path content ⟨src, hsrc, hc⟩
      exact ⟨src, hsrc, h _ hc⟩

/-- **A change shows nothing that was not answered to the selection**, if what it takes from a
result was. -/
theorem Sourced.change (d : Sourced s b) (c : b.Change a b' rs) (v : Vouched s b a) :
    Sourced s b' := by
  cases c with
  | selected r =>
    -- the readme is dropped, and so is all that was known of another selection
    exact ⟨fun _ _ ht => absurd ht (Pager.not_holdsText_setLoading _), (nomatch ·),
      fun _ => (nomatch ·), History.drawnFrom_nil rfl rfl, Explorer.drawnFrom_nil rfl rfl rfl⟩
  | @resolved r n selected stage =>
    refine ⟨d.readme, d.blank, fun k hk => ?_, History.drawnFrom_nil rfl rfl,
      Explorer.drawnFrom_nil rfl rfl rfl⟩
    obtain rfl : n = k := Option.some.inj hk
    exact v rfl
  | @readmeShown r readme selected =>
    refine { d with readme := fun t ht _ => ?_, blank := fun hnone => ?_ }
    · obtain ⟨t', ht', hr⟩ := v rfl
      obtain rfl : t' = t := Option.some.inj (ht'.symm.trans ht)
      exact ⟨readme, hr, Pager.setContent_shows _ _ _⟩
    · have ht : b.ticket? = some ⟨b.generation, r⟩ :=
        Browser.ticket?_eq_some_iff.mpr ⟨selected, rfl⟩
      exact nomatch ht.symm.trans hnone
  | readmeMissed =>
    exact { d with readme := fun t ht htext => d.readme t ht htext.of_setError }
  | @logReceived r m selected =>
    refine { d with history := (b.history.receive_receipt m).drawnFrom d.history ?_ ?_ }
    · rintro n p rfl
      exact v rfl
    · rintro c rfl
      exact v rfl
  | @filesReceived r m selected =>
    refine { d with explorer := (b.explorer.receive_receipt m).drawnFrom d.explorer ?_ ?_ }
    · rintro path raw rfl
      exact v rfl
    · rintro path content rfl
      exact v rfl
  | resized width height =>
    exact { d with
      history := d.history.setSize width (b.layout.bodyHeight height)
      explorer := d.explorer.setSize width (b.layout.bodyHeight height) }
  | @readmeInput i r selected tab error =>
    refine { d with readme := fun t ht htext => ?_, blank := fun hnone => ?_ }
    · obtain ⟨readme, hr, hshows⟩ := d.readme t ht ((Pager.holdsText_input _ i).mp htext)
      exact ⟨readme, hr, (Pager.shows_input _ i _ _).mpr hshows⟩
    · obtain ⟨k, hk⟩ := b.readme.input_eq i
      show (b.readme.input i).lines = []
      rw [hk]
      exact d.blank hnone
  | @filesInput i r selected tab error =>
    exact { d with explorer := (b.explorer.input_response i).drawnFrom d.explorer }
  | @commitsInput i r selected tab error =>
    exact { d with history := (b.history.input_response i).drawnFrom d.history }
  | _ => exact { d with }

theorem Reachable.sourced (h : Reachable forge layout s) : Sourced s s.browser := by
  induction h with
  | start => exact sourced_start layout
  | step hs st ih =>
    obtain ⟨a, b, rs, m⟩ := st.exists_move
    obtain ⟨l, hb⟩ := m.browser
    have hd : Sourced _ b := (ih.mono fun _ => m.mem_replies).change m.change (m.vouched hs)
    rw [hb]
    exact { hd with }

/-! ### Whatever happens -/

/-- **All that is shown was answered to the current selection**, in whatever order results arrive
and whatever the forge answers.  The readme and the reference come from answers to requests with the
ticket of the selection; commits, listings, the text of a file and the changes of a commit come from
answers to requests at its source, which is that ticket together with the reference that is known.
The entries are those of the directory that is shown, a file that is open is shown as itself, and so
are the changes of a commit.  Every answer was given by the forge. -/
theorem shown_was_answered (forge : Forge Set) (layout : Layout) (s : Exchange)
    (h : Reachable forge layout s) :
    (∀ t, s.browser.ticket? = some t → s.browser.readme.HoldsText →
      ∃ readme, s.Answered (.fetchReadme t) readme ∧
        s.browser.readme.Shows readme.content readme.path) ∧
    (s.browser.ticket? = none → s.browser.readme.lines = []) ∧
    (∀ n, s.browser.reference = some n →
      ∃ t, s.browser.ticket? = some t ∧ s.Answered (.resolveReference t) n) ∧
    (∀ c ∈ s.browser.history.commits, ∃ src n p, s.browser.source? = some src ∧
      s.Answered (.fetchCommits src.ticket src.reference n) p ∧ c ∈ p.items) ∧
    (∀ path es, s.browser.explorer.listings.lookup path = some es →
      ∃ src raw, s.browser.source? = some src ∧
        s.Answered (.fetchListing src.ticket src.reference path) raw ∧ es = sortEntries raw) ∧
    (s.browser.explorer.entries ≠ [] → ∃ src raw, s.browser.source? = some src ∧
      s.Answered (.fetchListing src.ticket src.reference s.browser.explorer.path) raw ∧
      s.browser.explorer.entries = sortEntries raw) ∧
    (∀ f, s.browser.explorer.opened = some f → s.browser.explorer.viewer.HoldsText →
      ∃ src content, s.browser.source? = some src ∧
        s.Answered (.fetchFile src.ticket src.reference f) content ∧
        s.browser.explorer.viewer.Shows content f) ∧
    (∀ id, s.browser.history.opened = some id → s.browser.history.diff.HoldsText →
      ∃ src asked d, s.browser.source? = some src ∧
        s.Answered (.fetchCommit src.ticket asked) d ∧ d.id = id ∧
        s.browser.history.diff.Shows (String.ofList (commitText d)) (History.diffPath id)) ∧
    (∀ r ∈ s.replies, r.outcome ∈ forge.ask r.request.query) := by
  have hd : Sourced s s.browser := h.sourced
  refine ⟨hd.readme, hd.blank, hd.reference, fun c hc => ?_, fun path es hes => ?_, fun hne => ?_,
    fun f hopen htext => ?_, fun id hopen htext => ?_, h.given⟩
  · obtain ⟨p, ⟨src, n, hsrc, hp⟩, hmem⟩ := hd.history.commits c hc
    exact ⟨src, n, p, hsrc, hp, hmem⟩
  · obtain ⟨raw, ⟨src, hsrc, hraw⟩, heq⟩ := hd.explorer.kept path es hes
    exact ⟨src, raw, hsrc, hraw, heq⟩
  · obtain ⟨raw, ⟨src, hsrc, hraw⟩, heq⟩ := hd.explorer.entries hne
    exact ⟨src, raw, hsrc, hraw, heq⟩
  · obtain ⟨content, ⟨src, hsrc, hc⟩, hshows⟩ := hd.explorer.viewer f hopen htext
    exact ⟨src, content, hsrc, hc, hshows⟩
  · obtain ⟨d, ⟨src, asked, hsrc, hdetail⟩, heq, hshows⟩ := hd.history.diff id hopen htext
    exact ⟨src, asked, d, hsrc, hdetail, heq, hshows⟩

/-- After a repository was selected twice, the answers to the first selection are dropped. -/
theorem shown_was_answered_sample :
    ∃ s c, Reachable ⟨"any", fun _ => Set.univ⟩ {} s ∧
      s.Answered (.fetchReadme ⟨1, Source.sample.ticket.repository⟩) ⟨"old", "README.md"⟩ ∧
      s.browser.ticket? = some ⟨2, Source.sample.ticket.repository⟩ ∧
      (∃ readme, s.Answered (.fetchReadme ⟨2, Source.sample.ticket.repository⟩) readme ∧
        s.browser.readme.Shows readme.content readme.path) ∧
      c ∈ s.browser.history.commits ∧
      ∃ src n p, s.browser.source? = some src ∧
        s.Answered (.fetchCommits src.ticket src.reference n) p ∧ c ∈ p.items := by
  have h : Reachable ⟨"any", fun _ => Set.univ⟩ {} (.start {}) := .start
  have h := h.command (.selectRepository Source.sample.ticket.repository) rfl rfl
  have h := h.command (.selectRepository Source.sample.ticket.repository) rfl rfl
  have h := h.answer (.ok ⟨"old", "README.md"⟩) trivial rfl
  have h := h.answer (.ok ⟨"refs/heads/old", "a0d5c81"⟩) trivial rfl
  have h := h.answer (.ok ⟨"new", "README.md"⟩) trivial rfl
  have h := h.answer (.ok Source.sample.reference) trivial rfl
  have h := h.answer (.ok ⟨[⟨"4f2c9a1", "begin", "someone", ⟨0, 0⟩⟩], none⟩) trivial rfl
  obtain ⟨hreadme, -, -, hcommits, -⟩ := shown_was_answered _ _ _ h
  exact ⟨_, ⟨"4f2c9a1", "begin", "someone", ⟨0, 0⟩⟩, h, List.mem_of_getElem? (i := 4) rfl, rfl,
    hreadme _ rfl (.inr ⟨rfl, rfl⟩), .head _, hcommits _ (.head _)⟩

end RepoBrowser.Exchange
