import RepoBrowser.Proofs.Browser.Change

/-!
# The parts of a browser agree

How much is known of the selection is written down in several places: the stage, the count of
selections, the repository, the reference, the sources of the history and of the explorer, the
active tab and the tab that the strip shows.

* `Browser.Agrees` — these all say the same;
* `Change.agrees`, `run_agrees` — every change keeps that, and so does every run;
* `Browser.Owns`, `Change.owns` — every request belongs to the selection that there is when it is
  made;
* `parts_agree` — both together, for every sequence of actions.
-/

namespace RepoBrowser.Browser

/-- All parts of the browser say the same of how much is known of the selection. -/
structure Agrees (b : Browser) : Prop where
  empty_iff : b.stage = .empty ↔ b.repository = none
  count_iff : b.repository = none ↔ b.generation = 0
  ready_iff : b.stage = .ready ↔ b.reference.isSome = true
  history : b.history.source = b.source?
  explorer : b.explorer.source = b.source?
  rests : b.stage ≠ .ready →
    b.activeTab = .readme ∧ b.history.pendingPage = none ∧ b.explorer.pending = none
  strip : b.tabs.active = b.activeTab

/-- The request belongs to the current selection, and to its reference where it needs one. -/
structure Owns (b : Browser) (r : Request) : Prop where
  ticket : ∃ t, b.ticket? = some t ∧ r.ticket? = some t
  reference : ∀ n, r.reference? = some n → b.reference = some n
  known : r.needsReference = true → b.reference.isSome = true

variable {b b' : Browser} {a : Action} {rs : List Request}

theorem ticket?_eq_some_iff {t : Ticket} :
    b.ticket? = some t ↔ b.repository = some t.repository ∧ t.generation = b.generation := by
  unfold ticket?
  rw [Option.map_eq_some_iff]
  constructor
  · rintro ⟨r, hr, rfl⟩
    exact ⟨hr, rfl⟩
  · rintro ⟨hr, hg⟩
    exact ⟨t.repository, hr, by rw [← hg]⟩

theorem source?_eq_some_iff {s : Source} :
    b.source? = some s ↔ b.ticket? = some s.ticket ∧ b.reference = some s.reference := by
  unfold source?
  rw [Option.bind_eq_some_iff]
  constructor
  · rintro ⟨t, ht, hs⟩
    obtain ⟨n, hn, rfl⟩ := Option.map_eq_some_iff.mp hs
    exact ⟨ht, hn⟩
  · rintro ⟨ht, hn⟩
    exact ⟨s.ticket, ht, by rw [hn]; rfl⟩

theorem source?_of_known {r : Repository} {n : Reference} (hr : b.repository = some r)
    (hn : b.reference = some n) : b.source? = some ⟨⟨b.generation, r⟩, n⟩ :=
  source?_eq_some_iff.mpr ⟨ticket?_eq_some_iff.mpr ⟨hr, rfl⟩, hn⟩

theorem Agrees.exists_repository (h : Agrees b) (stage : b.stage = .ready) :
    ∃ r, b.repository = some r := by
  cases hr : b.repository with
  | none => exact absurd (stage.symm.trans (h.empty_iff.mpr hr)) (by decide)
  | some r => exact ⟨r, rfl⟩

theorem agrees_ofLayout (layout : Layout) : Agrees (ofLayout layout) where
  empty_iff := ⟨fun _ => rfl, fun _ => rfl⟩
  count_iff := ⟨fun _ => rfl, fun _ => rfl⟩
  ready_iff := ⟨(nomatch ·), (nomatch ·)⟩
  history := rfl
  explorer := rfl
  rests := fun _ => ⟨rfl, rfl, rfl⟩
  strip := rfl

/-! ### What each change does to the agreement -/

theorem agrees_select (b : Browser) (r : Repository) : Agrees (b.select r).1 where
  empty_iff := ⟨(nomatch ·), (nomatch ·)⟩
  count_iff := ⟨(nomatch ·), fun h => absurd h (Nat.succ_ne_zero _)⟩
  ready_iff := ⟨(nomatch ·), (nomatch ·)⟩
  history := rfl
  explorer := rfl
  rests := fun _ => ⟨rfl, rfl, rfl⟩
  strip := rfl

/-- Once it is selected and its reference is known, a repository is what all is fetched from. -/
theorem source?_resolve {r : Repository} (selected : b.repository = some r) (n : Reference) :
    (b.resolve r n).1.source? = some ⟨⟨b.generation, r⟩, n⟩ := source?_of_known selected rfl

theorem Agrees.resolve (h : Agrees b) {r : Repository} (selected : b.repository = some r)
    (n : Reference) : Agrees (b.resolve r n).1 where
  empty_iff := ⟨(nomatch ·), fun h' => nomatch selected.symm.trans h'⟩
  count_iff := h.count_iff
  ready_iff := ⟨fun _ => rfl, fun _ => rfl⟩
  history := (source?_resolve selected n).symm
  explorer := (source?_resolve selected n).symm
  rests := fun h' => absurd rfl h'
  strip := h.strip

/-- **Every change keeps the agreement.** -/
theorem Change.agrees (c : Change b a b' rs) (h : Agrees b) : Agrees b' := by
  cases c with
  | selected r => exact agrees_select b r
  | resolved selected _ => exact h.resolve selected _
  | tabbed _ error t allowed =>
    refine { h with rests := fun stage => ?_, strip := rfl }
    rcases allowed with ready | rfl
    · exact absurd ready stage
    · exact h.rests stage
  | @logReceived r m _ =>
    have hr := b.history.receive_receipt m
    refine { h with history := hr.source_eq.trans h.history, rests := fun stage => ?_ }
    obtain ⟨ht, hp, hx⟩ := h.rests stage
    exact ⟨ht, hr.pendingPage_eq_none hp, hx⟩
  | @filesReceived r m _ =>
    have hr := b.explorer.receive_receipt m
    refine { h with explorer := hr.source_eq.trans h.explorer, rests := fun stage => ?_ }
    obtain ⟨ht, hp, hx⟩ := h.rests stage
    refine ⟨ht, hp, ?_⟩
    show (b.explorer.receive m).pending = none
    rw [Explorer.receive_of_pending_eq_none hx]
    exact hx
  -- an input reaches the explorer or the history only in a browser that is ready
  | @filesInput i r _ tab error =>
    refine { h with
      explorer := (b.explorer.input_response i).source_eq.trans h.explorer
      rests := fun stage => ?_ }
    obtain ⟨ht, -⟩ := h.rests stage
    exact absurd (tab.symm.trans ht) (by decide)
  | @commitsInput i r _ tab error =>
    refine { h with
      history := (b.history.input_response i).source_eq.trans h.history
      rests := fun stage => ?_ }
    obtain ⟨ht, -⟩ := h.rests stage
    exact absurd (tab.symm.trans ht) (by decide)
  | _ => exact { h with }

/-- The agreement does not read the status line. -/
theorem Agrees.withStatus (h : Agrees b) (l : StatusLine) : Agrees { b with statusLine := l } :=
  { h with }

theorem Agrees.update (h : Agrees b) (hu : b.update a = .ok (b', rs)) : Agrees b' := by
  obtain ⟨c, l, hc, rfl⟩ := change_of_update hu
  exact (hc.agrees h).withStatus l

theorem run_agrees {layout : Layout} {actions : List Action}
    (h : (ofLayout layout).run actions = .ok b) : Agrees b :=
  run_induction (fun hb hu => Agrees.update hb hu) (agrees_ofLayout layout) h

/-! ### Requests -/

/-- A request from the source of the selection belongs to the selection. -/
theorem owns_of_isFrom {s : Source} {r : Request} (hs : b.source? = some s) (h : r.IsFrom s) :
    b.Owns r := by
  obtain ⟨ht, hn⟩ := source?_eq_some_iff.mp hs
  refine ⟨⟨s.ticket, ht, h.ticket⟩, fun n hr => ?_, fun _ => ?_⟩
  · rw [hn, h.reference n hr]
  · rw [hn]
    rfl

theorem Owns.ticket_eq {q : Request} (h : b.Owns q) {t : Ticket} (ht : q.ticket? = some t) :
    b.ticket? = some t := by
  obtain ⟨t', hb, hq⟩ := h.ticket
  rw [hb, ← hq, ht]

/-- A request for something at a reference comes from the source of the selection. -/
theorem Owns.source_eq {q : Request} (h : b.Owns q) {t : Ticket} {n : Reference}
    (ht : q.ticket? = some t) (hn : q.reference? = some n) : b.source? = some ⟨t, n⟩ :=
  source?_eq_some_iff.mpr ⟨h.ticket_eq ht, h.reference n hn⟩

/-- A request that needs the reference is made only once there is a source. -/
theorem Owns.exists_source {q : Request} (h : b.Owns q) {t : Ticket} (ht : q.ticket? = some t)
    (needs : q.needsReference = true) : ∃ src, b.source? = some src ∧ src.ticket = t := by
  obtain ⟨n, hn⟩ := Option.isSome_iff_exists.mp (h.known needs)
  exact ⟨⟨t, n⟩, source?_eq_some_iff.mpr ⟨h.ticket_eq ht, hn⟩, rfl⟩

theorem owns_select (b : Browser) (r : Repository) :
    ∀ q ∈ (b.select r).2, (b.select r).1.Owns q := by
  intro q hq
  have hcases : q = .fetchReadme ⟨b.generation + 1, r⟩ ∨
      q = .resolveReference ⟨b.generation + 1, r⟩ := by
    simpa [select] using hq
  rcases hcases with rfl | rfl <;>
    exact ⟨⟨⟨b.generation + 1, r⟩, rfl, rfl⟩, fun _ => (nomatch ·), (nomatch ·)⟩

theorem owns_resolve {r : Repository} (selected : b.repository = some r) (n : Reference) :
    ∀ q ∈ (b.resolve r n).2, (b.resolve r n).1.Owns q := by
  intro q hq
  have hcases : q = .fetchCommits ⟨b.generation, r⟩ n 1 ∨
      q = .fetchListing ⟨b.generation, r⟩ n "" := by
    simpa [Browser.resolve, History.start_eq, Explorer.start_eq] using hq
  refine owns_of_isFrom (source?_resolve selected n) ?_
  rcases hcases with rfl | rfl
  · exact .fetchCommits ⟨⟨b.generation, r⟩, n⟩ 1
  · exact .fetchListing ⟨⟨b.generation, r⟩, n⟩ ""

/-- **Every request belongs to the selection that there is once it is made.** -/
theorem Change.owns (c : Change b a b' rs) (h : Agrees b) : ∀ q ∈ rs, b'.Owns q := by
  cases c with
  | selected r => exact b.owns_select r
  | resolved selected _ => exact owns_resolve selected _
  | @logReceived r m _ =>
    intro q hq
    obtain ⟨s, hs, hq⟩ := (b.history.receive_receipt m).isFrom q hq
    exact owns_of_isFrom (h.history.symm.trans hs) hq
  | @filesInput i r _ _ error =>
    intro q hq
    obtain ⟨s, hs, hq⟩ := (b.explorer.input_response i).isFrom q hq
    exact owns_of_isFrom (h.explorer.symm.trans hs) hq
  | @commitsInput i r _ _ error =>
    intro q hq
    obtain ⟨s, hs, hq⟩ := (b.history.input_response i).isFrom q hq
    exact owns_of_isFrom (h.history.symm.trans hs) hq
  | _ => exact fun q hq => absurd hq List.not_mem_nil

theorem Agrees.owns (h : Agrees b) (hu : b.update a = .ok (b', rs)) : ∀ q ∈ rs, b'.Owns q := by
  obtain ⟨c, l, hc, rfl⟩ := change_of_update hu
  intro q hq
  have ho := hc.owns h q hq
  exact ⟨ho.ticket, ho.reference, ho.known⟩

/-! ### Every sequence of actions -/

/-- **The parts of a browser agree after every sequence of actions**, in any order and with any
results, late ones and ones that nothing asked for among them.  Every request that a further action
makes belongs to the selection that there is after it, and to the reference that is known of it. -/
theorem parts_agree (layout : Layout) (actions : List Action) (b : Browser)
    (h : (ofLayout layout).run actions = .ok b) :
    (b.stage = .empty ↔ b.repository = none) ∧
    (b.repository = none ↔ b.generation = 0) ∧
    (b.stage = .ready ↔ b.reference.isSome = true) ∧
    (b.reference.isSome = true ↔ b.history.source.isSome = true) ∧
    (b.history.source.isSome = true ↔ b.explorer.source.isSome = true) ∧
    (b.stage = .ready → ∃ r n, b.repository = some r ∧ b.reference = some n ∧
      b.history.source = some ⟨⟨b.generation, r⟩, n⟩ ∧
      b.explorer.source = some ⟨⟨b.generation, r⟩, n⟩) ∧
    (b.stage ≠ .ready →
      b.activeTab = .readme ∧ b.history.pendingPage = none ∧ b.explorer.pending = none) ∧
    b.tabs.active = b.activeTab ∧
    ∀ a b' rs, b.update a = .ok (b', rs) → ∀ q ∈ rs,
      (∃ r, b'.repository = some r ∧ q.ticket? = some ⟨b'.generation, r⟩) ∧
      (∀ n, q.reference? = some n → b'.reference = some n) ∧
      (q.needsReference = true → b'.reference.isSome = true) := by
  have hb : Agrees b := run_agrees h
  have hready : b.reference.isSome = true ↔ b.source?.isSome = true := by
    constructor
    · intro hn
      obtain ⟨n, hn⟩ := Option.isSome_iff_exists.mp hn
      obtain ⟨r, hr⟩ := hb.exists_repository (hb.ready_iff.mpr (by rw [hn]; rfl))
      rw [source?_of_known hr hn]
      rfl
    · intro hs
      obtain ⟨s, hs⟩ := Option.isSome_iff_exists.mp hs
      rw [(source?_eq_some_iff.mp hs).2]
      rfl
  refine ⟨hb.empty_iff, hb.count_iff, hb.ready_iff, ?_, ?_, ?_, hb.rests, hb.strip, ?_⟩
  · rw [hb.history]
    exact hready
  · rw [hb.history, hb.explorer]
  · intro stage
    obtain ⟨r, hr⟩ := hb.exists_repository stage
    obtain ⟨n, hn⟩ := Option.isSome_iff_exists.mp (hb.ready_iff.mp stage)
    have hs := source?_of_known hr hn
    exact ⟨r, n, hr, hn, hb.history.trans hs, hb.explorer.trans hs⟩
  · intro a b' rs hu q hq
    have ho := hb.owns hu q hq
    obtain ⟨t, ht, hqt⟩ := ho.ticket
    obtain ⟨hr, hg⟩ := ticket?_eq_some_iff.mp ht
    refine ⟨⟨t.repository, hr, ?_⟩, ho.reference, ho.known⟩
    rw [hqt, ← hg]

/-- A switch of the tab is undone while the reference is not known, and done once it is. -/
theorem parts_agree_sample :
    ∃ b, (ofLayout {}).run
        [.selectRepository Source.sample.ticket.repository, .key ⟨.tab, {}⟩,
          .referenceResolved 1 Source.sample.reference, .key ⟨.tab, {}⟩] = .ok b ∧
      b.stage = .ready ∧ b.activeTab = .files ∧ b.tabs.active = b.activeTab ∧
      b.history.source = some Source.sample ∧ b.explorer.source = some Source.sample := by
  refine ⟨_, rfl, rfl, rfl, ?_⟩
  obtain ⟨-, -, -, -, -, hready, -, hstrip, -⟩ := parts_agree {}
    [.selectRepository Source.sample.ticket.repository, .key ⟨.tab, {}⟩,
      .referenceResolved 1 Source.sample.reference, .key ⟨.tab, {}⟩] _ rfl
  obtain ⟨r, n, hr, hn, hh, hx⟩ := hready rfl
  obtain rfl := Option.some.inj hr
  obtain rfl := Option.some.inj hn
  exact ⟨hstrip, hh, hx⟩

end RepoBrowser.Browser
