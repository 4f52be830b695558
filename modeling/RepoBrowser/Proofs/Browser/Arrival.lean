import RepoBrowser.Proofs.Browser.Agreement
import RepoBrowser.Proofs.Browser.Status
import RepoBrowser.Proofs.Subject

/-!
# Results arrive in any order

Two results that are about different things lead to the same, whichever of them arrives first, as
long as neither is the reference that the other one has waited for.  Each of them leaves alone what
the other one reads and writes, with the status line as the one exception: some results bring it up
to date and others do not.  Those that do not touch nothing that it says.

* `Action.Independent` — the pairs of results that this is about;
* `act_frame`, `act_withStatus` — what a result does not look at stays as it is;
* `Swaps`, `swaps_of_independent` — the status line apart, the order does not matter;
* `Swaps.apply_apply` — nor does it matter for the status line;
* `Swaps.fault?_eq_none` — nor for whether a fault stops the program;
* `updateThen_swap` — all of this for a browser whose parts agree.
-/

namespace RepoBrowser

/-- Two results about different things, neither of which is the reference that the other needs. -/
structure Action.Independent (x y : Action) : Prop where
  exists_subjects : ∃ k l, x.subject? = some k ∧ y.subject? = some l ∧ k ≠ l ∧
    ¬ (k = .reference ∧ l.needsReference = true) ∧ ¬ (l = .reference ∧ k.needsReference = true)

/-- One of them is about the readme, or one is about commits and the other about files. -/
theorem Action.Independent.cases_subject {x y : Action} (h : x.Independent y) :
    (x.subject? = some .readme ∧ ∃ l, y.subject? = some l ∧ l ≠ .readme) ∨
    (y.subject? = some .readme ∧ ∃ k, x.subject? = some k ∧ k ≠ .readme) ∨
    (x.subject? = some .log ∧ y.subject? = some .files) ∨
    (x.subject? = some .files ∧ y.subject? = some .log) := by
  obtain ⟨k, l, hk, hl, hne, hkl, hlk⟩ := h.exists_subjects
  cases k with
  | readme => exact .inl ⟨hk, l, hl, hne.symm⟩
  | reference =>
    cases l with
    | readme => exact .inr (.inl ⟨hl, _, hk, hne⟩)
    | reference => exact absurd rfl hne
    | log | files => exact absurd ⟨rfl, rfl⟩ hkl
  | log =>
    cases l with
    | readme => exact .inr (.inl ⟨hl, _, hk, hne⟩)
    | reference => exact absurd ⟨rfl, rfl⟩ hlk
    | log => exact absurd rfl hne
    | files => exact .inr (.inr (.inl ⟨hk, hl⟩))
  | files =>
    cases l with
    | readme => exact .inr (.inl ⟨hl, _, hk, hne⟩)
    | reference => exact absurd ⟨rfl, rfl⟩ hlk
    | log => exact .inr (.inr (.inr ⟨hk, hl⟩))
    | files => exact absurd rfl hne

namespace Browser

variable {b c : Browser} {a x y : Action} {g : Nat} {k : Subject} {rs : List Request}

/-! ### What a result does not look at -/

/-- A result does not change for which selection results count. -/
theorem Change.isStale_eq (ch : b.Change a c rs) (result : a.generation? = some g) (g' : Nat) :
    c.isStale g' = b.isStale g' := by
  cases ch with
  | selected => exact nomatch result
  | _ => rfl

/-- A result does not change what is selected. -/
theorem Change.repository_eq (ch : b.Change a c rs) (result : a.generation? = some g) :
    c.repository = b.repository := by
  cases ch with
  | selected => exact nomatch result
  | _ => rfl

/-- A result about something else leaves the readme. -/
theorem Change.readme_eq (ch : b.Change a c rs) (about : a.subject? = some k)
    (other : k ≠ .readme) : c.readme = b.readme := by
  cases ch with
  | selected => exact nomatch about
  | readmeShown | readmeMissed => exact absurd (Option.some.inj about).symm other
  | @readmeInput i => cases i <;> exact nomatch about
  | resized => exact nomatch about
  | _ => rfl

/-- What a result about the readme does, it does to the readme alone. -/
theorem act_readme (about : a.subject? = some .readme) :
    ∃ (g : Nat) (f : Pager → Pager) (refreshes : Bool), a.generation? = some g ∧
      ∀ b : Browser, b.isStale g = false →
        b.act a = ⟨{ b with readme := f b.readme }, [], refreshes⟩ := by
  cases a with
  | readmeLoaded g readme =>
    exact ⟨g, fun p => p.setContent readme.content readme.path, true, rfl,
      fun _ fresh => act_readmeLoaded fresh readme⟩
  | readmeFailed g reason =>
    exact ⟨g, fun p => p.setError reason, false, rfl, fun _ fresh => act_readmeFailed fresh reason⟩
  | _ => exact nomatch about

/-- **A result about something else neither reads the readme nor writes to it**, and the status line
as little. -/
theorem act_frame (about : a.subject? = some k) (other : k ≠ .readme) (p : Pager)
    (l : StatusLine) :
    ({ b with readme := p, statusLine := l } : Browser).act a
      = { b.act a with browser := { (b.act a).browser with readme := p, statusLine := l } } := by
  obtain ⟨g, result⟩ := Action.exists_generation about
  cases fresh : b.isStale g with
  | true =>
    have stale : ({ b with readme := p, statusLine := l } : Browser).isStale g = true := fresh
    rw [act_of_stale result fresh, act_of_stale result stale]
  | false =>
    have fresh' : ({ b with readme := p, statusLine := l } : Browser).isStale g = false := fresh
    cases a with
    | referenceResolved g' n =>
      obtain rfl : g' = g := Option.some.inj result
      by_cases stage : b.stage = .resolving
      · obtain ⟨⟨r, selected⟩, -⟩ := eq_of_isStale_eq_false fresh
        have selected' : ({ b with readme := p, statusLine := l } : Browser).repository = some r :=
          selected
        rw [act_resolved selected fresh stage, act_resolved selected' fresh' stage]
        rfl
      · rw [act_settled stage, act_settled (b := { b with readme := p, statusLine := l }) stage]
    | referenceFailed g' reason =>
      obtain rfl : g' = g := Option.some.inj result
      rw [act_referenceFailed fresh, act_referenceFailed fresh']
    | log g' m =>
      obtain rfl : g' = g := Option.some.inj result
      rw [act_log fresh, act_log fresh']
    | files g' m =>
      obtain rfl : g' = g := Option.some.inj result
      rw [act_files fresh, act_files fresh']
    | readmeLoaded | readmeFailed => exact absurd (Option.some.inj about).symm other
    | _ => exact nomatch about

/-- **No result reads the status line or writes to it.** -/
theorem act_withStatus (about : a.subject? = some k) (l : StatusLine) :
    ({ b with statusLine := l } : Browser).act a
      = { b.act a with browser := { (b.act a).browser with statusLine := l } } := by
  by_cases readme : k = .readme
  · obtain ⟨g, f, refreshes, result, hact⟩ := act_readme (readme ▸ about)
    cases fresh : b.isStale g with
    | true =>
      have stale : ({ b with statusLine := l } : Browser).isStale g = true := fresh
      rw [act_of_stale result fresh, act_of_stale result stale]
    | false => rw [hact b fresh, hact { b with statusLine := l } fresh]
  · have frame := act_frame (b := b) about readme b.readme l
    refine frame.trans ?_
    rw [← (b.act_change a).readme_eq about readme]

theorem statusLine_act (about : a.subject? = some k) :
    (b.act a).browser.statusLine = b.statusLine :=
  congrArg (fun o => o.browser.statusLine) (act_withStatus (b := b) about b.statusLine)

/-- The fault of taking in what a result brings. -/
def receivedFault? (b : Browser) : Action → Option Fault
  | .log g m => if b.isStale g then none else b.history.receiveFault? m
  | _ => none

theorem receivedFault?_of_stale (result : a.generation? = some g) (stale : b.isStale g = true) :
    b.receivedFault? a = none := by
  cases a with
  | log g' m =>
    obtain rfl : g' = g := Option.some.inj result
    exact if_pos stale
  | _ => rfl

theorem receivedFault?_of_ne_log (about : a.subject? = some k) (other : k ≠ .log) :
    b.receivedFault? a = none := by
  cases a with
  | log => exact absurd (Option.some.inj about).symm other
  | _ => rfl

/-! ### The status line apart -/

/-- The first of two results asks for the same, is as faulty, and brings the status line up to date
as before, if the second one is there already. -/
structure Undisturbed (b : Browser) (x y : Action) : Prop where
  requests : ((b.act y).browser.act x).requests = (b.act x).requests
  refreshes : ((b.act y).browser.act x).refreshes = (b.act x).refreshes
  fault : (b.act y).browser.receivedFault? x = b.receivedFault? x

/-- The status line apart, the order of two results does not matter. -/
structure Swaps (b : Browser) (x y : Action) : Prop where
  browser : ((b.act x).browser.act y).browser = ((b.act y).browser.act x).browser
  first : Undisturbed b x y
  second : Undisturbed b y x

theorem Swaps.symm (h : Swaps b x y) : Swaps b y x := ⟨h.browser.symm, h.second, h.first⟩

/-- A result for another selection does nothing before or after another result. -/
theorem swaps_of_stale (result : x.generation? = some g) (stale : b.isStale g = true)
    (about : y.subject? = some k) : Swaps b x y := by
  obtain ⟨g', result'⟩ := Action.exists_generation about
  have stale' : (b.act y).browser.isStale g = true :=
    ((b.act_change y).isStale_eq result' g).trans stale
  have hx : b.act x = ⟨b, [], false⟩ := act_of_stale result stale
  have hx' : (b.act y).browser.act x = ⟨(b.act y).browser, [], false⟩ := act_of_stale result stale'
  refine ⟨?_, ⟨?_, ?_, ?_⟩, ⟨?_, ?_, ?_⟩⟩
  · rw [hx, hx']
  · rw [hx, hx']
  · rw [hx, hx']
  · rw [receivedFault?_of_stale result stale, receivedFault?_of_stale result stale']
  all_goals rw [hx]

/-- A result about the readme does not meet a result about anything else. -/
theorem swaps_of_readme (hx : x.subject? = some .readme) (hy : y.subject? = some k)
    (other : k ≠ .readme) : Swaps b x y := by
  obtain ⟨g, f, refreshes, result, hact⟩ := act_readme hx
  cases fresh : b.isStale g with
  | true => exact swaps_of_stale result fresh hy
  | false =>
    obtain ⟨g', result'⟩ := Action.exists_generation hy
    have fresh' : (b.act y).browser.isStale g = false :=
      ((b.act_change y).isStale_eq result' g).trans fresh
    have kept : (b.act y).browser.readme = b.readme := (b.act_change y).readme_eq hy other
    -- `y` does the same to the browser with another readme
    have frame : ({ b with readme := f b.readme } : Browser).act y
        = { b.act y with browser := { (b.act y).browser with readme := f b.readme } } := by
      refine (act_frame hy other (f b.readme) b.statusLine).trans ?_
      rw [← statusLine_act hy]
    refine ⟨?_, ⟨?_, ?_, ?_⟩, ⟨?_, ?_, ?_⟩⟩
    · rw [hact b fresh, hact _ fresh', frame, kept]
    · rw [hact b fresh, hact _ fresh']
    · rw [hact b fresh, hact _ fresh']
    · rw [receivedFault?_of_ne_log hx (by decide), receivedFault?_of_ne_log hx (by decide)]
    · rw [hact b fresh, frame]
    · rw [hact b fresh, frame]
    · rw [hact b fresh]
      cases y <;> rfl

/-- Nor does a result about commits meet a result about files. -/
theorem swaps_of_log_files (hx : x.subject? = some .log) (hy : y.subject? = some .files) :
    Swaps b x y := by
  cases x with
  | log g m =>
    cases y with
    | files g' m' =>
      cases fresh : b.isStale g with
      | true => exact swaps_of_stale (x := .log g m) rfl fresh hy
      | false =>
        cases fresh' : b.isStale g' with
        | true => exact (swaps_of_stale (x := .files g' m') rfl fresh' hx).symm
        | false =>
          have hlog : ({ b with explorer := b.explorer.receive m' } : Browser).isStale g = false :=
            fresh
          have hfiles :
              ({ b with history := (b.history.receive m).1 } : Browser).isStale g' = false := fresh'
          refine ⟨?_, ⟨?_, ?_, ?_⟩, ⟨?_, ?_, ?_⟩⟩
          · rw [act_log fresh, act_files fresh', act_files hfiles, act_log hlog]
          · rw [act_files fresh', act_log fresh, act_log hlog]
          · rw [act_files fresh', act_log fresh, act_log hlog]
          · rw [act_files fresh']
            rfl
          · rw [act_log fresh, act_files fresh', act_files hfiles]
          · rw [act_log fresh, act_files fresh', act_files hfiles]
          · rfl
    | _ => exact nomatch hy
  | _ => exact nomatch hx

/-- **The status line apart, the order of independent results does not matter.** -/
theorem swaps_of_independent (b : Browser) (h : x.Independent y) : Swaps b x y := by
  rcases h.cases_subject with ⟨hx, l, hy, other⟩ | ⟨hy, k, hx, other⟩ | ⟨hx, hy⟩ | ⟨hx, hy⟩
  · exact swaps_of_readme hx hy other
  · exact (swaps_of_readme hy hx other).symm
  · exact swaps_of_log_files hx hy
  · exact (swaps_of_log_files hy hx).symm

/-! ### The status line -/

/-- Brought up to date twice, the status line says what it says the second time. -/
theorem refresh_again (line : c.statusLine = b.statusLine)
    (repository : c.repository = b.repository) :
    ({ c with statusLine := b.refresh.statusLine } : Browser).refresh = c.refresh := by
  rcases Option.eq_none_or_eq_some b.repository with unselected | ⟨r, selected⟩
  · rw [refresh_of_unselected unselected, ← line]
  · have selected' : c.repository = some r := repository.trans selected
    rw [refresh_of_selected selected, refresh_of_selected selected', ← line]
    exact refresh_of_selected
      (b := { c with statusLine := c.statusLine.say (b.statusOf r) }) selected'

/-- What the status line says before a silent action is what it says after it. -/
theorem Silent.refresh_eq (s : Silent b a c) (size : a.isResize = false)
    (line : c.statusLine = b.statusLine) :
    ({ c with statusLine := b.refresh.statusLine } : Browser) = c.refresh := by
  rcases Option.eq_none_or_eq_some b.repository with unselected | ⟨r, selected⟩
  · rw [refresh_of_unselected unselected, ← line,
      refresh_of_unselected (s.repository_eq.trans unselected)]
  · rw [refresh_of_selected selected, refresh_of_selected (s.repository_eq.trans selected), line,
      s.statusOf_eq size]

/-- No result is a change of the size. -/
theorem isResize_of_subject (about : a.subject? = some k) : a.isResize = false := by
  cases a with
  | resized => exact nomatch about
  | _ => rfl

/-- **After two results the status line is up to date if either of them brings it up to date**, the
second one after the first. -/
theorem apply_apply (x : Action) (hy : y.subject? = some k) :
    (b.apply x).1.apply y =
      (if (b.act x).refreshes || ((b.act x).browser.act y).refreshes then
          ((b.act x).browser.act y).browser.refresh
        else ((b.act x).browser.act y).browser,
        ((b.act x).browser.act y).requests) := by
  obtain ⟨g, result⟩ := Action.exists_generation hy
  have line : ((b.act x).browser.act y).browser.statusLine = (b.act x).browser.statusLine :=
    statusLine_act hy
  have repository : ((b.act x).browser.act y).browser.repository = (b.act x).browser.repository :=
    ((b.act x).browser.act_change y).repository_eq result
  cases first : (b.act x).refreshes with
  | false =>
    rw [apply_of_silent first, Bool.false_or]
    rfl
  | true =>
    have renewed : (b.act x).browser.refresh
        = { (b.act x).browser with statusLine := (b.act x).browser.refresh.statusLine } := by
      obtain ⟨l, hl⟩ := (b.act x).browser.refresh_eq
      rw [hl]
    rw [apply_of_refreshes first, renewed, Bool.true_or, if_pos rfl]
    cases second : ((b.act x).browser.act y).refreshes with
    | true =>
      rw [apply_of_refreshes (by rw [act_withStatus hy]; exact second), act_withStatus hy]
      rw [refresh_again line repository]
    | false =>
      rw [apply_of_silent (by rw [act_withStatus hy]; exact second), act_withStatus hy]
      rw [(act_silent second).refresh_eq (isResize_of_subject hy) line]

/-- **The order of two results that swap does not matter**, for the status line neither. -/
theorem Swaps.apply_apply {l : Subject} (h : Swaps b x y) (hx : x.subject? = some k)
    (hy : y.subject? = some l) :
    ((b.apply x).1.apply y).1 = ((b.apply y).1.apply x).1 ∧
      ((b.apply x).1.apply y).2 = (b.apply y).2 ∧ ((b.apply y).1.apply x).2 = (b.apply x).2 := by
  rw [Browser.apply_apply x hy, Browser.apply_apply y hx]
  refine ⟨?_, h.second.requests, h.first.requests⟩
  rw [h.browser, h.first.refreshes, h.second.refreshes, Bool.or_comm]

/-! ### Faults -/

theorem fault?_eq (b : Browser) (a : Action) : b.fault? a = (b.receivedFault? a).or
    (if (b.act a).refreshes then (b.act a).browser.refreshFault? else none) := by
  cases a <;> rfl

theorem fault?_eq_none_iff : b.fault? a = none ↔
    b.receivedFault? a = none ∧
      ((b.act a).refreshes = true → (b.act a).browser.refreshFault? = none) := by
  rw [fault?_eq, Option.or_eq_none_iff, ite_eq_right_iff]

/-- What the status line says makes no fault. -/
theorem fault?_withStatus (about : a.subject? = some k) (l : StatusLine) :
    ({ b with statusLine := l } : Browser).fault? a = b.fault? a := by
  have received : ({ b with statusLine := l } : Browser).receivedFault? a = b.receivedFault? a := by
    cases a <;> rfl
  rw [fault?_eq, fault?_eq, received, act_withStatus about]
  rfl

/-- After an update a result has the fault that it has without the new status line. -/
theorem fault?_apply (x : Action) (about : y.subject? = some k) :
    (b.apply x).1.fault? y = (b.act x).browser.fault? y := by
  cases refreshes : (b.act x).refreshes with
  | true =>
    obtain ⟨l, hl⟩ := (b.act x).browser.refresh_eq
    rw [apply_of_refreshes refreshes, hl]
    exact fault?_withStatus about l
  | false => rw [apply_of_silent refreshes]

/-- A silent action leaves the fault of bringing the status line up to date. -/
theorem Silent.refreshFault?_eq (s : Silent b a c) : c.refreshFault? = b.refreshFault? := by
  cases s <;> rfl

/-- **No result takes away a fault of bringing the status line up to date.** -/
theorem Change.refreshFault?_eq_none (ch : b.Change a c rs) (hb : Agrees b)
    (result : a.generation? = some g) (faultless : c.refreshFault? = none) :
    b.refreshFault? = none := by
  cases ch with
  | selected => exact nomatch result
  | noted command | tabbed command => exact nomatch command.symm.trans result
  | resized => exact nomatch result
  | @readmeInput i => exact nomatch i.action_generation?.symm.trans result
  | @filesInput i => exact nomatch i.action_generation?.symm.trans result
  | @commitsInput i => exact nomatch i.action_generation?.symm.trans result
  | resolved selected stage =>
    -- while the reference is waited for the readme is shown, about which there is no fault
    obtain ⟨tab, -⟩ := hb.rests (by rw [stage]; decide)
    unfold refreshFault?
    rw [tab]
    exact if_neg (by simp)
  | @logReceived r m _ =>
    unfold refreshFault? at faultless ⊢
    split
    · rename_i shown
      rw [if_pos shown] at faultless
      exact (b.history.receive_receipt m).statusFault?_eq_none faultless
    · rfl
  | _ => exact faultless

/-- **If a fault stops the program in neither step, then in none in the other order.** -/
theorem Swaps.fault?_eq_none (h : Swaps b x y) (hb : Agrees b) (hx : x.subject? = some k)
    (first : b.fault? x = none)
    (second : (b.act x).browser.fault? y = none) :
    b.fault? y = none ∧ (b.act y).browser.fault? x = none := by
  obtain ⟨g, result⟩ := Action.exists_generation hx
  obtain ⟨receivedX, refreshX⟩ := fault?_eq_none_iff.mp first
  obtain ⟨receivedY, refreshBoth⟩ := fault?_eq_none_iff.mp second
  rw [h.second.fault] at receivedY
  rw [h.second.refreshes, h.browser] at refreshBoth
  constructor
  · refine fault?_eq_none_iff.mpr ⟨receivedY, fun refreshes => ?_⟩
    have hc : Agrees (b.act y).browser := (b.act_change y).agrees hb
    exact ((b.act y).browser.act_change x).refreshFault?_eq_none hc result (refreshBoth refreshes)
  · refine fault?_eq_none_iff.mpr ⟨h.first.fault.trans receivedX, fun refreshes => ?_⟩
    rw [h.first.refreshes] at refreshes
    cases silent : (b.act y).refreshes with
    | true => exact refreshBoth silent
    | false =>
      have hs : Silent (b.act x).browser y ((b.act x).browser.act y).browser :=
        act_silent (h.second.refreshes.trans silent)
      rw [← h.browser, hs.refreshFault?_eq]
      exact refreshX refreshes

/-! ### Two updates -/

/-- What two actions lead to, one after the other, with the requests of both. -/
def updateThen (b : Browser) (x y : Action) : Except Fault (Browser × List Request) :=
  match b.update x with
  | .error f => .error f
  | .ok (c, rs) =>
    match c.update y with
    | .error f => .error f
    | .ok (d, qs) => .ok (d, rs ++ qs)

theorem updateThen_eq_ok_iff {out : Browser × List Request} : b.updateThen x y = .ok out ↔
    b.fault? x = none ∧ (b.apply x).1.fault? y = none ∧
      (((b.apply x).1.apply y).1, (b.apply x).2 ++ ((b.apply x).1.apply y).2) = out := by
  unfold updateThen update checked
  cases b.fault? x with
  | some f => simp
  | none =>
    cases second : (b.apply x).1.fault? y <;> simp [second]

/-- **The order of independent results does not matter**: one order leads to the same as the other,
and both ask for the same. -/
theorem updateThen_swap (hb : Agrees b) (h : x.Independent y)
    (ok : b.updateThen x y = .ok (c, rs)) :
    ∃ qs, b.updateThen y x = .ok (c, qs) ∧ rs.Perm qs := by
  obtain ⟨k, l, hx, hy, -⟩ := h.exists_subjects
  have swaps : Swaps b x y := swaps_of_independent b h
  obtain ⟨same, asksY, asksX⟩ := swaps.apply_apply hx hy
  obtain ⟨first, second, out⟩ := updateThen_eq_ok_iff.mp ok
  obtain ⟨rfl, rfl⟩ := Prod.mk.inj out
  rw [fault?_apply x hy] at second
  obtain ⟨first', second'⟩ := swaps.fault?_eq_none hb hx first second
  rw [← fault?_apply y hx] at second'
  refine ⟨(b.apply y).2 ++ ((b.apply y).1.apply x).2,
    updateThen_eq_ok_iff.mpr ⟨first', second', ?_⟩, ?_⟩
  · rw [same]
  · rw [asksX, asksY]
    exact List.perm_append_comm

end Browser

end RepoBrowser
