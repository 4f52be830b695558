import RepoBrowser.Proofs.Browser.Arrival
import RepoBrowser.Proofs.Browser.Waiting
import RepoBrowser.Proofs.Exchange.Basic

/-!
# What is in flight at the same time

The readme and the reference are asked for as soon as a repository is selected, and not again as
long as it is.  Commits and files are asked for once the reference has come.

* `Ticket.first` — what is asked for first;
* `Browser.lacks` — whether what is asked for first is still to come;
* `Reachable.asked_once` — each of the first requests is in flight once at most, and only as long as
  what it asks for is to come;
* `Reachable.reference_alone` — nothing that needs the reference is in flight together with the
  request for it;
* `results_in_any_order` — so the order in which results arrive makes a difference for no two
  results about different things that can be in flight together.
-/

namespace RepoBrowser

/-- What is asked for as soon as a repository is selected. -/
def Ticket.first (t : Ticket) : List Request := [.fetchReadme t, .resolveReference t]

theorem Request.ticket?_of_mem_first {t : Ticket} {q : Request} (hq : q ∈ t.first) :
    q.ticket? = some t ∧ q.needsReference = false := by
  rcases List.mem_pair.mp hq with rfl | rfl <;> exact ⟨rfl, rfl⟩

/-- What is asked for first is told by what it is about. -/
theorem Request.eq_of_mem_first {t : Ticket} {p q : Request} (hq : q ∈ t.first)
    (about : p.subject? = q.subject?) (ticket : p.ticket? = some t) : p = q := by
  rcases List.mem_pair.mp hq with rfl | rfl
  all_goals
    cases p with
    | fetchReadme t' => first | exact congrArg _ (Option.some.inj ticket) | exact nomatch about
    | resolveReference t' =>
      first | exact congrArg _ (Option.some.inj ticket) | exact nomatch about
    | _ => exact nomatch about

namespace Browser

/-- Whether what is asked for first is still to come. -/
def lacks (b : Browser) : Request → Bool
  | .fetchReadme _ => b.readme.loading
  | .resolveReference _ => b.reference.isNone
  | _ => false

variable {b b' : Browser} {a : Action} {rs : List Request} {t : Ticket} {q : Request}

/-- As long as the selection is the same, nothing is asked for that does not need the reference. -/
theorem Change.needsReference (c : b.Change a b' rs) (same : b'.generation = b.generation) :
    ∀ q ∈ rs, q.needsReference = true := by
  cases c with
  | selected r => exact absurd same (Nat.succ_ne_self _)
  | @resolved r n =>
    intro q hq
    have hcases : q = .fetchCommits ⟨b.generation, r⟩ n 1 ∨
        q = .fetchListing ⟨b.generation, r⟩ n "" := by
      simpa [Browser.resolve, History.start_eq, Explorer.start_eq] using hq
    rcases hcases with rfl | rfl <;> rfl
  | @logReceived r m _ =>
    intro q hq
    obtain ⟨s, -, hfrom⟩ := (b.history.receive_receipt m).isFrom q hq
    exact hfrom.kind
  | @filesInput i r _ _ error =>
    intro q hq
    obtain ⟨s, -, hfrom⟩ := (b.explorer.input_response i).isFrom q hq
    exact hfrom.kind
  | @commitsInput i r _ _ error =>
    intro q hq
    obtain ⟨s, -, hfrom⟩ := (b.history.input_response i).isFrom q hq
    exact hfrom.kind
  | _ => exact fun q hq => absurd hq List.not_mem_nil

theorem Change.ticket?_eq (c : b.Change a b' rs) (same : b'.generation = b.generation) :
    b'.ticket? = b.ticket? := by
  cases c with
  | selected r => exact absurd same (Nat.succ_ne_self _)
  | _ => rfl

/-- **Only a result about it ends the waiting for what is asked for first**, as long as the
selection is the same. -/
theorem Change.lacks_eq (c : b.Change a b' rs) (same : b'.generation = b.generation)
    (hq : q ∈ t.first) : b'.lacks q = b.lacks q ∨
      a.subject? = q.subject? ∧ a.generation? = some b.generation := by
  rcases List.mem_pair.mp hq with rfl | rfl
  · cases c with
    | selected r => exact absurd same (Nat.succ_ne_self _)
    | readmeShown | readmeMissed => exact .inr ⟨rfl, rfl⟩
    | @readmeInput i => exact .inl (b.readme.loading_input i)
    | _ => exact .inl rfl
  · cases c with
    | selected r => exact absurd same (Nat.succ_ne_self _)
    | resolved => exact .inr ⟨rfl, rfl⟩
    | _ => exact .inl rfl

end Browser

namespace Exchange

variable {forge : Forge Set} {layout : Layout} {s s' : Exchange} {a : Action} {b : Browser}
  {rs : List Request} {t : Ticket} {q : Request}

/-- What is in flight was in flight before or is asked for. -/
theorem Move.inFlight_le (m : Move forge s s' a b rs) : s'.inFlight ≤ s.inFlight + rs := by
  rcases m.source with ⟨-, hflight, -⟩ | ⟨r, rest, -, flying, -, hflight, -⟩
  · exact le_of_eq hflight
  · rw [hflight, flying]
    exact Multiset.add_le_add_right (Multiset.le_cons_self rest _)

/-! ### What is asked for first -/

/-- A result for the current selection stems from a request of this selection. -/
theorem Reachable.exists_ticket (h : Reachable forge layout s) {r : Reply}
    (flying : r.request ∈ s.inFlight)
    (result : r.action.generation? = some s.browser.generation) :
    ∃ t, r.request.ticket? = some t ∧ s.browser.ticket? = some t := by
  obtain ⟨p, o⟩ := r
  rw [Reply.action, Request.answer_generation?, Option.map_eq_some_iff] at result
  obtain ⟨t, ht, hg⟩ := result
  exact ⟨t, ht, ((h.dated p flying).owns ht hg).ticket_eq ht⟩

/-- If it is about what is asked for first, it stems from the request for that. -/
theorem Reachable.request_eq (h : Reachable forge layout s) (ticket : s.browser.ticket? = some t)
    (hq : q ∈ t.first) {r : Reply} (flying : r.request ∈ s.inFlight)
    (about : r.action.subject? = q.subject?)
    (result : r.action.generation? = some s.browser.generation) : r.request = q := by
  obtain ⟨t', ht', current⟩ := h.exists_ticket flying result
  obtain rfl : t' = t := Option.some.inj (current.symm.trans ticket)
  exact Request.eq_of_mem_first hq ((r.request.answer_subject? r.outcome).symm.trans about) ht'

/-- A request of a selection that there has not been yet is not in flight. -/
theorem Reachable.count_eq_zero (h : Reachable forge layout s) (ticket : q.ticket? = some t)
    (later : s.browser.generation < t.generation) : s.inFlight.count q = 0 := by
  refine Multiset.count_eq_zero.mpr fun hmem => ?_
  obtain ⟨t', ht', hle⟩ := (h.dated q hmem).exists_ticket
  obtain rfl : t' = t := Option.some.inj (ht'.symm.trans ticket)
  omega

/-- **What is asked for first is in flight once at most, and only as long as it is to come.** -/
theorem Reachable.asked_once (h : Reachable forge layout s) :
    ∀ t, s.browser.ticket? = some t → ∀ q ∈ t.first,
      s.inFlight.count q ≤ (s.browser.lacks q).toNat := by
  induction h with
  | start => exact fun _ => (nomatch ·)
  | @step s s' hs st ih =>
    obtain ⟨a, b, rs, m⟩ := st.exists_move
    obtain ⟨l, hb⟩ := m.browser
    intro t ht q hq
    rw [hb] at ht
    have ht : b.ticket? = some t := ht
    have hlacks : s'.browser.lacks q = b.lacks q := by
      rw [hb]
      rcases List.mem_pair.mp hq with rfl | rfl <;> rfl
    rw [hlacks]
    obtain ⟨hticket, hneeds⟩ := Request.ticket?_of_mem_first hq
    have hle : s'.inFlight.count q ≤ s.inFlight.count q + rs.count q := by
      have hle := Multiset.count_le_of_le q m.inFlight_le
      rwa [Multiset.count_add, Multiset.coe_count] at hle
    rcases m.change.generation_eq with same | ⟨r, -, rfl, rfl⟩
    · have ticket : s.browser.ticket? = some t := (m.change.ticket?_eq same).symm.trans ht
      have hold := ih t ticket q hq
      have hnew : rs.count q = 0 := by
        refine List.count_eq_zero.mpr fun hmem => ?_
        exact nomatch hneeds.symm.trans (m.change.needsReference same q hmem)
      rcases m.change.lacks_eq same hq with heq | ⟨about, result⟩
      · rw [heq]
        omega
      · -- the answer has come, and it was the only one in flight
        rcases m.source with ⟨hnone, -, -⟩ | ⟨r, rest, rfl, flying, -, hflight, -⟩
        · exact nomatch hnone.symm.trans result
        · have hr : r.request = q :=
            hs.request_eq ticket hq (mem_of_flying flying) about result
          rw [flying, hr, Multiset.count_cons_self] at hold
          rw [hflight, Multiset.count_add, Multiset.coe_count, hnew]
          have := Bool.toNat_le (s.browser.lacks q)
          omega
    · have hold : s.inFlight.count q = 0 := by
        refine hs.count_eq_zero hticket ?_
        rw [(Browser.ticket?_eq_some_iff.mp ht).2]
        exact Nat.lt_succ_self _
      have hnew : (s.browser.select r).2.count q ≤ 1 :=
        List.nodup_iff_count_le_one.mp (by simp [Browser.select]) q
      have hlack : (s.browser.select r).1.lacks q = true := by
        rcases List.mem_pair.mp hq with rfl | rfl <;> rfl
      rw [hlack, Bool.toNat_true]
      omega

theorem Reachable.lacks_of_flying (h : Reachable forge layout s)
    (ticket : s.browser.ticket? = some t) (hq : q ∈ t.first) (flying : q ∈ s.inFlight) :
    s.browser.lacks q = true := by
  have hcount := h.asked_once t ticket q hq
  have hpos := Multiset.count_pos.mpr flying
  rw [← Bool.not_eq_false]
  intro hlacks
  rw [hlacks, Bool.toNat_false] at hcount
  omega

/-! ### What needs the reference -/

/-- The reference that a request in flight asks for is not known. -/
theorem Reachable.reference_eq_none (h : Reachable forge layout s)
    (ticket : s.browser.ticket? = some t) (flying : .resolveReference t ∈ s.inFlight) :
    s.browser.reference = none := by
  have hlacks : s.browser.lacks (.resolveReference t) = true :=
    h.lacks_of_flying ticket (List.mem_pair.mpr (.inr rfl)) flying
  exact Option.isNone_iff_eq_none.mp hlacks

/-- Once a reference is asked for, nothing that needs it is in flight; this for the current
selection. -/
theorem Reachable.not_needsReference (h : Reachable forge layout s)
    (ticket : s.browser.ticket? = some t) (flying : .resolveReference t ∈ s.inFlight)
    (hq : q ∈ s.inFlight) (hqt : q.ticket? = some t) : q.needsReference = false := by
  have owns : s.browser.Owns q := (h.dated q hq).owns hqt (Browser.ticket?_eq_some_iff.mp ticket).2
  rw [← Bool.not_eq_true]
  intro needs
  have known := owns.known needs
  rw [h.reference_eq_none ticket flying] at known
  exact nomatch known

/-- **Nothing that needs a reference is in flight together with the request for it**, be it for the
current selection or for an earlier one. -/
theorem Reachable.reference_alone (h : Reachable forge layout s) :
    ∀ t, .resolveReference t ∈ s.inFlight → ∀ q ∈ s.inFlight, q.ticket? = some t →
      q.needsReference = false := by
  induction h with
  | start => exact fun t flying => absurd flying (Multiset.notMem_zero _)
  | @step s s' hs st ih =>
    obtain ⟨a, b, rs, m⟩ := st.exists_move
    obtain ⟨l, hb⟩ := m.browser
    intro t flying q hq hqt
    -- what is asked for now is asked for by the selection that there is now
    have current : ∀ p ∈ rs, p.ticket? = some t → s'.browser.ticket? = some t := by
      intro p hp hpt
      rw [hb]
      exact (m.change.owns hs.agrees p hp).ticket_eq hpt
    rcases m.mem_inFlight flying with hold | hnew
    · rcases m.mem_inFlight hq with hqold | hqnew
      · exact ih t hold q hqold hqt
      · exact (hs.step st).not_needsReference (current q hqnew hqt) flying hq hqt
    · exact (hs.step st).not_needsReference (current _ hnew rfl) flying hq hqt

/-! ### Results in any order -/

/-- **The order in which results about different things arrive does not matter**, unless one of them
is the reference and the other is about commits or files: whatever the actions before, whichever
selections the results are for, both orders lead to the same browser, the status line included, and
to the same requests.  A reference is never in flight together with a request that needs it. -/
theorem results_in_any_order (layout : Layout) :
    (∀ (actions : List Action) (b : Browser), (Browser.ofLayout layout).run actions = .ok b →
      ∀ x y : Action, x.Independent y → ∀ c rs, b.updateThen x y = .ok (c, rs) →
        ∃ qs, b.updateThen y x = .ok (c, qs) ∧ rs.Perm qs) ∧
    (∀ (forge : Forge Set) (s : Exchange), Reachable forge layout s →
      ∀ t, .resolveReference t ∈ s.inFlight → ∀ q ∈ s.inFlight, q.ticket? = some t →
        q.needsReference = false) := by
  constructor
  · intro actions b h x y independent c rs ok
    exact Browser.updateThen_swap (Browser.run_agrees h) independent ok
  · intro forge s h
    exact h.reference_alone

/-- The readme and the reference, on which commits and files are asked for. -/
theorem results_in_any_order_sample :
    ∃ b c rs qs, (Browser.ofLayout {}).run
        [.selectRepository Source.sample.ticket.repository] = .ok b ∧
      b.updateThen (.readmeLoaded 1 ⟨"# demo", "README.md"⟩)
        (.referenceResolved 1 Source.sample.reference) = .ok (c, rs) ∧ rs ≠ [] ∧
      b.updateThen (.referenceResolved 1 Source.sample.reference)
        (.readmeLoaded 1 ⟨"# demo", "README.md"⟩) = .ok (c, qs) ∧ rs.Perm qs := by
  obtain ⟨qs, swapped, perm⟩ := (results_in_any_order {}).1
    [.selectRepository Source.sample.ticket.repository] _ rfl
    (.readmeLoaded 1 ⟨"# demo", "README.md"⟩) (.referenceResolved 1 Source.sample.reference)
    ⟨.readme, .reference, rfl, rfl, by decide, by decide, by decide⟩ _ _ rfl
  exact ⟨_, _, _, qs, rfl, rfl, List.cons_ne_nil _ _, swapped, perm⟩

end Exchange

end RepoBrowser
