import Mathlib.Data.Multiset.Filter
import Mathlib.Data.Set.Functor
import RepoBrowser.Proofs.Browser.Agreement

/-!
# A browser and the requests in flight

A browser is driven from two sides.  A user gives commands at any time.  A request that is in flight
is answered at any time, in any order, with any outcome that the forge can give; what it gives may
differ from one time to the next, so a forge is a `Forge Set` here.  Whatever the browser asks for
joins the requests in flight.

* `Exchange` — a browser, the requests in flight, and the replies that have arrived;
* `Exchange.Step`, `Exchange.Reachable` — what can happen, and what it leads to;
* `Step.exists_move` — each step is one change of the browser;
* `Reachable.agrees`, `Reachable.dated` — the parts of the browser agree, and each request in flight
  belongs to the current selection or to an earlier one.

The replies have no influence on what happens.  They are kept to tell where things come from.
-/

namespace RepoBrowser

/-- A request together with what came of it. -/
structure Reply where
  request : Request
  outcome : request.query.Outcome

/-- The action that a reply becomes. -/
def Reply.action (r : Reply) : Action := r.request.answer r.outcome

/-- What can come of performing a request is what can come of its replies. -/
theorem Request.perform_set (forge : Forge Set) (r : Request) :
    @Request.perform Set Set.monad.toMonad forge r = r.answer '' forge.ask r.query := by
  ext a
  constructor
  · intro ha
    obtain ⟨o, ho, ha⟩ := Set.mem_iUnion₂.mp ha
    exact ⟨o, ho, ha.symm⟩
  · rintro ⟨o, ho, rfl⟩
    exact Set.mem_iUnion₂.mpr ⟨o, ho, rfl⟩

/-- A browser with the requests in flight and the replies that have arrived, the latest first. -/
structure Exchange where
  browser : Browser
  inFlight : Multiset Request
  replies : List Reply

namespace Exchange

/-- Before anything is done. -/
def start (layout : Layout) : Exchange := ⟨.ofLayout layout, 0, []⟩

/-- The request was answered so. -/
def Answered (s : Exchange) (r : Request) (answer : r.query.Answer) : Prop :=
  (⟨r, .ok answer⟩ : Reply) ∈ s.replies

/-- What can happen: a user gives a command, or a request that is in flight is answered. -/
inductive Step (forge : Forge Set) : Exchange → Exchange → Prop
  | command {s : Exchange} {a : Action} {b : Browser} {rs : List Request}
      (command : a.generation? = none) (update : s.browser.update a = .ok (b, rs)) :
      Step forge s ⟨b, s.inFlight + rs, s.replies⟩
  | reply {s : Exchange} {r : Reply} {rest : Multiset Request} {b : Browser} {rs : List Request}
      (flying : s.inFlight = r.request ::ₘ rest) (given : r.outcome ∈ forge.ask r.request.query)
      (update : s.browser.update r.action = .ok (b, rs)) :
      Step forge s ⟨b, rest + rs, r :: s.replies⟩

/-- What commands and replies can lead to. -/
inductive Reachable (forge : Forge Set) (layout : Layout) : Exchange → Prop
  | start : Reachable forge layout (.start layout)
  | step {s s' : Exchange} : Reachable forge layout s → Step forge s s' → Reachable forge layout s'

variable {forge : Forge Set} {layout : Layout} {s s' : Exchange}

/-- How an exchange can have come about from another, apart from the status line: an action that
changes the browser, and the reply that it stems from if it is a result. -/
structure Move (forge : Forge Set) (s s' : Exchange) (a : Action) (b : Browser)
    (rs : List Request) : Prop where
  act : (s.browser.act a).browser = b
  requests : (s.browser.act a).requests = rs
  change : s.browser.Change a b rs
  browser : ∃ l, s'.browser = { b with statusLine := l }
  source : (a.generation? = none ∧ s'.inFlight = s.inFlight + rs ∧ s'.replies = s.replies) ∨
    ∃ r rest, a = r.action ∧ s.inFlight = r.request ::ₘ rest ∧
      r.outcome ∈ forge.ask r.request.query ∧ s'.inFlight = rest + rs ∧
      s'.replies = r :: s.replies

theorem Step.exists_move (st : Step forge s s') : ∃ a b rs, Move forge s s' a b rs := by
  cases st with
  | @command a b rs command update =>
    obtain ⟨rfl, l, hb⟩ := Browser.act_of_update update
    exact ⟨a, _, _, rfl, rfl, s.browser.act_change a, ⟨l, hb⟩, .inl ⟨command, rfl, rfl⟩⟩
  | @reply r rest b rs flying given update =>
    obtain ⟨rfl, l, hb⟩ := Browser.act_of_update update
    exact ⟨r.action, _, _, rfl, rfl, s.browser.act_change r.action, ⟨l, hb⟩,
      .inr ⟨r, rest, rfl, flying, given, rfl, rfl⟩⟩

theorem Reachable.agrees (h : Reachable forge layout s) : s.browser.Agrees := by
  induction h with
  | start => exact Browser.agrees_ofLayout layout
  | step _ st ih =>
    obtain ⟨a, b, rs, m⟩ := st.exists_move
    obtain ⟨l, hb⟩ := m.browser
    rw [hb]
    exact (m.change.agrees ih).withStatus l

/-! ### Replies -/

variable {a : Action} {b : Browser} {rs : List Request}

theorem mem_of_flying {q : Request} {rest : Multiset Request} (flying : s.inFlight = q ::ₘ rest) :
    q ∈ s.inFlight := by
  rw [flying]
  exact Multiset.mem_cons_self _ _

theorem Move.mem_replies (m : Move forge s s' a b rs) {r : Reply} (h : r ∈ s.replies) :
    r ∈ s'.replies := by
  rcases m.source with ⟨-, -, hr⟩ | ⟨q, rest, -, -, -, -, hr⟩
  · rw [hr]
    exact h
  · rw [hr]
    exact List.mem_cons_of_mem q h

/-- A result stems from a reply to a request that was in flight. -/
theorem Move.exists_reply (m : Move forge s s' a b rs) {g : Nat} (h : a.generation? = some g) :
    ∃ r ∈ s'.replies, a = r.action ∧ r.request ∈ s.inFlight := by
  rcases m.source with ⟨hnone, -, -⟩ | ⟨r, rest, ha, hflight, -, -, hr⟩
  · exact absurd (hnone.symm.trans h) (by simp)
  · refine ⟨r, ?_, ha, mem_of_flying hflight⟩
    rw [hr]
    exact List.mem_cons_self

theorem Move.mem_inFlight (m : Move forge s s' a b rs) {q : Request} (h : q ∈ s'.inFlight) :
    q ∈ s.inFlight ∨ q ∈ rs := by
  rcases m.source with ⟨-, hf, -⟩ | ⟨r, rest, -, hflight, -, hf, -⟩
  · rw [hf] at h
    exact Multiset.mem_add.mp h
  · rw [hf] at h
    rcases Multiset.mem_add.mp h with h | h
    · left
      rw [hflight]
      exact Multiset.mem_cons_of_mem h
    · exact .inr h

/-- The forge has given every reply. -/
theorem Reachable.given (h : Reachable forge layout s) :
    ∀ r ∈ s.replies, r.outcome ∈ forge.ask r.request.query := by
  induction h with
  | start => exact fun r hr => absurd hr List.not_mem_nil
  | step _ st ih =>
    obtain ⟨a, b, rs, m⟩ := st.exists_move
    intro r hr
    rcases m.source with ⟨-, -, heq⟩ | ⟨q, rest, -, -, hgiven, -, heq⟩
    · rw [heq] at hr
      exact ih r hr
    · rw [heq] at hr
      rcases List.mem_cons.mp hr with rfl | hr
      · exact hgiven
      · exact ih r hr

/-! ### Requests in flight -/

/-- The request belongs to the current selection or to an earlier one. -/
def Dated (b : Browser) (q : Request) : Prop :=
  b.Owns q ∨ ∃ t, q.ticket? = some t ∧ t.generation < b.generation

/-- **A request never comes to belong to a later selection.** -/
theorem Dated.change {b b' : Browser} {q : Request} (h : Dated b q) (c : b.Change a b' rs)
    (hb : b.Agrees) : Dated b' q := by
  rcases h with ho | ⟨t, ht, hlt⟩
  · cases c with
    | selected r =>
      obtain ⟨t, ht, hq⟩ := ho.ticket
      refine .inr ⟨t, hq, ?_⟩
      rw [(Browser.ticket?_eq_some_iff.mp ht).2]
      exact Nat.lt_succ_self _
    | @resolved r n selected stage =>
      -- no request in flight can be about a reference that was not known
      refine .inl ⟨ho.ticket, fun k hk => ?_, fun _ => rfl⟩
      have ready : b.stage = .ready := hb.ready_iff.mpr (by rw [ho.reference k hk]; rfl)
      exact absurd (stage.symm.trans ready) (by decide)
    | _ => exact .inl ⟨ho.ticket, ho.reference, ho.known⟩
  · refine .inr ⟨t, ht, ?_⟩
    cases c with
    | selected r => exact Nat.lt_succ_of_lt hlt
    | _ => exact hlt

theorem Reachable.dated (h : Reachable forge layout s) :
    ∀ q ∈ s.inFlight, Dated s.browser q := by
  induction h with
  | start => exact fun q hq => absurd hq (Multiset.notMem_zero q)
  | @step s s' hs st ih =>
    obtain ⟨a, b, rs, m⟩ := st.exists_move
    obtain ⟨l, hb⟩ := m.browser
    intro q hq
    rw [hb]
    have hdated : Dated b q := by
      rcases m.mem_inFlight hq with hq | hq
      · exact (ih q hq).change m.change hs.agrees
      · exact .inl (m.change.owns hs.agrees q hq)
    rcases hdated with ho | hlt
    · exact .inl ⟨ho.ticket, ho.reference, ho.known⟩
    · exact .inr hlt

theorem Dated.exists_ticket {b : Browser} {q : Request} (h : Dated b q) :
    ∃ t, q.ticket? = some t ∧ t.generation ≤ b.generation := by
  rcases h with ho | ⟨t, ht, hlt⟩
  · obtain ⟨t, ht, hqt⟩ := ho.ticket
    exact ⟨t, hqt, Nat.le_of_eq (Browser.ticket?_eq_some_iff.mp ht).2⟩
  · exact ⟨t, ht, Nat.le_of_lt hlt⟩

/-- A request in flight that bears the current number belongs to the current selection. -/
theorem Dated.owns {b : Browser} {q : Request} (h : Dated b q) {t : Ticket}
    (ht : q.ticket? = some t) (hg : t.generation = b.generation) : b.Owns q := by
  rcases h with ho | ⟨t', ht', hlt⟩
  · exact ho
  · obtain rfl : t' = t := Option.some.inj (ht'.symm.trans ht)
    omega

/-! ### Runs that answer the requests in order -/

section InOrder

variable {b' : Browser} {q : Request} {qs : List Request} {replies : List Reply}

theorem Reachable.command (h : Reachable forge layout ⟨b, ↑qs, replies⟩) (a : Action)
    (command : a.generation? = none) (update : b.update a = .ok (b', rs)) :
    Reachable forge layout ⟨b', ↑(qs ++ rs), replies⟩ := by
  rw [← Multiset.coe_add]
  exact h.step (.command command update)

/-- The request that has waited longest is answered. -/
theorem Reachable.answer (h : Reachable forge layout ⟨b, ↑(q :: qs), replies⟩)
    (o : q.query.Outcome) (given : o ∈ forge.ask q.query)
    (update : b.update (q.answer o) = .ok (b', rs)) :
    Reachable forge layout ⟨b', ↑(qs ++ rs), ⟨q, o⟩ :: replies⟩ := by
  rw [← Multiset.coe_add]
  exact h.step (.reply (r := ⟨q, o⟩) rfl given update)

/-- A request is answered before those that have waited longer. -/
theorem Reachable.answerEarly (before : List Request)
    (h : Reachable forge layout ⟨b, ↑(before ++ q :: qs), replies⟩) (o : q.query.Outcome)
    (given : o ∈ forge.ask q.query) (update : b.update (q.answer o) = .ok (b', rs)) :
    Reachable forge layout ⟨b', ↑(before ++ qs ++ rs), ⟨q, o⟩ :: replies⟩ := by
  have flying : (↑(before ++ q :: qs) : Multiset Request) = q ::ₘ ↑(before ++ qs) :=
    Multiset.coe_eq_coe.mpr List.perm_middle
  rw [← Multiset.coe_add]
  exact h.step (.reply (r := ⟨q, o⟩) flying given update)

end InOrder

end Exchange

end RepoBrowser
