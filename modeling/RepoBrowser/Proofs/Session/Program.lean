import RepoBrowser.Proofs.Exchange.Waiting
import RepoBrowser.Proofs.Session.Sizing
import RepoBrowser.Session.Work

/-!
# A session in a program

A program hands events to a session and has the requests that wait performed, one after another;
the session learns of each result before the next request is performed.  To the browser inside this
is one of the ways in which an `Exchange` can go on, the one in which requests are answered in the
order in which they are made.  So what is proved of exchanges holds in every program.

* `Session.performed` — what performing requests can lead to, at a forge that may give one answer
  or another;
* `Session.Runs` — the sessions that a program can come to;
* `Mirrored` — a browser has come about in an exchange, with these requests of its own in flight;
* `Mirrored.command`, `Mirrored.answer` — one action of either kind;
* `Mirrored.perform`, `Runs.mirrored` — any number of requests, and a whole program;
* `Runs.agrees`, `Runs.atRest` — what this says of sessions: once nothing is left to be performed,
  nothing that is shown is loading.
-/

namespace RepoBrowser.Session

open Browser (AtRest Agrees)

variable {forge : Forge Set} {name : String} {layout : Layout} {s s' : Session} {e : Event}
  {r : Request} {rs ws : List Request} {b b' : Browser} {a : Action} {actions : List Action}

/-- What performing requests can lead to. -/
def performed (forge : Forge Set) (rs : List Request) (s : Session) :
    Set (Except Fault (List Action × Session)) :=
  @perform Set Set.monad.toMonad forge rs s

/-- The sessions that a program can come to: events happen to a new session, and what waits is
performed. -/
inductive Runs (forge : Forge Set) (name : String) (layout : Layout) : Session → Prop
  | new : Runs forge name layout (.new name layout)
  | event {s s' : Session} {e : Event} (before : Runs forge name layout s)
      (happened : s.handle e = .ok s') : Runs forge name layout s'
  | worked {s s' : Session} {actions : List Action} (before : Runs forge name layout s)
      (done : .ok (actions, s') ∈ performed forge s.waiting { s with waiting := [] }) :
      Runs forge name layout s'

theorem performed_nil (s : Session) : performed forge [] s = {.ok ([], s)} := rfl

/-- The first request is given one of the answers that the forge may give, and the others are
performed by the session that has learned of it. -/
theorem exists_of_mem_performed_cons (h : .ok (actions, s') ∈ performed forge (r :: rs) s) :
    ∃ o ∈ forge.ask r.query, ∃ t, s.update (r.answer o) = .ok t ∧
      ∃ more, .ok (more, s') ∈ performed forge rs t := by
  obtain ⟨a, given, h⟩ := Set.mem_iUnion₂.mp h
  rw [Request.perform_set] at given
  obtain ⟨o, given, rfl⟩ := given
  refine ⟨o, given, ?_⟩
  beta_reduce at h
  cases met : s.update (r.answer o) with
  | error f =>
    rw [met] at h
    exact nomatch Set.mem_singleton_iff.mp h
  | ok t =>
    rw [met] at h
    obtain ⟨out, hout, h⟩ := Set.mem_iUnion₂.mp h
    have h := Set.mem_singleton_iff.mp h
    cases out with
    | error f => exact nomatch h
    | ok out =>
      obtain ⟨-, rfl⟩ := Prod.mk.inj (Except.ok.inj h)
      exact ⟨t, rfl, out.1, hout⟩

/-! ### The exchange behind a session -/

/-- The requests of a browser.  Those that look a repository up are made by the session itself. -/
def bound (rs : List Request) : List Request := rs.filter (·.ticket?.isSome)

/-- The browser has come about in an exchange with those of the requests in flight that are its
own. -/
def Mirrored (forge : Forge Set) (layout : Layout) (b : Browser) (rs : List Request) : Prop :=
  ∃ replies, Exchange.Reachable forge layout ⟨b, ↑(bound rs), replies⟩

theorem Mirrored.agrees (m : Mirrored forge layout b ws) : b.Agrees := by
  obtain ⟨replies, h⟩ := m
  exact h.agrees

theorem bound_append (rs ws : List Request) : bound (rs ++ ws) = bound rs ++ bound ws :=
  List.filter_append _ _

/-- All that a browser asks for is its own. -/
theorem bound_of_update (hb : b.Agrees) (hu : b.update a = .ok (b', rs)) : bound rs = rs := by
  obtain ⟨c, l, change, rfl⟩ := Browser.change_of_update hu
  refine List.filter_eq_self.mpr fun q hq => ?_
  obtain ⟨t, -, ticket⟩ := (change.owns hb q hq).ticket
  rw [ticket]
  rfl

theorem bound_cons_of_ticket {t : Ticket} (ticket : r.ticket? = some t) (rs : List Request) :
    bound (r :: rs) = r :: bound rs := List.filter_cons_of_pos (by rw [ticket]; rfl)

theorem bound_cons_of_none (free : r.ticket? = none) (rs : List Request) :
    bound (r :: rs) = bound rs := List.filter_cons_of_neg (by rw [free]; exact Bool.false_ne_true)

/-- A repository that was looked up is a command to the browser, and so is the reason why there is
none. -/
theorem generation?_of_free (free : r.ticket? = none) (o : r.query.Outcome) :
    (r.answer o).generation? = none := by
  cases r with
  | resolveRepository name => cases o <;> rfl
  | _ => exact nomatch free

/-- **A command is a step of the exchange.** -/
theorem Mirrored.command (m : Mirrored forge layout b ws) (command : a.generation? = none)
    (hu : b.update a = .ok (b', rs)) : Mirrored forge layout b' (ws ++ rs) := by
  have own := bound_of_update m.agrees hu
  obtain ⟨replies, h⟩ := m
  refine ⟨replies, ?_⟩
  rw [bound_append, own]
  exact h.command a command hu

/-- **So is an answer to the request that has waited longest.** -/
theorem Mirrored.answer (m : Mirrored forge layout b (r :: ws)) (o : r.query.Outcome)
    (given : o ∈ forge.ask r.query) (hu : b.update (r.answer o) = .ok (b', rs)) :
    Mirrored forge layout b' (ws ++ rs) := by
  cases ticket : r.ticket? with
  | none =>
    have rest : Mirrored forge layout b ws := by
      unfold Mirrored at m ⊢
      rw [bound_cons_of_none ticket] at m
      exact m
    exact rest.command (generation?_of_free ticket o) hu
  | some t =>
    have own := bound_of_update m.agrees hu
    obtain ⟨replies, h⟩ := m
    rw [bound_cons_of_ticket ticket] at h
    refine ⟨⟨r, o⟩ :: replies, ?_⟩
    rw [bound_append, own]
    exact h.answer o given hu

/-- **Performing requests is a run of the exchange**: those left to be performed are in flight, and
behind them those that wait for the next time. -/
theorem Mirrored.perform (m : Mirrored forge layout s.browser (rs ++ s.waiting))
    (done : .ok (actions, s') ∈ performed forge rs s) :
    Mirrored forge layout s'.browser s'.waiting := by
  induction rs generalizing s actions with
  | nil =>
    rw [performed_nil] at done
    obtain ⟨-, rfl⟩ := Prod.mk.inj (Except.ok.inj (Set.mem_singleton_iff.mp done))
    exact m
  | cons r rs ih =>
    obtain ⟨o, given, t, met, more, rest⟩ := exists_of_mem_performed_cons done
    obtain ⟨new, hu, waits⟩ := exists_requests_of_update met
    refine ih ?_ rest
    rw [waits, ← List.append_assoc]
    exact Mirrored.answer m o given hu

/-! ### Events -/

/-- To look a repository up is no request of the browser. -/
theorem bound_lookUp (s : Session) : bound s.lookUp.waiting = bound s.waiting := by
  show bound (s.waiting ++ [.resolveRepository s.name]) = _
  rw [bound_append]
  exact List.append_nil _

/-- A command that the session passes on is one to the browser. -/
theorem exists_command_of_update (command : a.generation? = none) (h : s.update a = .ok s') :
    ∃ a rs, a.generation? = none ∧ s.browser.update a = .ok (s'.browser, rs) ∧
      s'.waiting = s.waiting ++ rs := by
  obtain ⟨rs, hu, waits⟩ := exists_requests_of_update h
  exact ⟨a, rs, command, hu, waits⟩

/-- What the session does by itself leaves the browser and its requests; all else is a command to
the browser. -/
theorem handle_cases (h : s.handle e = .ok s') :
    (s'.browser = s.browser ∧ bound s'.waiting = bound s.waiting) ∨
    ∃ a rs, a.generation? = none ∧ s.browser.update a = .ok (s'.browser, rs) ∧
      s'.waiting = s.waiting ++ rs := by
  cases e with
  | start =>
    obtain rfl := Except.ok.inj h
    exact .inl ⟨rfl, bound_lookUp s⟩
  | tick =>
    obtain rfl := Except.ok.inj h
    exact .inl ⟨rfl, rfl⟩
  | mouse m => exact .inr (exists_command_of_update (a := .mouse m) rfl h)
  | resized width height =>
    exact .inr (exists_command_of_update (a := .resized width (height - helpHeight)) rfl h)
  | key k =>
    have h : s.handleKey k = .ok s' := h
    unfold handleKey at h
    dsimp only at h
    -- a key that the session has no use for is the last case, to look the repository up the one
    -- before it
    split at h
    case h_5 =>
      exact .inr (exists_command_of_update (s := { s with notice := none }) (a := .key k) rfl h)
    case h_4 =>
      obtain rfl := Except.ok.inj h
      exact .inl ⟨rfl, bound_lookUp { s with notice := none }⟩
    all_goals
      obtain rfl := Except.ok.inj h
      exact .inl ⟨rfl, rfl⟩

/-! ### Programs -/

/-- **In every program the browser is that of an exchange**, and what waits to be performed is what
is in flight. -/
theorem Runs.mirrored (h : Runs forge name layout s) :
    Mirrored forge layout s.browser s.waiting := by
  induction h with
  | new => exact ⟨[], .start⟩
  | event before happened ih =>
    rcases handle_cases happened with ⟨same, still⟩ | ⟨a, rs, command, hu, waits⟩
    · obtain ⟨replies, reachable⟩ := ih
      refine ⟨replies, ?_⟩
      rw [same, still]
      exact reachable
    · rw [waits]
      exact ih.command command hu
  | @worked s s' actions before done ih =>
    refine Mirrored.perform (s := { s with waiting := [] }) ?_ done
    rw [List.append_nil]
    exact ih

/-- The parts of the browser agree. -/
theorem Runs.agrees (h : Runs forge name layout s) : s.browser.Agrees := h.mirrored.agrees

/-- **Once nothing is left to be performed, nothing that is shown is loading**, as long as the forge
names commits as asked and keeps directories apart from files. -/
theorem Runs.atRest (h : Runs forge name layout s) (names : forge.NamesCommits)
    (kinds : forge.SeparatesKinds) (finished : s.waiting = []) : s.browser.AtRest := by
  obtain ⟨replies, reachable⟩ := h.mirrored
  refine reachable.atRest_of_quiet names kinds fun q hq => ?_
  rw [finished] at hq
  exact absurd hq (Multiset.notMem_zero q)

end RepoBrowser.Session
