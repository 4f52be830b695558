import RepoBrowser.Proofs.History.Response
import RepoBrowser.Proofs.History.Run

/-!
# Pages arrive in order

What is asked for and what arrives is written down as a list of events, the latest first, since the
history was last begun or reset.  The list does not look into the history: which requests are
outstanding and which pages were accepted is read off the events alone.

* `PageEvent`, `events` — what happens to pages during a run;
* `outstanding`, `accepted` — the requests without a result, and the pages that came of requests;
* `Orderly` — a page is asked for when nothing is outstanding, and it is the next one;
* `Paged`, `run_paged` — what the history holds is what the events say;
* `failed_between` — in an orderly list a page is asked for again only after a failure;
* `pages_in_order` — all of it, for every run.
-/

namespace RepoBrowser.History

/-- What happens to pages: one is asked for, arrives, or is said not to. -/
inductive PageEvent where
  | asked (number : Nat)
  | loaded (number : Nat) (page : Page Commit)
  | failed (number : Nat)

/-- The pages asked for of which nothing has been heard. -/
def outstanding : List PageEvent → List Nat
  | [] => []
  | .asked n :: t => n :: outstanding t
  | .loaded n _ :: t => (outstanding t).erase n
  | .failed n :: t => (outstanding t).erase n

/-- The pages that arrived while they were outstanding, the earliest first. -/
def accepted : List PageEvent → List (Nat × Page Commit)
  | [] => []
  | .asked _ :: t => accepted t
  | .loaded n page :: t => if n ∈ outstanding t then accepted t ++ [(n, page)] else accepted t
  | .failed _ :: t => accepted t

/-- The pages that requests ask for. -/
def askedBy (rs : List Request) : List PageEvent :=
  rs.filterMap fun
    | .fetchCommits _ _ n => some (.asked n)
    | _ => none

/-- What an operation brings about pages. -/
def Operation.brings : Operation → List PageEvent
  | .receive (.pageLoaded n page) => [.loaded n page]
  | .receive (.pageFailed n _) => [.failed n]
  | _ => []

/-- Whether an operation forgets what was before it. -/
def Operation.forgets : Operation → Bool
  | .reset | .start _ => true
  | .receive _ | .input _ | .resize .. => false

/-- A history and its events after one more operation. -/
def record (s : History × List PageEvent) (op : Operation) : History × List PageEvent :=
  let out := s.1.operate op
  (out.1, (askedBy out.2).reverse ++ op.brings ++ if op.forgets then [] else s.2)

/-- A history and its events after a sequence of operations. -/
def recordAll (s : History × List PageEvent) (ops : List Operation) : History × List PageEvent :=
  ops.foldl record s

/-- The events of a run since the history was last begun or reset, the latest first. -/
def events (ops : List Operation) : List PageEvent := (recordAll ({}, []) ops).2

theorem recordAll_fst (ops : List Operation) :
    ∀ s, (recordAll s ops).1 = runFrom s.1 ops := by
  induction ops with
  | nil => exact fun _ => rfl
  | cons op ops ih => exact fun s => ih (record s op)

/-! ### Orderly lists of events -/

/-- A page is asked for when nothing is outstanding, and it is the one after those accepted. -/
def Orderly : List PageEvent → Prop
  | [] => True
  | .asked n :: t => outstanding t = [] ∧ n = (accepted t).length + 1 ∧ Orderly t
  | .loaded _ _ :: t => Orderly t
  | .failed _ :: t => Orderly t

theorem Orderly.of_append {newer older : List PageEvent} (h : Orderly (newer ++ older)) :
    Orderly older := by
  induction newer with
  | nil => exact h
  | cons e newer ih =>
    cases e with
    | asked n => exact ih h.2.2
    | loaded n page => exact ih h
    | failed n => exact ih h

/-- At most one request is outstanding. -/
theorem Orderly.outstanding_length_le {t : List PageEvent} (h : Orderly t) :
    (outstanding t).length ≤ 1 := by
  induction t with
  | nil => exact Nat.zero_le 1
  | cons e t ih =>
    cases e with
    | asked n =>
      show (outstanding t).length + 1 ≤ 1
      rw [h.1]
      exact Nat.le_refl 1
    | loaded n page => exact Nat.le_trans (List.length_erase_le) (ih h)
    | failed n => exact Nat.le_trans (List.length_erase_le) (ih h)

/-- **The pages accepted are numbered from one on**, and what is outstanding is the next one. -/
theorem Orderly.numbers {t : List PageEvent} (h : Orderly t) :
    (accepted t).map Prod.fst = List.range' 1 (accepted t).length ∧
      ∀ n ∈ outstanding t, n = (accepted t).length + 1 := by
  induction t with
  | nil => exact ⟨rfl, fun n hn => absurd hn List.not_mem_nil⟩
  | cons e t ih =>
    cases e with
    | asked n =>
      obtain ⟨hnone, hn, hrest⟩ := h
      refine ⟨(ih hrest).1, fun k hk => ?_⟩
      have hk : k ∈ n :: outstanding t := hk
      rw [hnone, List.mem_singleton] at hk
      exact hk.trans hn
    | loaded n page =>
      obtain ⟨hnumbers, hnext⟩ := ih h
      by_cases hn : n ∈ outstanding t
      · have hacc : accepted (.loaded n page :: t) = accepted t ++ [(n, page)] := if_pos hn
        rw [hacc]
        refine ⟨?_, fun k hk => ?_⟩
        · rw [List.map_append, hnumbers, List.length_append, List.length_singleton,
            List.range'_1_concat, Nat.add_comm 1, ← hnext n hn]
          rfl
        · -- nothing is left to be outstanding
          have hlength := Orderly.outstanding_length_le (t := t) h
          have hzero : (outstanding t).erase n = [] := by
            rw [← List.length_eq_zero_iff, List.length_erase_of_mem hn]
            omega
          have hk : k ∈ (outstanding t).erase n := hk
          rw [hzero] at hk
          exact absurd hk List.not_mem_nil
      · have hacc : accepted (.loaded n page :: t) = accepted t := if_neg hn
        rw [hacc]
        exact ⟨hnumbers, fun k hk => hnext k (List.mem_of_mem_erase hk)⟩
    | failed n =>
      obtain ⟨hnumbers, hnext⟩ := ih h
      exact ⟨hnumbers, fun k hk => hnext k (List.mem_of_mem_erase hk)⟩

/-- The last number among the pages accepted is that of a page accepted. -/
theorem Orderly.mem_accepted {t : List PageEvent} (h : Orderly t) :
    (accepted t).length = 0 ∨ ∃ page, ((accepted t).length, page) ∈ accepted t := by
  rcases Nat.eq_zero_or_pos (accepted t).length with hzero | hpos
  · exact .inl hzero
  · right
    have hmem : (accepted t).length ∈ (accepted t).map Prod.fst := by
      rw [h.numbers.1, List.mem_range'_1]
      omega
    obtain ⟨⟨n, page⟩, hp, hn⟩ := List.mem_map.mp hmem
    obtain rfl : n = (accepted t).length := hn
    exact ⟨page, hp⟩

theorem accepted_length_le (newer older : List PageEvent) :
    (accepted older).length ≤ (accepted (newer ++ older)).length := by
  induction newer with
  | nil => exact Nat.le_refl _
  | cons e newer ih =>
    cases e with
    | asked n => exact ih
    | loaded n page =>
      show _ ≤ (if n ∈ outstanding (newer ++ older) then _ else _ : List _).length
      split
      · rw [List.length_append]
        exact Nat.le_trans ih (Nat.le_add_right _ _)
      · exact ih
    | failed n => exact ih

/-- As long as no further page is accepted, a request stays outstanding unless a failure ends it. -/
theorem outstanding_or_failed {n : Nat} {base : List PageEvent} (hbase : n ∈ outstanding base) :
    ∀ mid : List PageEvent, Orderly (mid ++ base) →
      (accepted (mid ++ base)).length = (accepted base).length →
      n ∈ outstanding (mid ++ base) ∨
        ∃ later earlier, mid = later ++ .failed n :: earlier ∧
          n ∈ outstanding (earlier ++ base) := by
  intro mid
  induction mid with
  | nil => exact fun _ _ => .inl hbase
  | cons e mid ih =>
    intro horder hlength
    -- a failure further back is one of the longer list as well
    have hcons : (∃ later earlier, mid = later ++ .failed n :: earlier ∧
          n ∈ outstanding (earlier ++ base)) →
        ∃ later earlier, e :: mid = later ++ .failed n :: earlier ∧
          n ∈ outstanding (earlier ++ base) := by
      rintro ⟨later, earlier, rfl, hmem⟩
      exact ⟨e :: later, earlier, rfl, hmem⟩
    cases e with
    | asked k =>
      rw [List.cons_append] at horder
      obtain ⟨hnone, -, hrest⟩ := horder
      rcases ih hrest hlength with hmem | hfailed
      · rw [hnone] at hmem
        exact absurd hmem List.not_mem_nil
      · exact .inr (hcons hfailed)
    | loaded k page =>
      have hle := accepted_length_le mid base
      by_cases hk : k ∈ outstanding (mid ++ base)
      · have hmore : (accepted (.loaded k page :: (mid ++ base))).length
            = (accepted (mid ++ base)).length + 1 := by
          simp [accepted, hk]
        rw [List.cons_append, hmore] at hlength
        omega
      · have hsame : accepted (.loaded k page :: (mid ++ base)) = accepted (mid ++ base) := by
          simp [accepted, hk]
        rw [List.cons_append, hsame] at hlength
        rcases ih horder hlength with hmem | hfailed
        · left
          show n ∈ (outstanding (mid ++ base)).erase k
          rw [List.erase_of_not_mem hk]
          exact hmem
        · exact .inr (hcons hfailed)
    | failed k =>
      rcases ih horder hlength with hmem | hfailed
      · by_cases hk : n = k
        · subst hk
          exact .inr ⟨[], mid, rfl, hmem⟩
        · left
          exact (List.mem_erase_of_ne hk).mpr hmem
      · exact .inr (hcons hfailed)

/-- **A page is asked for again only after a failure.**  The failure came while the page was
outstanding. -/
theorem failed_between {n : Nat} {mid older : List PageEvent}
    (h : Orderly (.asked n :: (mid ++ .asked n :: older))) :
    ∃ later earlier, mid = later ++ .failed n :: earlier ∧
      n ∈ outstanding (earlier ++ .asked n :: older) := by
  obtain ⟨hnone, hn, hrest⟩ := h
  obtain ⟨-, hn', -⟩ := hrest.of_append
  have hbase : n ∈ outstanding (.asked n :: older) := List.mem_cons_self
  have hlength : (accepted (mid ++ .asked n :: older)).length
      = (accepted (.asked n :: older)).length := by
    show _ = (accepted older).length
    omega
  rcases outstanding_or_failed hbase mid hrest hlength with hmem | hfailed
  · rw [hnone] at hmem
    exact absurd hmem List.not_mem_nil
  · exact hfailed

/-! ### What the history holds is what the events say -/

/-- What a history holds of pages is what its events say. -/
structure Paged (h : History) (t : List PageEvent) : Prop where
  loaded : h.loadedPages = (accepted t).length
  pending : outstanding t = h.pendingPage.toList
  commits : h.commits = (accepted t).flatMap (·.2.items)
  orderly : Orderly t

variable {h : History} {t : List PageEvent} {out : History × List Request}

/-- The page that is waited for is the one after those that were loaded. -/
theorem Paged.next (p : Paged h t) {n : Nat} (hn : h.pendingPage = some n) :
    n = h.loadedPages + 1 := by
  rw [p.loaded]
  refine p.orderly.numbers.2 n ?_
  rw [p.pending, hn]
  exact List.mem_singleton_self n

/-- Only what was loaded and what is waited for counts. -/
theorem Paged.of_eq (p : Paged h t) {k : History} (loaded : k.loadedPages = h.loadedPages)
    (pending : k.pendingPage = h.pendingPage) (commits : k.commits = h.commits) : Paged k t where
  loaded := loaded.trans p.loaded
  pending := by rw [p.pending, pending]
  commits := commits.trans p.commits
  orderly := p.orderly

/-- A history without pages that asks for nothing. -/
theorem paged_nil (hp : h.pendingPage = none) (hl : h.loadedPages = 0) (hc : h.commits = []) :
    Paged h [] where
  loaded := hl
  pending := by rw [hp]; rfl
  commits := hc
  orderly := trivial

/-- Asking for the next page when there is nothing outstanding. -/
theorem Paged.ask (p : Paged h t) (idle : h.pendingPage = none) :
    Paged { h with pendingPage := some (h.loadedPages + 1) }
      (.asked (h.loadedPages + 1) :: t) := by
  have hnone : outstanding t = [] := by
    rw [p.pending, idle]
    rfl
  refine ⟨p.loaded, ?_, p.commits, hnone, ?_, p.orderly⟩
  · show _ :: outstanding t = [_]
    rw [hnone]
  · rw [p.loaded]

theorem Turn.paged (turn : Turn h out) (p : Paged h t) :
    Paged out.1 ((askedBy out.2).reverse ++ t) := by
  cases turn with
  | rests => exact p
  | asks _ idle _ _ => exact p.ask idle

/-- The page that is waited for is accepted when it arrives, behind those before it. -/
theorem Paged.accepted_loaded (p : Paged h t) {n : Nat} (page : Page Commit)
    (pending : h.pendingPage = some n) :
    accepted (.loaded n page :: t) = accepted t ++ [(n, page)] := by
  show (if n ∈ outstanding t then _ else _) = _
  rw [p.pending, pending]
  exact if_pos (List.mem_singleton_self n)

/-- The page that was asked for is added behind those before it. -/
theorem Paged.addPage (p : Paged h t) {n : Nat} (page : Page Commit)
    (pending : h.pendingPage = some n) : Paged (h.addPage n page) (.loaded n page :: t) := by
  have hout : outstanding t = [n] := by
    rw [p.pending, pending]
    rfl
  have hacc := p.accepted_loaded page pending
  refine ⟨?_, ?_, ?_, p.orderly⟩
  · show n = _
    rw [hacc, List.length_append, List.length_singleton, ← p.loaded, p.next pending]
  · show (outstanding t).erase n = []
    rw [hout, List.erase_cons_head]
  · show h.commits ++ page.items = _
    rw [hacc, List.flatMap_append, p.commits, List.flatMap_singleton]

/-- A page that could not be loaded is no longer outstanding. -/
theorem Paged.miss (p : Paged h t) {n : Nat} (reason : String) (pending : h.pendingPage = some n) :
    Paged { h with pendingPage := none, error := some reason } (.failed n :: t) := by
  refine ⟨p.loaded, ?_, p.commits, p.orderly⟩
  show (outstanding t).erase n = []
  rw [p.pending, pending]
  exact List.erase_cons_head n []

theorem Paged.notMem_outstanding (p : Paged h t) {n : Nat} (hn : h.pendingPage ≠ some n) :
    n ∉ outstanding t := by
  intro hmem
  rw [p.pending, Option.mem_toList] at hmem
  exact hn hmem

/-- What arrives without being waited for is not accepted. -/
theorem Paged.accepted_foreign (p : Paged h t) {m : LogMessage} (foreign : ¬ h.Awaits m) :
    accepted (Operation.brings (.receive m) ++ t) = accepted t := by
  cases m with
  | pageLoaded n page => exact if_neg (p.notMem_outstanding foreign)
  | _ => rfl

/-- What arrives without being outstanding leaves all as it is. -/
theorem Paged.drop (p : Paged h t) {m : LogMessage} (foreign : ¬ h.Awaits m) :
    Paged h (Operation.brings (.receive m) ++ t) := by
  have hacc := p.accepted_foreign foreign
  refine ⟨?_, ?_, ?_, ?_⟩
  · rw [hacc]
    exact p.loaded
  · refine Eq.trans ?_ p.pending
    cases m with
    | pageLoaded n page => exact List.erase_of_not_mem (p.notMem_outstanding foreign)
    | pageFailed n reason => exact List.erase_of_not_mem (p.notMem_outstanding foreign)
    | _ => rfl
  · rw [hacc]
    exact p.commits
  · cases m <;> exact p.orderly

theorem Receipt.paged {m : LogMessage} (r : Receipt h m out) (p : Paged h t) :
    Paged out.1 ((askedBy out.2).reverse ++ (Operation.brings (.receive m) ++ t)) := by
  cases r with
  | dropped m foreign => exact p.drop foreign
  | pageAdded pending turn => exact turn.paged (p.addPage _ pending)
  | pageMissed pending => exact p.miss _ pending
  | detailShown => exact p.of_eq rfl rfl rfl
  | detailMissed => exact p.of_eq rfl rfl rfl

theorem Response.paged {i : Input} (r : Response h i out) (p : Paged h t) :
    Paged out.1 ((askedBy out.2).reverse ++ t) := by
  cases r with
  | ignored => exact p
  | closed => exact p.of_eq rfl rfl rfl
  | scrolled => exact p.of_eq rfl rfl rfl
  | entered => exact p.of_eq rfl rfl rfl
  | moved _ _ turn => exact turn.paged (p.of_eq rfl rfl rfl)

/-- **Every operation keeps it.** -/
theorem Paged.record (p : Paged h t) (op : Operation) :
    Paged (record (h, t) op).1 (record (h, t) op).2 := by
  cases op with
  | reset => exact paged_nil rfl rfl rfl
  | start s =>
    have hnew : Paged { h.reset with source := some s } [] := paged_nil rfl rfl rfl
    exact hnew.ask rfl
  | receive m =>
    have hr := (h.receive_receipt m).paged p
    rw [← List.append_assoc] at hr
    exact hr
  | input i =>
    have hr := (h.input_response i).paged p
    rw [← List.append_nil (askedBy _).reverse] at hr
    exact hr
  | resize w hgt => exact p.of_eq rfl rfl rfl

theorem recordAll_paged (ops : List Operation) :
    ∀ s : History × List PageEvent, Paged s.1 s.2 →
      Paged (recordAll s ops).1 (recordAll s ops).2 := by
  induction ops with
  | nil => exact fun _ p => p
  | cons op ops ih => exact fun s p => ih (record s op) (p.record op)

/-- The events of a run go with the history that it leads to. -/
theorem recordAll_new (ops : List Operation) : recordAll ({}, []) ops = (run ops, events ops) :=
  Prod.ext (recordAll_fst ops ({}, [])) rfl

theorem events_concat (ops : List Operation) (op : Operation) :
    events (ops ++ [op]) = (record (run ops, events ops) op).2 := by
  show (List.foldl record ({}, []) (ops ++ [op])).2 = _
  rw [List.foldl_append, ← recordAll_new]
  rfl

theorem run_paged (ops : List Operation) : Paged (run ops) (events ops) := by
  have h := recordAll_paged ops ({}, []) (paged_nil rfl rfl rfl)
  rw [recordAll_fst] at h
  exact h

/-- **Pages arrive in order, in every run.**  Since the history was last begun or reset:

* its commits are those of the pages that were accepted, one page each of the numbers from one on;
* only the page after these can be outstanding, and what is outstanding is what the history waits
  for;
* a page is asked for only after the one before it was accepted, and never while another request
  is outstanding;
* it is asked for again only after it was said to have failed while it was outstanding;
* a result for any other page than the one waited for changes nothing. -/
theorem pages_in_order (ops : List Operation) :
    (accepted (events ops)).map Prod.fst = List.range' 1 (run ops).loadedPages ∧
    (run ops).commits = (accepted (events ops)).flatMap (·.2.items) ∧
    ((run ops).pendingPage = none ∨ (run ops).pendingPage = some ((run ops).loadedPages + 1)) ∧
    outstanding (events ops) = (run ops).pendingPage.toList ∧
    (∀ newer older n, events ops = newer ++ .asked n :: older →
      outstanding older = [] ∧
      ∃ p, n = p + 1 ∧ (p = 0 ∨ ∃ page, (p, page) ∈ accepted older)) ∧
    (∀ newer older, events ops = newer ++ older → (outstanding older).length ≤ 1) ∧
    (∀ newer mid older n, events ops = newer ++ .asked n :: (mid ++ .asked n :: older) →
      ∃ later earlier, mid = later ++ .failed n :: earlier ∧
        n ∈ outstanding (earlier ++ .asked n :: older)) ∧
    (∀ n, (run ops).pendingPage ≠ some n →
      (∀ page, (run ops).receive (.pageLoaded n page) = (run ops, [])) ∧
      ∀ reason, (run ops).receive (.pageFailed n reason) = (run ops, [])) := by
  have p := run_paged ops
  have htail : ∀ newer older, events ops = newer ++ older → Orderly older := by
    intro newer older heq
    have ho := p.orderly
    rw [heq] at ho
    exact ho.of_append
  refine ⟨?_, p.commits, ?_, p.pending, ?_, ?_, ?_, ?_⟩
  · rw [p.loaded]
    exact p.orderly.numbers.1
  · cases hp : (run ops).pendingPage with
    | none => exact .inl rfl
    | some n => exact .inr (by rw [p.next hp])
  · intro newer older n heq
    obtain ⟨hnone, hn, hrest⟩ := htail newer _ heq
    exact ⟨hnone, _, hn, hrest.mem_accepted⟩
  · intro newer older heq
    exact (htail newer older heq).outstanding_length_le
  · intro newer mid older n heq
    exact failed_between (htail newer _ heq)
  · intro n hn
    exact ⟨fun page => receive_of_not_awaits hn, fun reason => receive_of_not_awaits hn⟩

end RepoBrowser.History
