import Mathlib.Data.List.Induction
import RepoBrowser.Proofs.History.Paging
import RepoBrowser.Proofs.History.Window

/-!
# How many commits there are

A page may say how many commits there are in all.  Where no page has said so, the number is known
only when there are no more, and that is known from a page that is not full.

* `Page.isShort`, `reported?` — what pages tell about the number of all commits;
* `Tallied`, `run_tallied` — the number that a history has is what its pages tell;
* `Spent`, `Spent.requestsFrom` — a history that is loaded to its end asks for no page before it is
  begun again;
* `statusInfo_of_total`, `statusInfo_eq_open_iff` — the number as it is shown;
* `pages_settle_total` — all of it, for every run.

Everything hangs on `Tallied.idle`: while a page is on its way the history is not loaded to its end,
so that no page is ever accepted behind one that is not full.
-/

namespace RepoBrowser

/-- Whether a page is not a full one. -/
def Page.isShort {α : Type} (p : Page α) : Bool := p.items.length < pageSize

namespace History

/-- The pages that were accepted, the earliest first. -/
def pages (t : List PageEvent) : List (Page Commit) := (accepted t).map Prod.snd

/-- The number of all commits by the latest page that has one. -/
def reported? (ps : List (Page Commit)) : Option Nat := (ps.filterMap Page.total).getLast?

theorem reported?_concat (ps : List (Page Commit)) (page : Page Commit) :
    reported? (ps ++ [page]) = page.total.or (reported? ps) := by
  unfold reported?
  rw [List.filterMap_append, List.getLast?_append]
  cases total : page.total with
  | none => rw [List.filterMap_cons_none total]; rfl
  | some n => rw [List.filterMap_cons_some total]; rfl

variable {h : History} {t : List PageEvent} {i : Input} {m : LogMessage}
  {out : History × List Request}

/-! ### The number that a history has -/

/-- The number of all commits is the one that was reported last, or else the number of those loaded,
if a page was not full. -/
structure Tallied (h : History) (t : List PageEvent) : Prop where
  total : h.total = (reported? (pages t)).or
    (if (pages t).any Page.isShort then some h.commits.length else none)
  exhausted : h.exhausted = (pages t).any Page.isShort
  idle : h.exhausted = true → h.pendingPage = none

/-- A history without pages that has not been loaded to its end. -/
theorem tallied_nil (ht : h.total = none) (hx : h.exhausted = false) (hp : pages t = []) :
    Tallied h t where
  total := by
    rw [ht, hp]
    rfl
  exhausted := by
    rw [hx, hp]
    rfl
  idle := by
    rw [hx]
    exact fun ended => nomatch ended

/-- The number, the commits and what is waited for are all that counts. -/
theorem Tallied.of_eq (c : Tallied h t) {k : History} {u : List PageEvent}
    (total : k.total = h.total) (commits : k.commits = h.commits)
    (exhausted : k.exhausted = h.exhausted)
    (pending : h.pendingPage = none → k.pendingPage = none) (same : pages u = pages t) :
    Tallied k u where
  total := by rw [total, commits, same, c.total]
  exhausted := by rw [exhausted, same, c.exhausted]
  idle := fun ended => pending (c.idle (exhausted ▸ ended))

theorem Turn.tallied (turn : Turn h out) (c : Tallied h t) :
    Tallied out.1 ((askedBy out.2).reverse ++ t) := by
  cases turn with
  | rests => exact c
  | asks _ _ more _ =>
    refine ⟨c.total, c.exhausted, fun ended => ?_⟩
    exact nomatch (exhausted_of_hasMore more).symm.trans ended

/-- While a page is on its way, none of those before it was short. -/
theorem Tallied.none_short (c : Tallied h t) {n : Nat} (pending : h.pendingPage = some n) :
    (pages t).any Page.isShort = false := by
  rw [← c.exhausted, ← Bool.not_eq_true]
  intro ended
  exact nomatch (c.idle ended).symm.trans pending

/-- **The number after one more page** is the one that the page has, or an earlier one had, or that
of the commits loaded when the page is not full. -/
theorem Tallied.addPage (c : Tallied h t) {n : Nat} {page : Page Commit} {u : List PageEvent}
    (pending : h.pendingPage = some n) (more : pages u = pages t ++ [page]) :
    Tallied (h.addPage n page) u := by
  have full := c.none_short pending
  have shorts : (pages u).any Page.isShort = page.isShort := by
    rw [more, List.any_append, full, List.any_cons, List.any_nil, Bool.or_false, Bool.false_or]
  have before : h.total = reported? (pages t) := by
    rw [c.total, full]
    exact Option.or_none
  refine ⟨?_, shorts.symm, fun _ => rfl⟩
  show h.totalAfter page = _
  rw [shorts, more, reported?_concat, ← before]
  unfold totalAfter Page.isShort
  cases page.total.or h.total with
  | some k => rfl
  | none =>
    show (if _ then _ else none) = if _ then some (h.commits ++ page.items).length else none
    simp only [decide_eq_true_eq, List.length_append]

theorem Receipt.tallied (r : Receipt h m out) (p : Paged h t) (c : Tallied h t) :
    Tallied out.1 ((askedBy out.2).reverse ++ (Operation.brings (.receive m) ++ t)) := by
  cases r with
  | dropped m foreign =>
    exact c.of_eq rfl rfl rfl id (congrArg (List.map Prod.snd) (p.accepted_foreign foreign))
  | @pageAdded n page _ pending turn =>
    refine turn.tallied (c.addPage pending ?_)
    show (accepted (.loaded n page :: t)).map Prod.snd = _
    rw [p.accepted_loaded page pending, List.map_append]
    rfl
  | pageMissed => exact c.of_eq rfl rfl rfl (fun _ => rfl) rfl
  | detailShown => exact c.of_eq rfl rfl rfl id rfl
  | detailMissed => exact c.of_eq rfl rfl rfl id rfl

theorem Response.tallied (r : Response h i out) (c : Tallied h t) :
    Tallied out.1 ((askedBy out.2).reverse ++ t) := by
  cases r with
  | ignored => exact c
  | closed => exact c.of_eq rfl rfl rfl id rfl
  | scrolled => exact c.of_eq rfl rfl rfl id rfl
  | entered => exact c.of_eq rfl rfl rfl id rfl
  | moved _ _ turn => exact turn.tallied (c.of_eq rfl rfl rfl id rfl)

/-- **Every operation keeps it.** -/
theorem Tallied.record (c : Tallied h t) (p : Paged h t) (op : Operation) :
    Tallied (record (h, t) op).1 (record (h, t) op).2 := by
  cases op with
  | reset => exact tallied_nil rfl rfl rfl
  | start s => exact tallied_nil rfl rfl rfl
  | receive m =>
    have kept := (h.receive_receipt m).tallied p c
    rw [← List.append_assoc] at kept
    exact kept
  | input i =>
    have kept := (h.input_response i).tallied c
    rw [← List.append_nil (askedBy _).reverse] at kept
    exact kept
  | resize w hgt => exact c.of_eq rfl rfl rfl id rfl

theorem run_tallied (ops : List Operation) : Tallied (run ops) (events ops) := by
  induction ops using List.reverseRecOn with
  | nil => exact tallied_nil rfl rfl rfl
  | append_singleton ops op ih =>
    rw [run_concat, events_concat]
    exact ih.record (run_paged ops) op

/-! ### The end of a history -/

/-- The requests that come of a sequence of operations. -/
def requestsFrom (h : History) : List Operation → List Request
  | [] => []
  | op :: ops => (h.operate op).2 ++ requestsFrom (h.operate op).1 ops

/-- Nothing is waited for, and nothing will be: there is no source, or it is loaded to its end. -/
structure Spent (h : History) : Prop where
  idle : h.pendingPage = none
  ended : h.source = none ∨ h.exhausted = true

theorem Turn.of_spent (turn : Turn h out) (sp : h.Spent) : out = (h, []) := by
  cases turn with
  | rests => rfl
  | asks source _ more _ =>
    rcases sp.ended with none | ended
    · exact nomatch none.symm.trans source
    · exact nomatch (exhausted_of_hasMore more).symm.trans ended

theorem Response.spent (r : Response h i out) (sp : h.Spent) :
    out.1.Spent ∧ askedBy out.2 = [] := by
  cases r with
  | moved _ _ turn =>
    rw [turn.of_spent ⟨sp.idle, sp.ended⟩]
    exact ⟨⟨sp.idle, sp.ended⟩, rfl⟩
  | _ => exact ⟨⟨sp.idle, sp.ended⟩, rfl⟩

theorem Receipt.spent (r : Receipt h m out) (sp : h.Spent) : out.1.Spent ∧ askedBy out.2 = [] := by
  cases r with
  | pageAdded pending => exact nomatch sp.idle.symm.trans pending
  | pageMissed pending => exact nomatch sp.idle.symm.trans pending
  | _ => exact ⟨⟨sp.idle, sp.ended⟩, rfl⟩

theorem Spent.operate (sp : h.Spent) {op : Operation} (goes_on : ∀ s, .start s ≠ op) :
    (h.operate op).1.Spent ∧ askedBy (h.operate op).2 = [] := by
  cases op with
  | reset => exact ⟨⟨rfl, .inl rfl⟩, rfl⟩
  | start s => exact absurd rfl (goes_on s)
  | receive m => exact (h.receive_receipt m).spent sp
  | input i => exact (h.input_response i).spent sp
  | resize => exact ⟨⟨sp.idle, sp.ended⟩, rfl⟩

/-- **No page is asked for** until a history that is loaded to its end is begun again. -/
theorem Spent.requestsFrom (sp : h.Spent) {ops : List Operation}
    (goes_on : ∀ s, .start s ∉ ops) : askedBy (h.requestsFrom ops) = [] := by
  induction ops generalizing h with
  | nil => rfl
  | cons op ops ih =>
    obtain ⟨sp, none⟩ := sp.operate fun s here => goes_on s (here ▸ List.mem_cons_self)
    have later := ih sp fun s there => goes_on s (List.mem_cons_of_mem op there)
    show List.filterMap _ (_ ++ _) = []
    rw [List.filterMap_append]
    exact List.append_eq_nil_iff.mpr ⟨none, later⟩

/-- A page that is not full is the last one. -/
theorem receive_short {n : Nat} {page : Page Commit} (pending : h.pendingPage = some n)
    (short : page.items.length < pageSize) :
    (h.receive (.pageLoaded n page)).1.Spent ∧ askedBy (h.receive (.pageLoaded n page)).2 = [] := by
  have sp : (h.addPage n page).Spent := ⟨rfl, .inr (decide_eq_true short)⟩
  have last : h.receive (.pageLoaded n page) = (h.addPage n page, []) :=
    (if_pos pending).trans ((h.addPage n page).askNext_turn.of_spent sp)
  rw [last]
  exact ⟨sp, rfl⟩

/-! ### The number as it is shown -/

/-- Digits are all there is in a number. -/
theorem plus_notMem_decimal (n : Nat) : '+' ∉ decimal n := by
  intro plus
  exact nomatch Nat.isDigit_of_mem_toDigits (by decide) (by decide) plus

/-- The place of the selection among all commits. -/
def placeText (k n : Nat) : List Char := decimal k ++ '/' :: decimal n

theorem statusInfo_of_total (closed : h.opened = none) (some_loaded : h.commits ≠ []) {n : Nat}
    (total : h.total = some n) : h.statusInfo = String.ofList (placeText (h.selected + 1) n) := by
  unfold statusInfo
  rw [closed, total]
  exact if_neg (mt List.isEmpty_iff.mp some_loaded)

theorem statusInfo_of_no_total (closed : h.opened = none) (some_loaded : h.commits ≠ [])
    (unknown : h.total = none) :
    h.statusInfo = String.ofList (placeText (h.selected + 1) h.commits.length ++ ['+']) := by
  unfold statusInfo placeText
  rw [closed, unknown, List.append_assoc]
  exact if_neg (mt List.isEmpty_iff.mp some_loaded)

/-- **The number is left open** exactly while it is not known. -/
theorem statusInfo_eq_open_iff (closed : h.opened = none) (some_loaded : h.commits ≠ []) :
    h.statusInfo = String.ofList (placeText (h.selected + 1) h.commits.length ++ ['+']) ↔
      h.total = none := by
  refine ⟨fun shown => ?_, statusInfo_of_no_total closed some_loaded⟩
  cases total : h.total with
  | none => rfl
  | some n =>
    rw [statusInfo_of_total closed some_loaded total] at shown
    have same := String.ofList_injective shown
    have plus : '+' ∈ placeText (h.selected + 1) n := by
      rw [same]
      exact List.mem_append_right _ (List.mem_singleton_self '+')
    unfold placeText at plus
    rcases List.mem_append.mp plus with digit | rest
    · exact absurd digit (plus_notMem_decimal _)
    · rcases List.mem_cons.mp rest with slash | digit
      · exact absurd slash (by decide)
      · exact absurd digit (plus_notMem_decimal n)

/-- **The number of all commits is what the pages tell**, in every run and for any mixture of pages
that have it or not.  Since the history was last begun or reset:

* it is the number of the latest accepted page that has one;
* if none has, it is the number of the commits loaded once a page was not full, and unknown before;
* after an accepted page that is not full no page is asked for, before the history is begun again;
* in the list it is shown as open exactly while it is unknown and the history is not loaded to its
  end, with the number of the commits loaded in its place; and otherwise as it is;
* the place of the selection is one of those of the commits loaded. -/
theorem pages_settle_total (ops : List Operation) :
    (∀ n, reported? (pages (events ops)) = some n → (run ops).total = some n) ∧
    (reported? (pages (events ops)) = none → (run ops).total =
      if (pages (events ops)).any Page.isShort then some (run ops).commits.length else none) ∧
    (∀ n page later, (run ops).pendingPage = some n → page.items.length < pageSize →
      (∀ s, .start s ∉ later) →
      askedBy ((run ops).requestsFrom (.receive (.pageLoaded n page) :: later)) = []) ∧
    (run ops).exhausted = (pages (events ops)).any Page.isShort ∧
    ((run ops).opened = none → (run ops).commits ≠ [] →
      ((run ops).statusInfo
          = String.ofList (placeText ((run ops).selected + 1) (run ops).commits.length ++ ['+']) ↔
        (run ops).total = none ∧ (run ops).exhausted = false) ∧
      (∀ n, (run ops).total = some n →
        (run ops).statusInfo = String.ofList (placeText ((run ops).selected + 1) n)) ∧
      1 ≤ (run ops).selected + 1 ∧ (run ops).selected + 1 ≤ (run ops).commits.length) := by
  have c := run_tallied ops
  refine ⟨fun n reported => ?_, fun unreported => ?_, fun n page later pending short goes_on => ?_,
    c.exhausted, fun closed some_loaded => ⟨?_, fun n => statusInfo_of_total closed some_loaded,
      Nat.le_add_left 1 _, ?_⟩⟩
  · rw [c.total, reported]
    rfl
  · rw [c.total, unreported]
    exact Option.none_or
  · obtain ⟨sp, none⟩ := receive_short pending short
    show List.filterMap _ (_ ++ _) = []
    rw [List.filterMap_append]
    exact List.append_eq_nil_iff.mpr ⟨none, sp.requestsFrom goes_on⟩
  · rw [statusInfo_eq_open_iff closed some_loaded]
    refine ⟨fun unknown => ⟨unknown, ?_⟩, And.left⟩
    -- a page that is not full settles the number
    have settled := c.total
    rw [unknown, ← c.exhausted] at settled
    obtain ⟨-, open_end⟩ := Option.or_eq_none_iff.mp settled.symm
    rw [← Bool.not_eq_true]
    intro ended
    rw [if_pos ended] at open_end
    exact nomatch open_end
  · exact (run_inView ops).lt (mt List.length_eq_zero_iff.mp some_loaded)

end History

end RepoBrowser
