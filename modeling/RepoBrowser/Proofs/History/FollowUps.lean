import Mathlib.Order.WellFounded
import RepoBrowser.Proofs.History.Waiting

/-!
# Pages that are asked for without an input

A page that arrives may leave the selection within a screen of the end of what is loaded, and then
the next page is asked for at once.  So a forge that always has an answer may go on with a history
by itself; but not for ever, whatever it says.

* `after`, `followUps` — a history and its requests while results come in, one after another;
* `History.shortfall` — the number of commits that are missing behind the selection;
* `Receipt.shortfall_le`, `followUps_pays` — every request costs a full page of it;
* `pending_pays` — as long as each result is the one that is waited for, each brings a request or
  is the last;
* `paging_ends` — all of it, for every history and every sequence of results.
-/

namespace RepoBrowser.History

/-- What a sequence of results makes of a history, up to the `k`-th. -/
def after (h : History) (results : Nat → LogMessage) : Nat → History
  | 0 => h
  | k + 1 => ((after h results k).receive (results k)).1

/-- The requests that come of a sequence of results, up to the `k`-th, the earliest first. -/
def followUps (h : History) (results : Nat → LogMessage) : Nat → List Request
  | 0 => []
  | k + 1 => followUps h results k ++ ((after h results k).receive (results k)).2

/-- The number of commits that are missing for the selection to be a screen away from the end. -/
def shortfall (h : History) : Nat := h.selected + max h.height 1 - h.commits.length

variable {h : History} {m : LogMessage} {out : History × List Request}

/-! ### One result -/

/-- A request that follows a page is the only one, and the page was a full one. -/
theorem Turn.full {n : Nat} {page : Page Commit} (turn : Turn (h.addPage n page) out) :
    out.2 = [] ∨ (∃ s n, h.source = some s ∧ out.2 = [.fetchCommits s.ticket s.reference n]) ∧
      pageSize ≤ page.items.length ∧ out.1.isNearEnd = true := by
  cases turn with
  | rests => exact .inl rfl
  | @asks s source _ more near =>
    have full : ¬ page.items.length < pageSize := of_decide_eq_false (exhausted_of_hasMore more)
    exact .inr ⟨⟨s, _, source, rfl⟩, Nat.not_lt.mp full, near⟩

/-- **What one result does**: nothing is asked for, or a page is, after as many commits as a page
has were added, with the selection still within a screen of the end. -/
theorem Receipt.full (r : Receipt h m out) :
    out.2 = [] ∨ (∃ s n, h.source = some s ∧ out.2 = [.fetchCommits s.ticket s.reference n]) ∧
      h.commits.length + pageSize ≤ out.1.commits.length ∧ out.1.isNearEnd = true := by
  cases r with
  | @pageAdded n page _ _ turn =>
    refine turn.full.imp_right fun ⟨asked, full, near⟩ => ⟨asked, ?_, near⟩
    rw [turn.commits_eq.2]
    show _ ≤ (h.commits ++ page.items).length
    rw [List.length_append]
    exact Nat.add_le_add_left full _
  | _ => exact .inl rfl

theorem Turn.height_eq (turn : Turn h out) : out.1.height = h.height := by
  cases turn <;> rfl

theorem Receipt.height_eq (r : Receipt h m out) : out.1.height = h.height := by
  cases r with
  | pageAdded _ turn => exact turn.height_eq
  | _ => rfl

/-- **A request costs a full page of the shortfall.** -/
theorem Receipt.shortfall_le (r : Receipt h m out) :
    out.1.shortfall + pageSize * out.2.length ≤ h.shortfall := by
  obtain ⟨selected, added, grown⟩ := r.commits_eq_append
  unfold shortfall
  rcases r.full with none | ⟨⟨s, n, -, one⟩, full, near⟩
  · rw [none, selected, r.height_eq, grown, List.length_append, List.length_nil]
    omega
  · have near : out.1.commits.length ≤ out.1.selected + max out.1.height 1 := of_decide_eq_true near
    rw [selected, r.height_eq] at near ⊢
    rw [one, List.length_singleton]
    omega

/-- As long as a page is waited for, its result brings a request or is the last. -/
theorem Receipt.asks_or_rests (r : Receipt h m out) {n : Nat} (pending : h.pendingPage = some n)
    (answered : m.page? = some n) : out.2.length = 1 ∨ out.1.pendingPage = none := by
  cases r with
  | dropped _ foreign => exact absurd (awaits_of_page pending answered) foreign
  | pageAdded _ turn =>
    cases turn with
    | rests => exact .inr rfl
    | asks => exact .inl rfl
  | pageMissed => exact .inr rfl
  | detailShown => exact nomatch answered
  | detailMissed => exact nomatch answered

/-! ### All results -/

theorem followUps_succ (h : History) (results : Nat → LogMessage) (k : Nat) :
    followUps h results (k + 1)
      = followUps h results k ++ ((after h results k).receive (results k)).2 := rfl

theorem after_pays (h : History) (results : Nat → LogMessage) (k : Nat) :
    (after h results (k + 1)).shortfall
      + pageSize * ((after h results k).receive (results k)).2.length
      ≤ (after h results k).shortfall :=
  ((after h results k).receive_receipt (results k)).shortfall_le

/-- **All requests together cost a full page each.** -/
theorem followUps_pays (h : History) (results : Nat → LogMessage) (k : Nat) :
    (after h results k).shortfall + pageSize * (followUps h results k).length ≤ h.shortfall := by
  induction k with
  | zero => exact Nat.le_refl _
  | succ k ih =>
    have paid := after_pays h results k
    rw [followUps_succ, List.length_append, Nat.mul_add]
    omega

theorem followUps_length_le (h : History) (results : Nat → LogMessage) (k : Nat) :
    (followUps h results k).length ≤ (h.selected + max h.height 1) / pageSize := by
  have paid := followUps_pays h results k
  have short : h.shortfall ≤ h.selected + max h.height 1 := Nat.sub_le _ _
  rw [Nat.le_div_iff_mul_le (by decide), Nat.mul_comm]
  omega

theorem shortfall_anti (h : History) (results : Nat → LogMessage) :
    Antitone fun k => (after h results k).shortfall :=
  antitone_nat_of_succ_le fun k => Nat.le_of_add_right_le (after_pays h results k)

/-- **From some result on no request comes**: from where the shortfall is least. -/
theorem followUps_settle (h : History) (results : Nat → LogMessage) :
    ∃ k, ∀ j ≥ k, followUps h results j = followUps h results k := by
  obtain ⟨k, least⟩ : ∃ k, ∀ j, (after h results k).shortfall ≤ (after h results j).shortfall :=
    ⟨_, fun j => Function.argmin_le (fun k => (after h results k).shortfall) j⟩
  refine ⟨k, fun j late => ?_⟩
  induction j, late using Nat.le_induction with
  | base => rfl
  | succ j late ih =>
    have paid := after_pays h results j
    have stands : (after h results j).shortfall ≤ (after h results (j + 1)).shortfall :=
      (shortfall_anti h results late).trans (least (j + 1))
    -- the shortfall is at its least, so there is nothing left to pay with
    have free : pageSize * ((after h results j).receive (results j)).2.length = 0 := by omega
    have unasked := (Nat.mul_eq_zero.mp free).resolve_left (by decide)
    rw [followUps_succ, List.length_eq_zero_iff.mp unasked, List.append_nil, ih]

theorem after_source (h : History) (results : Nat → LogMessage) (k : Nat) :
    (after h results k).source = h.source := by
  induction k with
  | zero => rfl
  | succ k ih => exact ((after h results k).receive_receipt (results k)).source_eq.trans ih

/-- **While a page is waited for, each result has brought a request**, if each was the one waited
for. -/
theorem pending_pays {results : Nat → LogMessage}
    (answered : ∀ k n, (after h results k).pendingPage = some n → (results k).page? = some n)
    (k : Nat) :
    (after h results k).pendingPage = none ∨ (followUps h results k).length = k := by
  induction k with
  | zero => exact .inr rfl
  | succ k ih =>
    have receipt := (after h results k).receive_receipt (results k)
    cases pending : (after h results k).pendingPage with
    | none => exact .inl (receipt.pendingPage_eq_none pending)
    | some n =>
      have before : (followUps h results k).length = k :=
        ih.resolve_left (pending ▸ Option.some_ne_none n)
      refine (receipt.asks_or_rests pending (answered k n pending)).symm.imp_right fun one => ?_
      rw [followUps_succ, List.length_append, before, one]

/-- **Paging ends by itself.**  Whatever results come to any history, with no input between them:

* the pages asked for are no more than there are full ones up to a screen behind the selection;
* from some result on none is asked for;
* each result brings no request, or one, for a page, after as many commits as a page has were added;
* if every page that is waited for is the one that comes, or fails to, then after one result more
  than there may be requests none is waited for. -/
theorem paging_ends (h : History) (results : Nat → LogMessage) :
    (∀ k, (followUps h results k).length ≤ (h.selected + max h.height 1) / pageSize) ∧
    (∃ k, ∀ j ≥ k, followUps h results j = followUps h results k) ∧
    (∀ k, followUps h results (k + 1) = followUps h results k ∨
      (∃ s n, h.source = some s ∧ followUps h results (k + 1)
        = followUps h results k ++ [.fetchCommits s.ticket s.reference n]) ∧
      (after h results k).commits.length + pageSize ≤ (after h results (k + 1)).commits.length) ∧
    ((∀ k n, (after h results k).pendingPage = some n → (results k).page? = some n) →
      ∀ k, (h.selected + max h.height 1) / pageSize < k →
        (after h results k).pendingPage = none) := by
  refine ⟨followUps_length_le h results, followUps_settle h results, fun k => ?_,
    fun answered k many => ?_⟩
  · have receipt := (after h results k).receive_receipt (results k)
    rcases receipt.full with none | ⟨⟨s, n, source, one⟩, full, -⟩
    · left
      rw [followUps_succ, none, List.append_nil]
    · refine .inr ⟨⟨s, n, (after_source h results k) ▸ source, ?_⟩, full⟩
      rw [followUps_succ, one]
  · refine (pending_pays answered k).resolve_right fun all => ?_
    have few := followUps_length_le h results k
    omega

/-- The bound is reached: in a window of 120 rows a forge that never runs out is asked for two more
pages, and then for none. -/
example :
    let commit : Commit := ⟨"4f2c9a1", "begin", "someone", ⟨0, 0⟩⟩
    let page : Page Commit := ⟨List.replicate pageSize commit, none⟩
    let begun := ((({} : History).setSize 80 120).start Source.sample).1
    (followUps begun (fun k => .pageLoaded (k + 1) page) 10).length = 120 / pageSize := by
  decide

end RepoBrowser.History
