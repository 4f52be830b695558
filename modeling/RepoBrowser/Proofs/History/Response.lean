import RepoBrowser.History.Basic
import RepoBrowser.Proofs.Origin
import RepoBrowser.Proofs.Pager.Text

/-!
# What can happen to a history

Every operation on a history is one of a few changes, each with the conditions under which it
comes about.  All that is proved of histories is proved by cases on them.

* `Turn` — what comes of looking whether the next page is wanted;
* `Response` — what comes of an input;
* `Receipt` — what comes of a result;
* `History.Awaits` — whether a result is waited for.
-/

namespace RepoBrowser.History

/-- What comes of looking whether the next page is wanted. -/
inductive Turn (h : History) : History × List Request → Prop
  | rests : Turn h (h, [])
  | asks {s : Source} (source : h.source = some s) (idle : h.pendingPage = none)
      (more : h.hasMore = true) (near : h.isNearEnd = true) :
      Turn h ({ h with pendingPage := some (h.loadedPages + 1) },
        [.fetchCommits s.ticket s.reference (h.loadedPages + 1)])

theorem askNext_turn (h : History) : Turn h h.askNext := by
  unfold askNext
  split
  · rename_i hw
    simp only [Bool.and_eq_true, Option.isNone_iff_eq_none] at hw
    obtain ⟨⟨idle, more⟩, near⟩ := hw
    unfold askPage
    split
    · exact .rests
    · rename_i s source
      exact .asks source idle more near
  · exact .rests

/-- What is loaded to its end has no more. -/
theorem exhausted_of_hasMore {h : History} (more : h.hasMore = true) : h.exhausted = false := by
  unfold hasMore at more
  rw [Bool.and_eq_true] at more
  exact Bool.not_eq_true' h.exhausted ▸ more.1

/-- What comes of an input. -/
inductive Response (h : History) (i : Input) : History × List Request → Prop
  | ignored : Response h i (h, [])
  | closed {id : String} (opened : h.opened = some id) :
      Response h i ({ h with opened := none }, [])
  | scrolled {id : String} (opened : h.opened = some id) :
      Response h i ({ h with diff := h.diff.input i }, [])
  | entered {s : Source} {c : Commit} (closed : h.opened = none) (source : h.source = some s)
      (commit : h.commits[h.selected]? = some c) :
      Response h i ({ h with opened := some c.id, diff := h.diff.setLoading },
        [.fetchCommit s.ticket c.id])
  | moved {out : History × List Request} (closed : h.opened = none) (m : Move)
      (turn : Turn
        { h with
          selected := step h.selected h.commits.length m h.height
          offset := follow h.offset (step h.selected h.commits.length m h.height) h.height } out) :
      Response h i out

theorem input_response (h : History) (i : Input) : Response h i (h.input i) := by
  unfold input
  split
  · rename_i id opened
    split
    · exact .closed opened
    · exact .scrolled opened
  · rename_i closed
    split
    · rename_i m _
      have hmoved : Response h i (h.select m) := .moved closed m (askNext_turn _)
      cases m with
      | enter =>
        show Response h i h.openSelected
        unfold openSelected
        split
        · rename_i s c source commit
          exact .entered closed source commit
        · exact .ignored
      | back => exact .ignored
      | up => exact hmoved
      | down => exact hmoved
      | pageUp => exact hmoved
      | pageDown => exact hmoved
      | top => exact hmoved
      | bottom => exact hmoved
    · exact .ignored

/-- Whether a result is waited for: a page by its number, changes by the id of the open commit. -/
def Awaits (h : History) : LogMessage → Prop
  | .pageLoaded n _ | .pageFailed n _ => h.pendingPage = some n
  | .detailLoaded d => h.opened = some d.id
  | .detailFailed id _ => h.opened = some id

/-- What comes of a result. -/
inductive Receipt (h : History) : LogMessage → History × List Request → Prop
  | dropped (m : LogMessage) (foreign : ¬ h.Awaits m) : Receipt h m (h, [])
  | pageAdded {n : Nat} {page : Page Commit} {out : History × List Request}
      (pending : h.pendingPage = some n) (turn : Turn (h.addPage n page) out) :
      Receipt h (.pageLoaded n page) out
  | pageMissed {n : Nat} {reason : String} (pending : h.pendingPage = some n) :
      Receipt h (.pageFailed n reason) ({ h with pendingPage := none, error := some reason }, [])
  | detailShown {d : CommitDetail} (opened : h.opened = some d.id) :
      Receipt h (.detailLoaded d)
        ({ h with diff := h.diff.setContent (String.ofList (commitText d)) (diffPath d.id) }, [])
  | detailMissed {id reason : String} (opened : h.opened = some id) :
      Receipt h (.detailFailed id reason) ({ h with diff := h.diff.setError reason }, [])

/-- **A result that is not waited for changes nothing.** -/
theorem receive_of_not_awaits {h : History} {m : LogMessage} (foreign : ¬ h.Awaits m) :
    h.receive m = (h, []) := by
  cases m <;> exact if_neg foreign

theorem receive_receipt (h : History) (m : LogMessage) : Receipt h m (h.receive m) := by
  by_cases wanted : h.Awaits m
  · cases m with
    | pageLoaded n page =>
      rw [show h.receive (.pageLoaded n page) = (h.addPage n page).askNext from if_pos wanted]
      exact .pageAdded wanted (askNext_turn _)
    | pageFailed n reason =>
      rw [show h.receive (.pageFailed n reason)
          = ({ h with pendingPage := none, error := some reason }, []) from if_pos wanted]
      exact .pageMissed wanted
    | detailLoaded d =>
      rw [show h.receive (.detailLoaded d)
          = ({ h with
                diff := h.diff.setContent (String.ofList (commitText d)) (diffPath d.id) }, [])
          from if_pos wanted]
      exact .detailShown wanted
    | detailFailed id reason =>
      rw [show h.receive (.detailFailed id reason)
          = ({ h with diff := h.diff.setError reason }, []) from if_pos wanted]
      exact .detailMissed wanted
  · rw [receive_of_not_awaits wanted]
    exact .dropped m wanted

/-! ### The source, and where requests come from -/

variable {h : History} {i : Input} {m : LogMessage} {out : History × List Request}

theorem Turn.source_eq (t : Turn h out) : out.1.source = h.source := by
  cases t <;> rfl

theorem Response.source_eq (r : Response h i out) : out.1.source = h.source := by
  cases r with
  | moved _ _ turn => exact turn.source_eq
  | _ => rfl

theorem Receipt.source_eq (r : Receipt h m out) : out.1.source = h.source := by
  cases r with
  | pageAdded _ turn => exact turn.source_eq
  | _ => rfl

theorem Turn.isFrom (t : Turn h out) :
    ∀ r ∈ out.2, ∃ s, h.source = some s ∧ r.IsFrom s := by
  cases t with
  | rests => exact fun r hr => absurd hr List.not_mem_nil
  | @asks s source _ _ _ =>
    intro r hr
    rw [List.mem_singleton.mp hr]
    exact ⟨s, source, .fetchCommits s _⟩

theorem Response.isFrom (t : Response h i out) :
    ∀ r ∈ out.2, ∃ s, h.source = some s ∧ r.IsFrom s := by
  cases t with
  | @entered s c _ source _ =>
    intro r hr
    rw [List.mem_singleton.mp hr]
    exact ⟨s, source, .fetchCommit s _⟩
  | moved _ _ turn => exact turn.isFrom
  | _ => exact fun r hr => absurd hr List.not_mem_nil

theorem Receipt.isFrom (t : Receipt h m out) :
    ∀ r ∈ out.2, ∃ s, h.source = some s ∧ r.IsFrom s := by
  cases t with
  | pageAdded _ turn => exact turn.isFrom
  | _ => exact fun r hr => absurd hr List.not_mem_nil

/-- A result leaves a history that waits for no page as one that waits for no page. -/
theorem Receipt.pendingPage_eq_none (r : Receipt h m out) (idle : h.pendingPage = none) :
    out.1.pendingPage = none := by
  cases r with
  | pageAdded pending _ => exact absurd (idle.symm.trans pending) (by simp)
  | pageMissed pending => exact absurd (idle.symm.trans pending) (by simp)
  | _ => exact idle

theorem Turn.commits_eq (t : Turn h out) :
    out.1.selected = h.selected ∧ out.1.commits = h.commits := by
  cases t <;> exact ⟨rfl, rfl⟩

/-- A result leaves the selection, and adds commits at the end at most. -/
theorem Receipt.commits_eq_append (r : Receipt h m out) :
    out.1.selected = h.selected ∧ ∃ more, out.1.commits = h.commits ++ more := by
  cases r with
  | @pageAdded n page _ _ turn =>
    obtain ⟨selected, commits⟩ := turn.commits_eq
    exact ⟨selected, page.items, commits⟩
  | _ => exact ⟨rfl, [], (List.append_nil _).symm⟩

/-- So it takes no fault of the selected commit away. -/
theorem Receipt.statusFault?_eq_none (r : Receipt h m out) (faultless : out.1.statusFault? = none) :
    h.statusFault? = none := by
  obtain ⟨hselected, more, hcommits⟩ := r.commits_eq_append
  unfold statusFault? at faultless ⊢
  rw [hselected, hcommits] at faultless
  cases selected : h.commits[h.selected]? with
  | none => rfl
  | some c =>
    rw [List.getElem?_append_left (List.getElem?_eq_some_iff.mp selected).1, selected] at faultless
    exact faultless

theorem start_eq (h : History) (s : Source) :
    h.start s = ({ h.reset with source := some s, pendingPage := some 1 },
      [.fetchCommits s.ticket s.reference 1]) := rfl

end RepoBrowser.History
