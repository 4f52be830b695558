import RepoBrowser.Proofs.Browser.Equations

/-!
# The status line follows the active view

What the status line says is written down when it is brought up to date, and most actions bring it
up to date.  Those that do not are few, and all but one of them touch nothing that it says.  The
exception is a change of the size: it moves the window over a text, so that the percentage that was
written down need not be that of the text any more.

* `Silent` — what an action does that does not bring the status line up to date;
* `act_silent` — every such action is one of these;
* `Browser.scrolls` — whether the active view scrolls through a text;
* `Browser.lags` — whether the size has changed since the status line was last brought up to date;
* `Tells` — the status line says what there is to say, the information apart while it lags;
* `status_follows_view` — it does so after every run;
* `percentage_lags` — while it lags, the percentage can be wrong.
-/

namespace RepoBrowser

/-- Whether an action is a change of the size. -/
def Action.isResize : Action → Bool
  | .resized .. => true
  | _ => false

namespace Browser

variable {b b' c : Browser} {a : Action} {r : Repository} {rs : List Request} {late : Bool}

/-! ### Actions after which the status line is left alone -/

/-- What an action does that does not bring the status line up to date. -/
inductive Silent (b : Browser) : Action → Browser → Prop
  | noted {a : Action} (headline : Option Headline) (error : Option String) :
      Silent b a { b with headline, error }
  | missed (g : Nat) (reason : String) :
      Silent b (.readmeFailed g reason) { b with readme := b.readme.setError reason }
  /-- The strip has moved and is put back. -/
  | restored {a : Action} (error : Option String) :
      Silent b a { b with error, tabs := b.tabs.activate b.activeTab }
  | resized (width height : Nat) : Silent b (.resized width height) (b.setSize width height)

/-- The status line is left alone when a tab is refused. -/
theorem changeTab_silent (b : Browser) (t : Tab) (error : Option String)
    (silent : b.tabRefreshes = false) :
    Silent b a (({ b with error } : Browser).changeTab t) := by
  have stage : ¬ b.stage = .ready := of_decide_eq_false silent
  rw [show ({ b with error } : Browser).changeTab t
      = { b with error, tabs := b.tabs.activate b.activeTab } from if_neg stage]
  exact .restored error

/-- An input leaves the status line alone when its tab is refused or nothing is selected. -/
theorem input_silent (b : Browser) (i : Input) (error : Option String)
    (silent : (({ b with error } : Browser).input i).refreshes = false) :
    Silent b a (({ b with error } : Browser).input i).browser := by
  cases target : ({ b with error } : Browser).tabs.target? i with
  | some t =>
    rw [input_of_target target] at silent ⊢
    exact b.changeTab_silent t error silent
  | none =>
    rcases Option.eq_none_or_eq_some b.repository with unselected | ⟨r, selected⟩
    · rw [input_of_unselected target unselected]
      exact .noted b.headline error
    · rw [input_of_view target selected] at silent
      exact nomatch silent

/-- **An action that does not bring the status line up to date is silent.** -/
theorem act_silent (silent : (b.act a).refreshes = false) : Silent b a (b.act a).browser := by
  -- a result for another selection does nothing at all
  rcases b.stale_or_fresh a with ⟨g, result, stale⟩ | fresh
  · rw [act_of_stale result stale]
    exact .noted b.headline b.error
  cases a with
  | selectHeadline item => exact .noted (some item) b.error
  | selectRepository r => exact nomatch silent
  | referenceResolved g n =>
    by_cases stage : b.stage = .resolving
    · obtain ⟨⟨r, selected⟩, -⟩ := eq_of_isStale_eq_false (fresh g rfl)
      rw [act_resolved selected (fresh g rfl) stage] at silent
      exact nomatch silent
    · rw [act_settled stage]
      exact .noted b.headline b.error
  | referenceFailed g reason =>
    rw [act_referenceFailed (fresh g rfl)]
    exact .noted b.headline (some reason)
  | readmeLoaded g readme =>
    rw [act_readmeLoaded (fresh g rfl)] at silent
    exact nomatch silent
  | readmeFailed g reason =>
    rw [act_readmeFailed (fresh g rfl)]
    exact .missed g reason
  | log g m =>
    rw [act_log (fresh g rfl)] at silent
    exact nomatch silent
  | files g m =>
    rw [act_files (fresh g rfl)] at silent
    exact nomatch silent
  | tabChanged t => exact b.changeTab_silent t b.error silent
  | resized w h => exact .resized w h
  | key k => exact b.input_silent (.key k) none silent
  | mouse m => exact b.input_silent (.mouse m) b.error silent
  | statusWanted => exact nomatch silent
  | failed reason => exact .noted b.headline (some reason)

theorem Silent.repository_eq (s : Silent b a b') : b'.repository = b.repository := by
  cases s <;> rfl

theorem Silent.status_eq (s : Silent b a b') : b'.statusLine.status = b.statusLine.status := by
  cases s <;> rfl

theorem Silent.branchStatus_eq (s : Silent b a b') : b'.branchStatus = b.branchStatus := by
  cases s <;> rfl

/-- **All but a change of the size leave what the active view says.** -/
theorem Silent.viewStatus_eq (s : Silent b a b') (size : a.isResize = false) :
    b'.viewStatus = b.viewStatus := by
  cases s with
  | resized => exact nomatch size
  | _ => rfl

theorem Silent.statusOf_eq (s : Silent b a b') (size : a.isResize = false) (r : Repository) :
    b'.statusOf r = b.statusOf r := by
  unfold statusOf
  rw [s.viewStatus_eq size, s.branchStatus_eq]

/-! ### Texts that are scrolled through -/

/-- Whether the active view scrolls through a text. -/
def scrolls (b : Browser) : Bool :=
  match b.activeTab with
  | .readme => true
  | .commits => b.history.opened.isSome
  | .files => b.explorer.opened.isSome
  | .branches | .tags => false

theorem Silent.scrolls_eq (s : Silent b a b') : b'.scrolls = b.scrolls := by
  cases s <;> rfl

/-- The value is the same at every size. -/
theorem viewStatus_setSize_fst (b : Browser) (w h : Nat) :
    (b.setSize w h).viewStatus.1 = b.viewStatus.1 := by
  have tab : (b.setSize w h).activeTab = b.activeTab := rfl
  unfold viewStatus
  rw [tab]
  cases b.activeTab <;> rfl

/-- So is the information, unless it is about a text that is scrolled through. -/
theorem viewStatus_setSize (b : Browser) (w h : Nat) (still : b.scrolls = false) :
    (b.setSize w h).viewStatus = b.viewStatus := by
  have tab : (b.setSize w h).activeTab = b.activeTab := rfl
  unfold viewStatus
  unfold scrolls at still
  rw [tab]
  cases active : b.activeTab with
  | readme => simp only [active, reduceCtorEq] at still
  | commits =>
    simp only [active, Option.isSome_eq_false_iff, Option.isNone_iff_eq_none] at still
    have opened : (b.setSize w h).history.opened = none := still
    simp only [History.statusInfo, still, opened]
    rfl
  | files =>
    simp only [active, Option.isSome_eq_false_iff, Option.isNone_iff_eq_none] at still
    have opened : (b.setSize w h).explorer.opened = none := still
    simp only [Explorer.statusInfo, still, opened]
    rfl
  | branches => rfl
  | tags => rfl

/-! ### What the status line says -/

/-- The status line says of the repository what there is to say.  While it is `late`, the
information about a text that is scrolled through may be another one. -/
structure Tells (b : Browser) (r : Repository) (late : Bool) : Prop where
  key : b.statusLine.status.key = r.name
  branch : b.statusLine.status.branch = b.branchStatus
  value : b.statusLine.status.value = b.viewStatus.1
  info : late = false ∨ b.scrolls = false → b.statusLine.status.info = b.viewStatus.2

/-- Brought up to date, the status line is never late. -/
theorem tells_refresh (selected : b.repository = some r) : Tells b.refresh r false := by
  unfold refresh
  rw [selected]
  exact ⟨rfl, rfl, rfl, fun _ => rfl⟩

/-- **Left alone, the status line goes on saying what there is to say**; a change of the size makes
it late. -/
theorem Silent.tells (s : Silent b a b') (h : Tells b r late) :
    Tells b' r (late || a.isResize) where
  key := by rw [s.status_eq, h.key]
  branch := by rw [s.status_eq, h.branch, s.branchStatus_eq]
  value := by
    rw [s.status_eq, h.value]
    cases s with
    | resized w h => exact (b.viewStatus_setSize_fst w h).symm
    | _ => rfl
  info := by
    rw [s.status_eq, s.scrolls_eq]
    intro known
    cases s with
    | resized w h' =>
      rw [show (late || (Action.resized w h').isResize) = true from Bool.or_true late] at known
      have still : b.scrolls = false := known.resolve_left (nomatch ·)
      rw [b.viewStatus_setSize w h' still]
      exact h.info (.inr still)
    | _ => exact h.info (known.imp_left fun hl => (Bool.or_eq_false_iff.mp hl).1)

/-! ### Runs -/

/-- Whether the size has changed since the status line was last brought up to date, when `late` says
whether it had before the first of the actions. -/
def lags (b : Browser) (late : Bool) : List Action → Bool
  | [] => late
  | a :: rest =>
    match b.update a with
    | .error _ => late
    | .ok (b', _) => b'.lags (!(b.act a).refreshes && (late || a.isResize)) rest

/-- One more action: the status line is brought up to date or left alone. -/
theorem tells_update (h : ∀ r, b.repository = some r → Tells b r late)
    (update : b.update a = .ok (b', rs)) :
    ∀ r, b'.repository = some r → Tells b' r (!(b.act a).refreshes && (late || a.isResize)) := by
  intro r selected
  obtain ⟨-, happly⟩ := update_eq_ok_iff.mp update
  obtain ⟨hb, -⟩ := Prod.mk.inj happly
  cases refreshes : (b.act a).refreshes with
  | true =>
    rw [refreshes, if_pos rfl] at hb
    rw [← hb] at selected ⊢
    obtain ⟨l, hl⟩ := (b.act a).browser.refresh_eq
    rw [hl] at selected
    exact tells_refresh selected
  | false =>
    rw [refreshes, if_neg Bool.false_ne_true] at hb
    have silent : Silent b a b' := hb ▸ act_silent refreshes
    exact silent.tells (h r (silent.repository_eq.symm.trans selected))

theorem run_tells {actions : List Action} : ∀ {b : Browser} {late : Bool},
    (∀ r, b.repository = some r → Tells b r late) → b.run actions = .ok c →
      ∀ r, c.repository = some r → Tells c r (b.lags late actions) := by
  induction actions with
  | nil =>
    intro b late h hrun
    obtain rfl : b = c := Except.ok.inj hrun
    exact h
  | cons a rest ih =>
    intro b late h hrun
    obtain ⟨b', rs, update, hrest⟩ := exists_update_of_run hrun
    rw [lags, update]
    exact ih (tells_update h update) hrest

/-- **The status line says what there is to say after every run** in which a repository was
selected: its name, the short name of the reference that is known, and what the active view has to
say.  Only the information can be another one than that of the active view, and this only while the
view scrolls through a text and the size has changed since the status line was last brought up to
date. -/
theorem status_follows_view (layout : Layout) (actions : List Action) (b : Browser)
    (h : (ofLayout layout).run actions = .ok b) (r : Repository)
    (selected : b.repository = some r) :
    b.statusLine.status.key = r.name ∧
    b.statusLine.status.branch
      = (match b.reference with
        | some n => " " ++ n.short
        | none => "") ∧
    b.statusLine.status.value
      = (match b.activeTab with
        | .commits => b.history.statusValue
        | .files => b.explorer.statusValue
        | .readme | .branches | .tags => "") ∧
    ((ofLayout layout).lags false actions = false ∨ b.scrolls = false →
      b.statusLine.status.info
        = match b.activeTab with
          | .readme => String.ofList b.readme.percentText
          | .commits => b.history.statusInfo
          | .files => b.explorer.statusInfo
          | .branches | .tags => "") := by
  have start : ∀ r, (ofLayout layout).repository = some r → Tells (ofLayout layout) r false :=
    fun _ => (nomatch ·)
  have tells : Tells b r ((ofLayout layout).lags false actions) := run_tells start h r selected
  refine ⟨tells.key, tells.branch, ?_, fun known => ?_⟩
  · rw [tells.value]
    unfold viewStatus
    cases b.activeTab <;> rfl
  · rw [tells.info known]
    unfold viewStatus
    cases b.activeTab <;> rfl

/-- The size has changed, and the status line was brought up to date after that. -/
theorem status_follows_view_sample :
    ∃ b, (ofLayout ⟨0, 0, 0, 0, 0, 0⟩).run
        [.resized 20 1, .selectRepository Source.sample.ticket.repository,
          .referenceResolved 1 Source.sample.reference,
          .readmeLoaded 1 ⟨"one\ntwo\nthree", "README"⟩, .key ⟨.down, {}⟩, .resized 20 3,
          .statusWanted] = .ok b ∧
      b.statusLine.status.key = "demo" ∧ b.statusLine.status.branch = " main" ∧
      b.statusLine.status.value = "" ∧ b.statusLine.status.info = "100%" := by
  refine ⟨_, rfl, ?_⟩
  obtain ⟨hkey, hbranch, hvalue, hinfo⟩ := status_follows_view ⟨0, 0, 0, 0, 0, 0⟩
    [.resized 20 1, .selectRepository Source.sample.ticket.repository,
      .referenceResolved 1 Source.sample.reference,
      .readmeLoaded 1 ⟨"one\ntwo\nthree", "README"⟩, .key ⟨.down, {}⟩, .resized 20 3,
      .statusWanted] _ rfl Source.sample.ticket.repository rfl
  exact ⟨hkey, hbranch, hvalue, hinfo (.inl rfl)⟩

/-- In a window that shows all of a text, the status line still says how far the text had been
scrolled in a window of one row. -/
theorem percentage_lags :
    ∃ b r, (ofLayout ⟨0, 0, 0, 0, 0, 0⟩).run
        [.resized 20 1, .selectRepository Source.sample.ticket.repository,
          .readmeLoaded 1 ⟨"one\ntwo\nthree", "README"⟩, .key ⟨.down, {}⟩, .resized 20 3] = .ok b ∧
      b.repository = some r ∧ b.activeTab = .readme ∧
      b.statusLine.status.info = "50%" ∧ String.ofList b.readme.percentText = "100%" ∧
      b.statusLine.status ≠ b.statusOf r := by
  refine ⟨_, _, rfl, rfl, rfl, rfl, rfl, fun heq => ?_⟩
  exact absurd (congrArg Status.info heq) (show "50%" ≠ "100%" by decide)

end Browser

end RepoBrowser
