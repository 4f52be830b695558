import RepoBrowser.Browser.Basic
import RepoBrowser.Proofs.Explorer.Response
import RepoBrowser.Proofs.History.Response

/-!
# What an action can do to a browser

* `Action.generation?` — the selection that a result is for; an action without one is a command;
* `Change` — all that an action can do, the status line apart;
* `change_of_update` — every update is a change, followed at most by a new status line;
* `Browser.run` — a sequence of actions, and `run_induction`, by which what every update keeps is
  kept by every run.
-/

namespace RepoBrowser

/-- The number of the selection that a result is for. -/
def Action.generation? : Action → Option Nat
  | .referenceResolved g _ | .referenceFailed g _ | .readmeLoaded g _ | .readmeFailed g _
  | .log g _ | .files g _ => some g
  | .selectHeadline _ | .selectRepository _ | .tabChanged _ | .resized .. | .key _ | .mouse _
  | .statusWanted | .failed _ => none

theorem Input.action_generation? (i : Input) : i.action.generation? = none := by
  cases i <;> rfl

namespace Browser

/-- The ticket of the current selection. -/
def ticket? (b : Browser) : Option Ticket := b.repository.map fun r => ⟨b.generation, r⟩

/-- From where commits and files are fetched: the current selection, once its reference is known. -/
def source? (b : Browser) : Option Source :=
  b.ticket?.bind fun t => b.reference.map fun r => ⟨t, r⟩

/-- What an action does to a browser, the status line apart. -/
inductive Change (b : Browser) : Action → Browser → List Request → Prop
  /-- A command that touches no view. -/
  | noted {a : Action} (command : a.generation? = none) (headline : Option Headline)
      (error : Option String) : Change b a { b with headline, error } []
  /-- A result for another selection. -/
  | stale {a : Action} {g : Nat} (result : a.generation? = some g) (stale : b.isStale g = true) :
      Change b a b []
  /-- A reference that nothing waits for. -/
  | settled {reference : Reference} (stage : b.stage ≠ .resolving) :
      Change b (.referenceResolved b.generation reference) b []
  | selected (r : Repository) : Change b (.selectRepository r) (b.select r).1 (b.select r).2
  | resolved {r : Repository} {reference : Reference} (selected : b.repository = some r)
      (stage : b.stage = .resolving) :
      Change b (.referenceResolved b.generation reference) (b.resolve r reference).1
        (b.resolve r reference).2
  | unresolved {r : Repository} {reason : String} (selected : b.repository = some r) :
      Change b (.referenceFailed b.generation reason) { b with error := some reason } []
  | readmeShown {r : Repository} {readme : Readme} (selected : b.repository = some r) :
      Change b (.readmeLoaded b.generation readme)
        { b with readme := b.readme.setContent readme.content readme.path } []
  | readmeMissed {r : Repository} {reason : String} (selected : b.repository = some r) :
      Change b (.readmeFailed b.generation reason)
        { b with readme := b.readme.setError reason } []
  | logReceived {r : Repository} {m : LogMessage} (selected : b.repository = some r) :
      Change b (.log b.generation m) { b with history := (b.history.receive m).1 }
        (b.history.receive m).2
  | filesReceived {r : Repository} {m : FilesMessage} (selected : b.repository = some r) :
      Change b (.files b.generation m) { b with explorer := b.explorer.receive m } []
  | tabbed {a : Action} (command : a.generation? = none) (error : Option String) (t : Tab)
      (allowed : b.stage = .ready ∨ t = b.activeTab) :
      Change b a { b with error, activeTab := t, tabs := b.tabs.activate t } []
  | resized (width height : Nat) : Change b (.resized width height) (b.setSize width height) []
  | readmeInput {i : Input} {r : Repository} (selected : b.repository = some r)
      (tab : b.activeTab = .readme) (error : Option String) :
      Change b i.action { b with error, readme := b.readme.input i } []
  | filesInput {i : Input} {r : Repository} (selected : b.repository = some r)
      (tab : b.activeTab = .files) (error : Option String) :
      Change b i.action { b with error, explorer := (b.explorer.input i).1 } (b.explorer.input i).2
  | commitsInput {i : Input} {r : Repository} (selected : b.repository = some r)
      (tab : b.activeTab = .commits) (error : Option String) :
      Change b i.action { b with error, history := (b.history.input i).1 } (b.history.input i).2

/-- Another tab is shown in a browser that is ready; else the strip is put back. -/
theorem changeTab_change {b : Browser} {a : Action} (command : a.generation? = none)
    (error : Option String) (t : Tab) :
    Change b a (({ b with error } : Browser).changeTab t) [] := by
  unfold changeTab
  split
  · rename_i ready
    exact .tabbed command error t (.inl ready)
  · exact .tabbed command error b.activeTab (.inr rfl)

theorem eq_of_isStale_eq_false {b : Browser} {g : Nat} (h : b.isStale g = false) :
    (∃ r, b.repository = some r) ∧ g = b.generation := by
  unfold isStale at h
  rw [Bool.or_eq_false_iff, decide_eq_false_iff_not] at h
  obtain ⟨hr, hg⟩ := h
  refine ⟨?_, Decidable.not_not.mp hg⟩
  cases hb : b.repository with
  | none => rw [hb] at hr; exact absurd hr (by decide)
  | some r => exact ⟨r, rfl⟩

/-- What an input does to the active view. -/
theorem viewInput_change (b : Browser) (i : Input) (error : Option String) {r : Repository}
    (selected : b.repository = some r) :
    Change b i.action (({ b with error } : Browser).viewInput i).1
      (({ b with error } : Browser).viewInput i).2 := by
  unfold viewInput
  split
  · rename_i tab
    exact .readmeInput selected tab error
  · rename_i tab
    exact .filesInput selected tab error
  · rename_i tab
    exact .commitsInput selected tab error
  · exact .noted i.action_generation? b.headline error
  · exact .noted i.action_generation? b.headline error

/-- An input goes to the strip of tabs, or else to the active view. -/
theorem input_change (b : Browser) (i : Input) (error : Option String) :
    Change b i.action (({ b with error } : Browser).input i).browser
      (({ b with error } : Browser).input i).requests := by
  have command := i.action_generation?
  unfold input
  split
  · rename_i tabs t ht
    obtain ⟨t', -, heq⟩ := Option.map_eq_some_iff.mp ht
    obtain ⟨rfl, rfl⟩ := Prod.mk.inj heq
    -- the strip has moved already, and is moved once more or back
    have hmoved : ({ b with error, tabs := b.tabs.activate t' } : Browser).changeTab t'
        = ({ b with error } : Browser).changeTab t' := by
      unfold changeTab
      split <;> rfl
    show Change b i.action
      (({ b with error, tabs := b.tabs.activate t' } : Browser).changeTab t') []
    rw [hmoved]
    exact changeTab_change command error t'
  · split
    · rename_i hr
      obtain ⟨r, selected⟩ := Option.isSome_iff_exists.mp hr
      exact b.viewInput_change i error selected
    · exact .noted command b.headline error

/-- A result counts only if it is for the current selection. -/
theorem change_of_result {b : Browser} {a : Action} {g : Nat} {out : Outcome}
    (result : a.generation? = some g)
    (hact : b.act a = if b.isStale g then ⟨b, [], false⟩ else out)
    (current : ∀ r, b.repository = some r → g = b.generation →
      Change b a out.browser out.requests) :
    Change b a (b.act a).browser (b.act a).requests := by
  rw [hact]
  split
  · rename_i stale
    exact .stale result stale
  · rename_i fresh
    obtain ⟨⟨r, selected⟩, hg⟩ := eq_of_isStale_eq_false (Bool.eq_false_iff.mpr fresh)
    exact current r selected hg

theorem reference_change (b : Browser) (g : Nat) (reference : Reference) :
    Change b (.referenceResolved g reference) (b.act (.referenceResolved g reference)).browser
      (b.act (.referenceResolved g reference)).requests := by
  cases fresh : b.isStale g with
  | true =>
    have hact : b.act (.referenceResolved g reference) = ⟨b, [], false⟩ := by
      unfold isStale at fresh
      simp only [act]
      split
      · rename_i r selected
        rw [if_neg]
        simp_all
      · rfl
    rw [hact]
    exact .stale rfl fresh
  | false =>
    obtain ⟨⟨r, selected⟩, rfl⟩ := eq_of_isStale_eq_false fresh
    by_cases stage : b.stage = .resolving
    · have hact : b.act (.referenceResolved b.generation reference)
          = ⟨(b.resolve r reference).1, (b.resolve r reference).2, true⟩ := by
        simp [act, selected, stage]
      rw [hact]
      exact .resolved selected stage
    · have hact : b.act (.referenceResolved b.generation reference) = ⟨b, [], false⟩ := by
        simp [act, selected, stage]
      rw [hact]
      exact .settled stage

/-- **Every action is a change.** -/
theorem act_change (b : Browser) (a : Action) :
    Change b a (b.act a).browser (b.act a).requests := by
  cases a with
  | selectHeadline item => exact .noted rfl (some item) b.error
  | selectRepository r => exact .selected r
  | referenceResolved g reference => exact b.reference_change g reference
  | referenceFailed g reason =>
    refine change_of_result rfl rfl fun r selected hg => ?_
    rw [hg]
    exact .unresolved selected
  | readmeLoaded g readme =>
    refine change_of_result rfl rfl fun r selected hg => ?_
    rw [hg]
    exact .readmeShown selected
  | readmeFailed g reason =>
    refine change_of_result rfl rfl fun r selected hg => ?_
    rw [hg]
    exact .readmeMissed selected
  | log g message =>
    refine change_of_result rfl rfl fun r selected hg => ?_
    rw [hg]
    exact .logReceived selected
  | files g message =>
    refine change_of_result rfl rfl fun r selected hg => ?_
    rw [hg]
    exact .filesReceived selected
  | tabChanged t => exact changeTab_change rfl b.error t
  | resized w h => exact .resized w h
  | key k => exact b.input_change (.key k) none
  | mouse m => exact b.input_change (.mouse m) b.error
  | statusWanted => exact .noted rfl b.headline b.error
  | failed reason => exact .noted rfl b.headline (some reason)

/-! ### Updates and runs -/

theorem refresh_eq (b : Browser) : ∃ l, b.refresh = { b with statusLine := l } := by
  unfold refresh
  split
  · exact ⟨b.statusLine, rfl⟩
  · exact ⟨_, rfl⟩

theorem update_eq_ok_iff {b b' : Browser} {a : Action} {rs : List Request} :
    b.update a = .ok (b', rs) ↔ b.fault? a = none ∧ b.apply a = (b', rs) := checked_eq_ok_iff

/-- An update does what the action does, and renews at most the status line. -/
theorem act_of_update {b b' : Browser} {a : Action} {rs : List Request}
    (h : b.update a = .ok (b', rs)) :
    (b.act a).requests = rs ∧ ∃ l, b' = { (b.act a).browser with statusLine := l } := by
  obtain ⟨-, happly⟩ := update_eq_ok_iff.mp h
  obtain ⟨hb, hrs⟩ := Prod.mk.inj happly
  refine ⟨hrs, ?_⟩
  split at hb
  · obtain ⟨l, hl⟩ := (b.act a).browser.refresh_eq
    exact ⟨l, hb.symm.trans hl⟩
  · exact ⟨(b.act a).browser.statusLine, hb.symm⟩

/-- **Every update is a change, followed at most by a new status line.** -/
theorem change_of_update {b b' : Browser} {a : Action} {rs : List Request}
    (h : b.update a = .ok (b', rs)) :
    ∃ c l, Change b a c rs ∧ b' = { c with statusLine := l } := by
  obtain ⟨rfl, l, hb⟩ := act_of_update h
  exact ⟨(b.act a).browser, l, b.act_change a, hb⟩

/-- What a sequence of actions leads to, unless a fault stops the program. -/
def run (b : Browser) : List Action → Except Fault Browser
  | [] => .ok b
  | a :: rest =>
    match b.update a with
    | .error f => .error f
    | .ok (b', _) => b'.run rest

/-- **What every update keeps is kept by every run.** -/
theorem run_induction {P : Browser → Prop}
    (keeps : ∀ {b b' a rs}, P b → b.update a = .ok (b', rs) → P b') :
    ∀ {actions : List Action} {b c : Browser}, P b → b.run actions = .ok c → P c := by
  intro actions
  induction actions with
  | nil =>
    intro b c hb hrun
    obtain rfl : b = c := Except.ok.inj hrun
    exact hb
  | cons a rest ih =>
    intro b c hb hrun
    rw [run] at hrun
    split at hrun
    · exact absurd hrun (by simp)
    · rename_i b' rs hu
      exact ih (keeps hb hu) hrun

end Browser

end RepoBrowser
