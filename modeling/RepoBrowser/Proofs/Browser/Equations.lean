import RepoBrowser.Proofs.Browser.Change

/-!
# What an action does, case by case

`Browser.act` looks at the selection, at the stage and at the strip of tabs before it does anything.
Here each outcome stands beside the condition under which it comes about:

* `refresh_of_selected` — what it is to bring the status line up to date;
* `act_of_stale`, `stale_or_fresh` — a result for another selection does nothing;
* `act_log`, `act_files`, `act_readmeLoaded`, … — what a result for the current selection does;
* `input_of_target`, `input_of_view`, `input_of_unselected` — where an input goes;
* `exists_update_of_run` — how a run begins.
-/

namespace RepoBrowser.Browser

variable {b c : Browser} {a : Action} {g : Nat} {r : Repository} {i : Input} {t : Tab}

/-! ### The status line -/

theorem refresh_of_unselected (unselected : b.repository = none) : b.refresh = b := by
  unfold refresh
  rw [unselected]

theorem refresh_of_selected (selected : b.repository = some r) :
    b.refresh = { b with statusLine := b.statusLine.say (b.statusOf r) } := by
  unfold refresh
  rw [selected]

theorem apply_of_refreshes (refreshes : (b.act a).refreshes = true) :
    b.apply a = ((b.act a).browser.refresh, (b.act a).requests) :=
  congrArg (·, (b.act a).requests) (if_pos refreshes)

theorem apply_of_silent (silent : (b.act a).refreshes = false) :
    b.apply a = ((b.act a).browser, (b.act a).requests) :=
  congrArg (·, (b.act a).requests) (if_neg (Bool.eq_false_iff.mp silent))

/-! ### Results -/

theorem act_referenceResolved_of_unselected (unselected : b.repository = none) (g : Nat)
    (n : Reference) : b.act (.referenceResolved g n) = ⟨b, [], false⟩ := by
  simp only [act, unselected]

/-- A reference is accepted only by the current selection, and only while it is waited for. -/
theorem act_referenceResolved (selected : b.repository = some r) (g : Nat) (n : Reference) :
    b.act (.referenceResolved g n)
      = if g = b.generation ∧ b.stage = .resolving then
          ⟨(b.resolve r n).1, (b.resolve r n).2, true⟩
        else ⟨b, [], false⟩ := by
  simp only [act, selected, Bool.and_eq_true, decide_eq_true_eq]

theorem act_resolved (selected : b.repository = some r) (fresh : b.isStale g = false)
    (stage : b.stage = .resolving) (n : Reference) :
    b.act (.referenceResolved g n) = ⟨(b.resolve r n).1, (b.resolve r n).2, true⟩ := by
  rw [act_referenceResolved selected]
  exact if_pos ⟨(eq_of_isStale_eq_false fresh).2, stage⟩

theorem act_settled (stage : b.stage ≠ .resolving) (g : Nat) (n : Reference) :
    b.act (.referenceResolved g n) = ⟨b, [], false⟩ := by
  rcases Option.eq_none_or_eq_some b.repository with unselected | ⟨r, selected⟩
  · exact act_referenceResolved_of_unselected unselected g n
  · rw [act_referenceResolved selected]
    exact if_neg fun h => stage h.2

theorem act_referenceFailed (fresh : b.isStale g = false) (reason : String) :
    b.act (.referenceFailed g reason) = ⟨{ b with error := some reason }, [], false⟩ :=
  if_neg (Bool.eq_false_iff.mp fresh)

theorem act_readmeLoaded (fresh : b.isStale g = false) (readme : Readme) :
    b.act (.readmeLoaded g readme)
      = ⟨{ b with readme := b.readme.setContent readme.content readme.path }, [], true⟩ :=
  if_neg (Bool.eq_false_iff.mp fresh)

theorem act_readmeFailed (fresh : b.isStale g = false) (reason : String) :
    b.act (.readmeFailed g reason) = ⟨{ b with readme := b.readme.setError reason }, [], false⟩ :=
  if_neg (Bool.eq_false_iff.mp fresh)

theorem act_log (fresh : b.isStale g = false) (m : LogMessage) :
    b.act (.log g m)
      = ⟨{ b with history := (b.history.receive m).1 }, (b.history.receive m).2, true⟩ :=
  if_neg (Bool.eq_false_iff.mp fresh)

theorem act_files (fresh : b.isStale g = false) (m : FilesMessage) :
    b.act (.files g m) = ⟨{ b with explorer := b.explorer.receive m }, [], true⟩ :=
  if_neg (Bool.eq_false_iff.mp fresh)

/-- **A result for another selection does nothing.** -/
theorem act_of_stale (result : a.generation? = some g) (stale : b.isStale g = true) :
    b.act a = ⟨b, [], false⟩ := by
  cases a with
  | referenceResolved g' n =>
    obtain rfl : g' = g := Option.some.inj result
    rcases Option.eq_none_or_eq_some b.repository with unselected | ⟨r, selected⟩
    · exact act_referenceResolved_of_unselected unselected g' n
    · rw [act_referenceResolved selected, if_neg]
      rintro ⟨rfl, -⟩
      simp [isStale, selected] at stale
  | referenceFailed | readmeLoaded | readmeFailed | log | files =>
    obtain rfl := Option.some.inj result
    exact if_pos stale
  | _ => exact nomatch result

/-- What an action brings is for another selection, or it counts. -/
theorem stale_or_fresh (b : Browser) (a : Action) :
    (∃ g, a.generation? = some g ∧ b.isStale g = true) ∨
      ∀ g, a.generation? = some g → b.isStale g = false := by
  cases a.generation? with
  | none => exact .inr fun g result => nomatch result
  | some g =>
    cases stale : b.isStale g with
    | true => exact .inl ⟨g, rfl, stale⟩
    | false =>
      refine .inr fun g' result => ?_
      rw [← Option.some.inj result, stale]

/-! ### Inputs -/

/-- The strip has moved when the tab is changed, and is moved once more or back. -/
theorem input_of_target (target : b.tabs.target? i = some t) :
    b.input i = ⟨b.changeTab t, [], b.tabRefreshes⟩ := by
  have moved : ({ b with tabs := b.tabs.activate t } : Browser).changeTab t = b.changeTab t := by
    unfold changeTab
    split <;> rfl
  simp only [input, TabStrip.input?, target, Option.map_some, moved]
  rfl

theorem input_of_view (target : b.tabs.target? i = none) (selected : b.repository = some r) :
    b.input i = ⟨(b.viewInput i).1, (b.viewInput i).2, true⟩ := by
  simp only [input, TabStrip.input?, target, Option.map_none, selected, Option.isSome_some, if_true]

theorem input_of_unselected (target : b.tabs.target? i = none) (unselected : b.repository = none) :
    b.input i = ⟨b, [], false⟩ := by
  simp only [input, TabStrip.input?, target, Option.map_none, unselected, Option.isSome_none,
    Bool.false_eq_true, if_false]

/-! ### Runs -/

/-- A run goes on from what the first action leads to. -/
theorem exists_update_of_run {rest : List Action} (h : b.run (a :: rest) = .ok c) :
    ∃ b' rs, b.update a = .ok (b', rs) ∧ b'.run rest = .ok c := by
  rw [run] at h
  split at h
  · exact absurd h (by simp)
  · rename_i b' rs update
    exact ⟨b', rs, update, h⟩

end RepoBrowser.Browser
