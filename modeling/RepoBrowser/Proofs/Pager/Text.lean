import RepoBrowser.Pager.Basic

/-!
# What a pager holds

* `Pager.Shows` — the lines of a pager are those of a given text;
* `Pager.HoldsText` — a pager has lines, or says that there are none;
* `input_eq` — scrolling moves the window and nothing else.
-/

namespace RepoBrowser.Pager

/-- The pager shows the text of a file. -/
def Shows (p : Pager) (content path : String) : Prop :=
  p.lines = highlight content.toList path.toList ∧ p.path = path

/-- The pager has lines, or tells neither that it waits for them nor why there are none. -/
def HoldsText (p : Pager) : Prop := p.lines ≠ [] ∨ p.loading = false ∧ p.error = none

/-- **Scrolling changes the offset only.** -/
theorem input_eq (p : Pager) (i : Input) : ∃ n, p.input i = { p with offset := n } := by
  have hmove : ∀ m q, p.move? m = some q → ∃ n, q = { p with offset := n } := by
    intro m q hq
    cases m <;> simp only [move?, Option.some.injEq, reduceCtorEq] at hq <;>
      exact ⟨_, hq.symm⟩
  have hwheel : ∀ m q, p.wheel? m = some q → ∃ n, q = { p with offset := n } := by
    intro m q hq
    unfold wheel? at hq
    split at hq <;> simp only [Option.some.injEq, reduceCtorEq] at hq <;>
      exact ⟨_, hq.symm⟩
  unfold input
  cases hq : p.input? i with
  | none => exact ⟨p.offset, rfl⟩
  | some q =>
    cases i with
    | key k =>
      obtain ⟨m, -, hm⟩ := Option.bind_eq_some_iff.mp hq
      exact hmove m q hm
    | mouse m => exact hwheel m q hq

theorem setContent_shows (p : Pager) (content path : String) :
    (p.setContent content path).Shows content path := ⟨rfl, rfl⟩

/-- A pager that has just begun to wait holds no text. -/
theorem not_holdsText_setLoading (p : Pager) : ¬ p.setLoading.HoldsText := by
  rintro (h | ⟨h, -⟩)
  · exact h rfl
  · exact Bool.noConfusion h

/-- A notice of failure does not count as a text. -/
theorem HoldsText.of_setError {p : Pager} {reason : String} (h : (p.setError reason).HoldsText) :
    p.HoldsText := by
  rcases h with h | ⟨-, h⟩
  · exact .inl h
  · exact absurd h (Option.some_ne_none reason)

@[simp] theorem holdsText_input (p : Pager) (i : Input) : (p.input i).HoldsText ↔ p.HoldsText := by
  obtain ⟨n, h⟩ := p.input_eq i
  rw [h]
  exact Iff.rfl

@[simp] theorem shows_input (p : Pager) (i : Input) (content path : String) :
    (p.input i).Shows content path ↔ p.Shows content path := by
  obtain ⟨n, h⟩ := p.input_eq i
  rw [h]
  exact Iff.rfl

@[simp] theorem loading_input (p : Pager) (i : Input) : (p.input i).loading = p.loading := by
  obtain ⟨n, h⟩ := p.input_eq i
  rw [h]

@[simp] theorem holdsText_setSize (p : Pager) (w h : Nat) :
    (p.setSize w h).HoldsText ↔ p.HoldsText := Iff.rfl

@[simp] theorem shows_setSize (p : Pager) (w h : Nat) (content path : String) :
    (p.setSize w h).Shows content path ↔ p.Shows content path := Iff.rfl

end RepoBrowser.Pager
