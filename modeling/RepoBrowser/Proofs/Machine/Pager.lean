import RepoBrowser.Proofs.Machine.Word
import RepoBrowser.Proofs.Pager.Scroll

/-!
# Scrolling in machine words

Only scrolling down adds anything up, and it does before it looks where the text ends.

* `downInWords`, `inputInWords` — what an input does;
* `inputInWords_eq` — a pager that keeps to its text does what it is meant to.
-/

namespace RepoBrowser.Pager

/-- Scrolls down by some lines. -/
def downInWords (n : Nat) (p : Pager) : Except Halt Pager := do
  let offset ← Word.bits64.add p.offset n
  return { p with offset := min offset p.maxOffset }

/-- What an input does. -/
def inputInWords (p : Pager) : Input → Except Halt Pager
  | .key k =>
    match Move.ofKey? k with
    | some .down => p.downInWords 1
    | some .pageDown => p.downInWords p.page
    | _ => .ok (p.input (.key k))
  | .mouse m =>
    match m.deed with
    | .scroll .down => p.downInWords wheelLines
    | _ => .ok (p.input (.mouse m))

variable {p : Pager} {n : Nat}

theorem downInWords_eq (fits : p.offset + n ≤ Word.bits64.greatest) :
    p.downInWords n = .ok (p.down n) := by
  unfold downInWords
  rw [Word.add_eq fits]
  rfl

/-- A pager that keeps to its text is on a place that a machine can hold. -/
theorem Arises.offset_le_memory (a : p.Arises) (fits : p.lines.length ≤ memory) :
    p.offset ≤ memory := by
  have within := a.offset_le
  unfold maxOffset at within
  omega

theorem inputInWords_eq (a : p.Arises) (fits : p.lines.length ≤ memory)
    (low : p.height ≤ maxExtent) (i : Input) : p.inputInWords i = .ok (p.input i) := by
  have place := a.offset_le_memory fits
  cases i with
  | key k =>
    simp only [inputInWords, input_key]
    cases Move.ofKey? k with
    | none => rfl
    | some m =>
      cases m with
      | down => exact downInWords_eq (add_one_le place)
      | pageDown => exact downInWords_eq (add_page_le place low)
      | _ => rfl
  | mouse m =>
    obtain ⟨deed, column, row⟩ := m
    cases deed with
    | scroll d =>
      cases d with
      | down =>
        have wheel : p.offset + max wheelLines 1 ≤ Word.bits64.greatest :=
          add_page_le place (by decide)
        exact downInWords_eq wheel
      | _ => rfl
    | _ => rfl

end RepoBrowser.Pager
