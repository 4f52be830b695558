import RepoBrowser.Fault
import RepoBrowser.Layout
import RepoBrowser.Navigation

/-!
# Computing in machine words

The numbers of the program have no bounds.  A machine keeps them in words of 16, 32 or 64 bits: a sum
that exceeds its word, a difference below zero and an index beyond its list each end the program.
Definitions whose names end in `InWords` compute as the machine does, step by step; each is proved
equal to the definition that it computes, within bounds that every run keeps.

* `Halt` — what ends the program on a machine;
* `Word.hold`, `Word.add`, `difference`, `item`, `shortIdInWords` — the steps that can;
* `stopped` — a result that only a fault of the program itself makes void;
* `memory` — what a machine can hold at once;
* `stepInWords`, `followInWords` — moving through lists.
-/

namespace RepoBrowser

variable {α β : Type}

/-- The words that numbers are kept in. -/
inductive Word where
  | bits16 | bits32 | bits64
  deriving DecidableEq, Repr

/-- The greatest number in a word. -/
def Word.greatest : Word → Nat
  | .bits16 => 65535
  | .bits32 => 4294967295
  | .bits64 => 18446744073709551615

/-- What ends the program on a machine. -/
inductive Halt where
  | fault (f : Fault)
  /-- A number exceeds its word. -/
  | overflow
  /-- A difference is less than zero. -/
  | underflow
  /-- An index is beyond its list. -/
  | outside
  /-- The machine has no more memory. -/
  | exhausted
  deriving DecidableEq, Repr

/-- More items and characters than any machine can hold at once: a quarter of what words of 64 bits
can tell apart. -/
def memory : Nat := 4611686018427387904

/-- A number in a word. -/
def Word.hold (w : Word) (n : Nat) : Except Halt Nat :=
  if n ≤ w.greatest then .ok n else .error .overflow

/-- A sum in a word. -/
def Word.add (w : Word) (a b : Nat) : Except Halt Nat := w.hold (a + b)

/-- A difference of numbers without a sign. -/
def difference (a b : Nat) : Except Halt Nat := if b ≤ a then .ok (a - b) else .error .underflow

/-- What a list has at an index. -/
def item (xs : List α) (i : Nat) : Except Halt α :=
  match xs[i]? with
  | some x => .ok x
  | none => .error .outside

/-- A result that is void if the program has a fault. -/
def stopped (fault : Option Fault) (result : α) : Except Halt α :=
  (checked fault result).mapError .fault

/-- The abbreviation of an id. -/
def shortIdInWords (id : String) : Except Halt (List Char) :=
  match shortId? id with
  | some s => .ok s
  | none => .error (.fault (.splitId id))

section

variable {w : Word} {a b n : Nat}

theorem Word.hold_eq (fits : n ≤ w.greatest) : w.hold n = .ok n := if_pos fits

theorem Word.add_eq (fits : a + b ≤ w.greatest) : w.add a b = .ok (a + b) := Word.hold_eq fits

theorem difference_eq (le : b ≤ a) : difference a b = .ok (a - b) := if_pos le

theorem ok_bind (result : α) (f : α → Except Halt β) : (Except.ok result >>= f) = f result := rfl

/-- What follows a result follows it unless there is a fault. -/
theorem stopped_bind (fault : Option Fault) (result : α) (f : α → Except Halt β) :
    (stopped fault result >>= f) = (stopped fault () >>= fun _ => f result) := by
  cases fault <;> rfl

theorem shortIdInWords_eq (id : String) :
    shortIdInWords id = stopped (splitFault? id) ((shortId? id).getD []) := by
  unfold shortIdInWords splitFault?
  cases shortId? id <;> rfl

end

/-! ### Moving through lists -/

/-- The row that a move selects. -/
def stepInWords (selected length : Nat) (move : Move) (page : Nat) : Except Halt Nat :=
  if length = 0 then .ok 0
  else do
    let last ← difference length 1
    match move with
    | .up => return selected - 1
    | .down => return min (← Word.bits64.add selected 1) last
    | .pageUp => return selected - max page 1
    | .pageDown => return min (← Word.bits64.add selected (max page 1)) last
    | .top => return 0
    | .bottom => return last
    | .enter | .back => return selected

/-- The first row of a window that holds the selected row. -/
def followInWords (offset selected rows : Nat) : Except Halt Nat :=
  if selected < offset then .ok selected
  else do
    let bottom ← Word.bits64.add offset (max rows 1)
    if bottom ≤ selected then
      let below ← Word.bits64.add selected 1
      difference below (max rows 1)
    else return offset

section

variable {selected length page offset rows : Nat}

/-- A place in a list, or in a text, that a machine can hold. -/
theorem add_page_le (place : selected ≤ memory) (low : page ≤ maxExtent) :
    selected + max page 1 ≤ Word.bits64.greatest := by
  unfold memory at place
  unfold maxExtent at low
  show _ ≤ 18446744073709551615
  omega

theorem add_one_le (place : selected ≤ memory) : selected + 1 ≤ Word.bits64.greatest := by
  unfold memory at place
  show _ ≤ 18446744073709551615
  omega

theorem stepInWords_eq (move : Move) (place : selected ≤ memory) (low : page ≤ maxExtent) :
    stepInWords selected length move page = .ok (step selected length move page) := by
  unfold stepInWords step
  split
  · rfl
  · rename_i some
    rw [difference_eq (Nat.one_le_iff_ne_zero.mpr some), ok_bind]
    cases move <;> dsimp only
    case down =>
      rw [Word.add_eq (add_one_le place), ok_bind]
      rfl
    case pageDown =>
      rw [Word.add_eq (add_page_le place low), ok_bind]
      rfl
    all_goals rfl

theorem followInWords_eq (first : offset ≤ memory) (place : selected ≤ memory)
    (low : rows ≤ maxExtent) :
    followInWords offset selected rows = .ok (follow offset selected rows) := by
  unfold followInWords follow
  split
  · rfl
  · rw [Word.add_eq (add_page_le first low), ok_bind]
    split
    · rename_i below
      rw [Word.add_eq (add_one_le place), ok_bind]
      exact difference_eq (by omega)
    · rfl

/-- A move selects no row that is neither in the list nor selected already. -/
theorem step_le (move : Move) (page : Nat) (place : selected ≤ memory) (list : length ≤ memory) :
    step selected length move page ≤ memory := by
  unfold step
  split
  · exact Nat.zero_le _
  · cases move <;> dsimp only <;> omega

theorem follow_le_memory (offset rows : Nat) (place : selected ≤ memory) :
    follow offset selected rows ≤ memory := Nat.le_trans (follow_le offset selected rows) place

end

end RepoBrowser
