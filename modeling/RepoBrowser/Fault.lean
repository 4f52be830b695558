import RepoBrowser.Repository

/-!
# Faults

What is shown of a commit's id are its first seven bytes.  An id in which these end inside a
character cannot be shown, and the program stops.

* `Fault` — the one thing that stops the program;
* `splitFault?` — whether an id has it;
* `checked` — a result that is void if there is a fault.
-/

namespace RepoBrowser

/-- What stops the program. -/
inductive Fault where
  /-- The abbreviation of an id would end inside a character. -/
  | splitId (id : String)
  deriving DecidableEq, Repr

def splitFault? (id : String) : Option Fault :=
  match shortId? id with
  | some _ => none
  | none => some (.splitId id)

/-- A result that is void if there is a fault. -/
def checked {α : Type} (fault : Option Fault) (result : α) : Except Fault α :=
  match fault with
  | some f => .error f
  | none => .ok result

theorem splitFault?_eq_none_iff {id : String} :
    splitFault? id = none ↔ (shortId? id).isSome := by
  unfold splitFault?
  split <;> simp_all

theorem checked_eq_ok_iff {α : Type} {fault : Option Fault} {a b : α} :
    checked fault a = .ok b ↔ fault = none ∧ a = b := by
  cases fault <;> simp [checked]

end RepoBrowser
