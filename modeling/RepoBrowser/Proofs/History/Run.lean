import RepoBrowser.History.Basic

/-!
# Runs of a history

* `History.Operation`, `operate` — all that can be done to a history, in one type;
* `History.run` — a sequence of operations, from a history that is new;
* `run_induction` — what a new history has and every operation keeps is there after every run.

A fault of a result ends a program, so what a program reaches is among what is reached here.
-/

namespace RepoBrowser.History

/-- What can be done to a history. -/
inductive Operation where
  | reset
  | start (source : Source)
  | receive (message : LogMessage)
  | input (i : Input)
  | resize (width height : Nat)
  deriving DecidableEq, Repr

/-- What an operation does, and the requests that come of it. -/
def operate (h : History) : Operation → History × List Request
  | .reset => (h.reset, [])
  | .start s => h.start s
  | .receive m => h.receive m
  | .input i => h.input i
  | .resize width height => (h.setSize width height, [])

/-- What a sequence of operations makes of a history. -/
def runFrom (h : History) (ops : List Operation) : History :=
  ops.foldl (fun h op => (h.operate op).1) h

/-- What a sequence of operations makes of a new history. -/
def run (ops : List Operation) : History := runFrom {} ops

theorem run_concat (ops : List Operation) (op : Operation) :
    run (ops ++ [op]) = ((run ops).operate op).1 := List.foldl_append

/-- **What a new history has and every operation keeps is there after every run.** -/
theorem run_induction {P : History → Prop} (new : P {})
    (keep : ∀ h op, P h → P (h.operate op).1) (ops : List Operation) : P (run ops) := by
  suffices from_any : ∀ h, P h → P (runFrom h ops) from from_any {} new
  induction ops with
  | nil => exact fun h hh => hh
  | cons op ops ih => exact fun h hh => ih _ (keep h op hh)

end RepoBrowser.History
