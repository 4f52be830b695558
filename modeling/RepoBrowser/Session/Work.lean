import RepoBrowser.Session.Basic

/-!
# Performing requests

* `Session.perform` — performs requests one after another; the session learns of each result before
  the next request is performed;
* `Session.work` — performs what waits; requests that come of it wait for the next time.
-/

namespace RepoBrowser.Session

variable {m : Type → Type} [Monad m]

/-- Performs requests one after another.  The actions that came of them are in order. -/
def perform (forge : Forge m) : List Request → Session → m (Except Fault (List Action × Session))
  | [], s => pure (.ok ([], s))
  | r :: rest, s => do
    let a ← r.perform forge
    match s.update a with
    | .error f => pure (.error f)
    | .ok s => return (← perform forge rest s).map fun (actions, s) => (a :: actions, s)

/-- Performs the requests that wait. -/
def work (forge : Forge m) (s : Session) : m (Except Fault (List Action × Session)) :=
  perform forge s.waiting { s with waiting := [] }

end RepoBrowser.Session
