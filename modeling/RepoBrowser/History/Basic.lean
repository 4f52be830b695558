import RepoBrowser.Fault
import RepoBrowser.History.Text
import RepoBrowser.Pager.Basic

/-!
# The history of a branch

* `History` — commits as far as pages of them have been loaded, one of them selected, and the
  changes of a commit while it is open;
* `start`, `reset`, `setSize` — from where commits are fetched, and where they are shown;
* `receive` — what a result from the forge does;
* `input` — what a key or the mouse does;
* `statusValue`, `statusInfo`, `help` — what the status line and the help say.

Pages are asked for one at a time: the next one when the selection is within a screen of the end of
what is loaded.
-/

namespace RepoBrowser

open Text

/-- The commits that have been loaded, with a selection. -/
structure History where
  source : Option Source := none
  commits : List Commit := []
  /-- The number of all commits, where it is known. -/
  total : Option Nat := none
  selected : Nat := 0
  /-- The first commit on screen. -/
  offset : Nat := 0
  loadedPages : Nat := 0
  pendingPage : Option Nat := none
  /-- Whether the last page that was loaded was not a full one. -/
  exhausted : Bool := false
  error : Option String := none
  /-- The id of the commit whose changes are shown in place of the list. -/
  opened : Option String := none
  diff : Pager := { placeholder := "No changes." }
  width : Nat := 0
  height : Nat := 0
  deriving DecidableEq, Repr

namespace History

def setSize (h : History) (width height : Nat) : History :=
  { h with
    width, height
    offset := follow h.offset h.selected height
    diff := h.diff.setSize width height }

def reset (h : History) : History := ({} : History).setSize h.width h.height

def askPage (h : History) (number : Nat) : History × List Request :=
  match h.source with
  | none => (h, [])
  | some s => ({ h with pendingPage := some number }, [.fetchCommits s.ticket s.reference number])

def start (h : History) (source : Source) : History × List Request :=
  ({ h.reset with source := some source } : History).askPage 1

/-- Whether there may be commits that are not loaded. -/
def hasMore (h : History) : Bool :=
  !h.exhausted && h.total.all fun total => h.commits.length < total

/-- Whether the selection is within a screen of the end of what is loaded. -/
def isNearEnd (h : History) : Bool := h.commits.length ≤ h.selected + max h.height 1

def askNext (h : History) : History × List Request :=
  if h.pendingPage.isNone && h.hasMore && h.isNearEnd then h.askPage (h.loadedPages + 1)
  else (h, [])

/-- The number of all commits once a page is loaded: what the page says, what an earlier one said,
or else what is loaded when there are no more. -/
def totalAfter (h : History) (page : Page Commit) : Option Nat :=
  match page.total.or h.total with
  | some n => some n
  | none =>
    if page.items.length < pageSize then some (h.commits.length + page.items.length) else none

def addPage (h : History) (number : Nat) (page : Page Commit) : History :=
  { h with
    pendingPage := none
    loadedPages := number
    exhausted := page.items.length < pageSize
    commits := h.commits ++ page.items
    total := h.totalAfter page
    error := none }

/-- The path under which the changes of a commit are shown. -/
def diffPath (id : String) : String := String.ofList ((shortId? id).getD [] ++ ".diff".toList)

def receive (h : History) : LogMessage → History × List Request
  | .pageLoaded number page =>
    if h.pendingPage = some number then (h.addPage number page).askNext else (h, [])
  | .pageFailed number reason =>
    if h.pendingPage = some number then
      ({ h with pendingPage := none, error := some reason }, [])
    else (h, [])
  | .detailLoaded d =>
    if h.opened = some d.id then
      ({ h with diff := h.diff.setContent (String.ofList (commitText d)) (diffPath d.id) }, [])
    else (h, [])
  | .detailFailed id reason =>
    if h.opened = some id then ({ h with diff := h.diff.setError reason }, []) else (h, [])

/-- The fault of a result: the changes of a commit cannot be shown under its id. -/
def receiveFault? (h : History) : LogMessage → Option Fault
  | .detailLoaded d => if h.opened = some d.id then splitFault? d.id else none
  | _ => none

def openSelected (h : History) : History × List Request :=
  match h.source, h.commits[h.selected]? with
  | some s, some c =>
    ({ h with opened := some c.id, diff := h.diff.setLoading }, [.fetchCommit s.ticket c.id])
  | _, _ => (h, [])

def select (h : History) (m : Move) : History × List Request :=
  let selected := step h.selected h.commits.length m h.height
  ({ h with selected, offset := follow h.offset selected h.height } : History).askNext

def move (h : History) : Move → History × List Request
  | .enter => h.openSelected
  | .back => (h, [])
  | m => h.select m

def input (h : History) (i : Input) : History × List Request :=
  match h.opened with
  | some _ =>
    if i.isKeyBack then ({ h with opened := none }, []) else ({ h with diff := h.diff.input i }, [])
  | none =>
    match Move.ofInput? i with
    | some m => h.move m
    | none => (h, [])

/-! ### What is said in the status line and the help -/

def commitLine (c : Commit) : List Char :=
  c.shortId?.getD [] ++ " by ".toList ++ c.author.toList ++ " on ".toList ++ c.date.shortDate

def statusValue (h : History) : String :=
  match h.commits[h.selected]? with
  | some c => String.ofList (commitLine c)
  | none => ""

def statusFault? (h : History) : Option Fault :=
  h.commits[h.selected]?.bind fun c => splitFault? c.id

/-- Where in the list the selection is, or how far the changes have been scrolled. -/
def statusInfo (h : History) : String :=
  match h.opened with
  | some _ => h.diff.openInfo
  | none =>
    if h.commits.isEmpty then ""
    else
      String.ofList (decimal (h.selected + 1) ++ '/' ::
        match h.total with
        | some n => decimal n
        | none => decimal h.commits.length ++ ['+'])

def help (h : History) : List KeyHint :=
  match h.opened with
  | none => [⟨"↑/↓", "navigate"⟩, ⟨"enter", "view diff"⟩]
  | some _ => [⟨"↑/↓", "scroll"⟩, ⟨"h", "back"⟩]

end History

end RepoBrowser
