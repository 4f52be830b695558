import RepoBrowser.Forge.Basic
import RepoBrowser.Input
import RepoBrowser.Tab

/-!
# Requests, answers and actions

* `Ticket` — the selection that a request belongs to; the number in it tells a late answer from one
  that is wanted;
* `Request` — work that is done away from the screen, each with its `Request.query` to the forge;
* `LogMessage`, `FilesMessage` — results for the list of commits and for the files;
* `Action` — all that can happen to what is shown;
* `Request.answer` — the one action that comes of a request.
-/

namespace RepoBrowser

/-- The selection that a request belongs to. -/
structure Ticket where
  /-- How many selections there have been. -/
  generation : Nat
  repository : Repository
  deriving DecidableEq, Repr

/-- From where something is fetched: a selection, and a reference in its repository. -/
structure Source where
  ticket : Ticket
  reference : Reference
  deriving DecidableEq, Repr

/-- Work that is done away from the screen. -/
inductive Request where
  | resolveRepository (name : String)
  | fetchReadme (ticket : Ticket)
  | resolveReference (ticket : Ticket)
  | fetchCommits (ticket : Ticket) (reference : Reference) (page : Nat)
  | fetchCommit (ticket : Ticket) (id : String)
  | fetchListing (ticket : Ticket) (reference : Reference) (path : String)
  | fetchFile (ticket : Ticket) (reference : Reference) (path : String)
  deriving DecidableEq, Repr

def Request.ticket? : Request → Option Ticket
  | .resolveRepository _ => none
  | .fetchReadme t | .resolveReference t | .fetchCommits t .. | .fetchCommit t ..
  | .fetchListing t .. | .fetchFile t .. => some t

inductive LogMessage where
  | pageLoaded (number : Nat) (page : Page Commit)
  | pageFailed (number : Nat) (reason : String)
  | detailLoaded (detail : CommitDetail)
  | detailFailed (id : String) (reason : String)
  deriving DecidableEq, Repr

inductive FilesMessage where
  | listing (path : String) (entries : List Entry)
  | file (path : String) (content : String)
  | failed (path : String) (reason : String)
  deriving DecidableEq, Repr

/-- What can happen to what is shown. -/
inductive Action where
  | selectHeadline (item : Headline)
  | selectRepository (repository : Repository)
  | referenceResolved (generation : Nat) (reference : Reference)
  | referenceFailed (generation : Nat) (reason : String)
  | readmeLoaded (generation : Nat) (readme : Readme)
  | readmeFailed (generation : Nat) (reason : String)
  | log (generation : Nat) (message : LogMessage)
  | files (generation : Nat) (message : FilesMessage)
  | tabChanged (tab : Tab)
  | resized (width height : Nat)
  | key (k : Key)
  | mouse (m : Mouse)
  | statusWanted
  | failed (reason : String)
  deriving DecidableEq, Repr

def Input.action : Input → Action
  | .key k => .key k
  | .mouse m => .mouse m

/-! ### From requests to actions -/

def Request.query : Request → Query
  | .resolveRepository name => .repository name
  | .fetchReadme t => .readme t.repository
  | .resolveReference t => .head t.repository
  | .fetchCommits t reference page => .commits t.repository reference page
  | .fetchCommit t id => .commit t.repository id
  | .fetchListing t reference path => .directory t.repository reference path
  | .fetchFile t reference path => .file t.repository reference path

/-- What a user is told when `what` could not be loaded. -/
def unloadedMessage (what : String) (e : Error) : String := (Error.unloaded what e.message).message

def shownPath (path : String) : String := "/" ++ path

def lookupMessage (name : String) : Error → String
  | .notFound _ => (Error.notFound name).message
  | e => e.message

def resolutionMessage : Error → String
  | .unresolved reason => (Error.unresolved reason).message
  | e => (Error.unresolved e.message).message

/-- The action that comes of a request, given what came of its query.  A failure becomes a text to
be shown. -/
def Request.answer : (r : Request) → r.query.Outcome → Action
  | .resolveRepository _, .ok repository => .selectRepository repository
  | .resolveRepository name, .error e => .failed (lookupMessage name e)
  | .fetchReadme t, .ok readme => .readmeLoaded t.generation readme
  | .fetchReadme t, .error e => .readmeFailed t.generation (unloadedMessage "readme" e)
  | .resolveReference t, .ok reference => .referenceResolved t.generation reference
  | .resolveReference t, .error e => .referenceFailed t.generation (resolutionMessage e)
  | .fetchCommits t _ number, .ok page => .log t.generation (.pageLoaded number page)
  | .fetchCommits t _ number, .error e =>
    .log t.generation (.pageFailed number (unloadedMessage "commits" e))
  | .fetchCommit t _, .ok detail => .log t.generation (.detailLoaded detail)
  | .fetchCommit t id, .error e =>
    .log t.generation (.detailFailed id (unloadedMessage ("commit " ++ id) e))
  | .fetchListing t _ path, .ok entries => .files t.generation (.listing path entries)
  | .fetchListing t _ path, .error e =>
    .files t.generation (.failed path (unloadedMessage (shownPath path) e))
  | .fetchFile t _ path, .ok content => .files t.generation (.file path content)
  | .fetchFile t _ path, .error e =>
    .files t.generation (.failed path (unloadedMessage (shownPath path) e))

def Request.perform {m : Type → Type} [Monad m] (forge : Forge m) (r : Request) : m Action :=
  return r.answer (← forge.ask r.query)

end RepoBrowser
