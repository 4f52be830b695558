import RepoBrowser.Proofs.Browser.Change

/-!
# What results are about

* `Subject` — what a result can be about;
* `Action.subject?`, `Request.subject?` — what an action or a request is about;
* `answer_subject?`, `answer_generation?` — a result is about what was asked for, and for the
  selection that asked for it.
-/

namespace RepoBrowser

/-- What a result can be about. -/
inductive Subject where
  | readme | reference | log | files
  deriving DecidableEq, Repr

/-- Whether something can be asked about only once the reference is known. -/
def Subject.needsReference : Subject → Bool
  | .readme | .reference => false
  | .log | .files => true

/-- What a result is about; a command is about none of these. -/
def Action.subject? : Action → Option Subject
  | .readmeLoaded .. | .readmeFailed .. => some .readme
  | .referenceResolved .. | .referenceFailed .. => some .reference
  | .log .. => some .log
  | .files .. => some .files
  | .selectHeadline _ | .selectRepository _ | .tabChanged _ | .resized .. | .key _ | .mouse _
  | .statusWanted | .failed _ => none

/-- What a request is about; the look-up of a repository is about none of these. -/
def Request.subject? : Request → Option Subject
  | .resolveRepository _ => none
  | .fetchReadme _ => some .readme
  | .resolveReference _ => some .reference
  | .fetchCommits .. | .fetchCommit .. => some .log
  | .fetchListing .. | .fetchFile .. => some .files

/-- **A result is about what was asked for.** -/
theorem Request.answer_subject? (q : Request) (o : q.query.Outcome) :
    (q.answer o).subject? = q.subject? := by
  cases q <;> cases o <;> rfl

/-- **A result is for the selection that asked for it.** -/
theorem Request.answer_generation? (q : Request) (o : q.query.Outcome) :
    (q.answer o).generation? = q.ticket?.map Ticket.generation := by
  cases q <;> cases o <;> rfl

/-- What is about something is for a selection. -/
theorem Action.exists_generation {a : Action} {k : Subject} (about : a.subject? = some k) :
    ∃ g, a.generation? = some g := by
  cases a with
  | readmeLoaded g | readmeFailed g | referenceResolved g | referenceFailed g | log g | files g =>
    exact ⟨g, rfl⟩
  | _ => exact nomatch about

end RepoBrowser
