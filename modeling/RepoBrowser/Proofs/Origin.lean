import RepoBrowser.Action

/-!
# Where requests come from

* `Request.reference?`, `Request.needsReference` — the reference that a request is about, and the
  requests that make sense only once it is known;
* `Request.IsFrom` — a request that belongs to a source;
* `Source.sample` — a source for concrete runs.
-/

namespace RepoBrowser

/-- The main branch of a repository that was selected first. -/
def Source.sample : Source where
  ticket :=
    { generation := 1
      repository :=
        { owner := "acme"
          name := "demo"
          description := none
          url := "https://forge.example/acme/demo"
          cloneUrl := "https://forge.example/acme/demo.git" } }
  reference := { name := "refs/heads/main", target := "4f2c9a1" }

namespace Request

/-- The reference at which something is asked for. -/
def reference? : Request → Option Reference
  | .fetchCommits _ r _ | .fetchListing _ r _ | .fetchFile _ r _ => some r
  | .resolveRepository _ | .fetchReadme _ | .resolveReference _ | .fetchCommit .. => none

/-- The requests for commits, directories and files. -/
def needsReference : Request → Bool
  | .fetchCommits .. | .fetchCommit .. | .fetchListing .. | .fetchFile .. => true
  | .resolveRepository _ | .fetchReadme _ | .resolveReference _ => false

/-- The request has the ticket of the source, and its reference where it has one. -/
structure IsFrom (s : Source) (r : Request) : Prop where
  ticket : r.ticket? = some s.ticket
  reference : ∀ n, r.reference? = some n → s.reference = n
  kind : r.needsReference

theorem IsFrom.fetchCommits (s : Source) (n : Nat) :
    IsFrom s (.fetchCommits s.ticket s.reference n) := ⟨rfl, fun _ h => Option.some.inj h, rfl⟩

theorem IsFrom.fetchCommit (s : Source) (id : String) : IsFrom s (.fetchCommit s.ticket id) :=
  ⟨rfl, fun _ h => (nomatch h), rfl⟩

theorem IsFrom.fetchListing (s : Source) (path : String) :
    IsFrom s (.fetchListing s.ticket s.reference path) := ⟨rfl, fun _ h => Option.some.inj h, rfl⟩

theorem IsFrom.fetchFile (s : Source) (path : String) :
    IsFrom s (.fetchFile s.ticket s.reference path) := ⟨rfl, fun _ h => Option.some.inj h, rfl⟩

end Request

end RepoBrowser
