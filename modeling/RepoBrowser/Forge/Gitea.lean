import RepoBrowser.Forge.Basic
import RepoBrowser.Forge.Diff
import RepoBrowser.Http.Message
import RepoBrowser.Http.Url
import RepoBrowser.Json.Reader
import RepoBrowser.Json.Record

/-!
# Gitea

A Gitea server answers at `https://<host>/api/v1`.  This file provides:

* `Server` — a server with the token that opens it;
* `get`, `getJson`, `getText` — one request, and the reading of its reply;
* `RepositoryInfo`, `BranchInfo`, `CommitInfo` and `entryOf?` — what the replies hold;
* `ask`, `forge` — the answers to queries.

A commit takes two requests, the second for its diff; without the diff it has no patches.
-/

namespace RepoBrowser.Gitea

open Text Json.Record Http
open Time (Instant)

/-- A server and the token that opens it. -/
structure Server where
  host : String
  token : String
  deriving DecidableEq, Repr

namespace Server

def url (s : Server) (path : String) : String := "https://" ++ s.host ++ "/api/v1" ++ path

def repositoryUrl (s : Server) (r : Repository) (path : String) : String :=
  s.url ("/repos/" ++ r.owner ++ "/" ++ r.name ++ path)

def directoryUrl (s : Server) (r : Repository) (path : String) (target : Option String) : String :=
  let steps := encodePath path.toList
  s.repositoryUrl r ("/contents" ++ (if steps.isEmpty then "" else "/" ++ String.ofList steps)
    ++ match target with
      | some t => "?ref=" ++ String.ofList (Percent.encode t.toList)
      | none => "")

def fileUrl (s : Server) (r : Repository) (path : String) : String :=
  s.repositoryUrl r ("/raw/" ++ String.ofList (encodePath path.toList))

def commitsUrl (s : Server) (r : Repository) (reference : Reference) (page : Nat) : String :=
  s.repositoryUrl r ("/commits?sha=" ++ String.ofList (Percent.encode reference.target.toList)
    ++ "&limit=" ++ toString pageSize ++ "&page=" ++ toString page ++ "&stat=false")

def branchUrl (s : Server) (r : Repository) (branch : String) : String :=
  s.repositoryUrl r ("/branches/" ++ String.ofList (Percent.encode branch.toList))

def commitUrl (s : Server) (r : Repository) (id : String) : String :=
  s.repositoryUrl r ("/git/commits/" ++ id)

def diffUrl (s : Server) (r : Repository) (id : String) : String := s.commitUrl r id ++ ".diff"

end Server

/-! ### Requests -/

section

variable {m : Type → Type} [Monad m]

/-- The reply of success to a request for an address. -/
def get (server : Server) (send : Transport m) (url : String) : m (Except Error Reply) :=
  let authorization := "token " ++ server.token
  match Url.parse? url.toList with
  | none => pure (.error (.api .unbuildable))
  | some u =>
    if !isHeaderText authorization then pure (.error (.api .unbuildable))
    else do
      let request : Http.Request :=
        ⟨String.ofList u.authority, String.ofList u.target, authorization⟩
      match ← send request with
      | .unreachable | .dropped => pure (.error (.api (.unsent (String.ofList u.text))))
      | .reply r =>
        if r.status = 404 then pure (.error (.notFound url))
        else if r.isSuccess then pure (.ok r)
        else
          let text :=
            if r.complete then String.ofList (Utf8.decodeLossy r.body) else "unknown error"
          pure (.error (.api (.status (statusLine r.status) text)))

/-- What a reply's body holds, read as JSON. -/
def decode {α : Type} (read : Json → Option α) (r : Reply) : Except Error α :=
  let value := if r.complete then (Utf8.decode? r.body).bind Json.parse? else none
  match value.bind read with
  | some a => .ok a
  | none => .error (.api .undecodable)

def getJson {α : Type} (server : Server) (send : Transport m) (read : Json → Option α)
    (url : String) : m (Except Error α) :=
  return (← get server send url).bind (decode read)

def getText (server : Server) (send : Transport m) (url : String) : m (Except Error (List Char)) :=
  return (← get server send url).bind fun r =>
    if r.complete then .ok (displayText r.body) else .error (.api .undecodable)

end

/-! ### Replies -/

structure RepositoryInfo where
  owner : Option String
  name : String
  description : Option String
  webUrl : Option String
  cloneUrl : Option String
  defaultBranch : Option String

def loginOf? (v : Json) : Option String :=
  (fields? ["login"] v).bind fun fs => required? word? fs "login"

def RepositoryInfo.ofJson? (v : Json) : Option RepositoryInfo := do
  let fs ← fields? ["owner", "name", "description", "html_url", "clone_url", "default_branch"] v
  some {
    owner := ← optional? loginOf? fs "owner"
    name := ← required? word? fs "name"
    description := ← optional? word? fs "description"
    webUrl := ← optional? word? fs "html_url"
    cloneUrl := ← optional? word? fs "clone_url"
    defaultBranch := ← optional? word? fs "default_branch" }

/-- The repository that was asked for as `owner` and `name`. -/
def RepositoryInfo.toRepository (i : RepositoryInfo) (host owner name : String) : Repository :=
  let web := i.webUrl.getD ("https://" ++ host ++ "/" ++ owner ++ "/" ++ name)
  { owner := i.owner.getD owner, name := i.name, description := i.description.filter (!·.isEmpty),
    url := web, cloneUrl := i.cloneUrl.getD (web ++ ".git") }

/-- What the server says of a branch: its name and its commit's id. -/
structure BranchInfo where
  name : String
  id : String

def BranchInfo.ofJson? (v : Json) : Option BranchInfo := do
  let fs ← fields? ["name", "commit"] v
  let name ← required? word? fs "name"
  let commit ← required? (fields? ["id"]) fs "commit"
  some ⟨name, ← required? word? commit "id"⟩

def entryOf? (v : Json) : Option Entry := do
  let fs ← fields? ["name", "path", "type", "size"] v
  let name ← required? word? fs "name"
  let path ← required? word? fs "path"
  let kind ← required? word? fs "type"
  let size ← optional? natural? fs "size"
  some ⟨name, path, .ofWord kind, size.getD 0⟩

structure FileInfo where
  path : Option String
  status : Option String
  additions : Option Nat
  deletions : Option Nat

def FileInfo.ofJson? (v : Json) : Option FileInfo := do
  let fs ← fields? ["filename", "status", "additions", "deletions"] v
  some {
    path := ← optional? word? fs "filename"
    status := ← optional? word? fs "status"
    additions := ← optional? natural? fs "additions"
    deletions := ← optional? natural? fs "deletions" }

structure CommitInfo where
  id : Option String
  message : Option String
  author : Option String
  date : Option String
  additions : Option Nat
  deletions : Option Nat
  total : Option Nat
  files : List FileInfo

def authorOf? (v : Json) : Option (Option String × Option String) := do
  let fs ← fields? ["name", "date"] v
  some (← optional? word? fs "name", ← optional? word? fs "date")

def innerOf? (v : Json) : Option (Option String × Option (Option String × Option String)) := do
  let fs ← fields? ["message", "author"] v
  some (← optional? word? fs "message", ← optional? authorOf? fs "author")

def statsOf? (v : Json) : Option (Option Nat × Option Nat × Option Nat) := do
  let fs ← fields? ["additions", "deletions", "total"] v
  some (← optional? natural? fs "additions", ← optional? natural? fs "deletions",
    ← optional? natural? fs "total")

def CommitInfo.ofJson? (v : Json) : Option CommitInfo := do
  let fs ← fields? ["sha", "commit", "stats", "files"] v
  let id ← optional? word? fs "sha"
  let inner ← optional? innerOf? fs "commit"
  let stats ← optional? statsOf? fs "stats"
  let files ← optional? (list? FileInfo.ofJson?) fs "files"
  let author := inner.bind (·.2)
  some {
    id, message := inner.bind (·.1), author := author.bind (·.1), date := author.bind (·.2),
    additions := stats.bind (·.1), deletions := stats.bind (·.2.1), total := stats.bind (·.2.2),
    files := files.getD [] }

/-- The time that a text says, or else the present. -/
def timeOf (now : Instant) (text : String) : Instant := (Instant.ofRfc3339? text.toList).getD now

namespace CommitInfo

def authorName (i : CommitInfo) : String := i.author.getD "unknown"

def time (i : CommitInfo) (now : Instant) : Instant := (i.date.map (timeOf now)).getD now

/-- The commit as a list shows it, with the first line of its message. -/
def toCommit (i : CommitInfo) (now : Instant) : Commit :=
  { id := i.id.getD "", message := String.ofList (firstLine (i.message.getD "").toList),
    author := i.authorName, date := i.time now }

/-- The changes to files, each with its patch; a patch is given out once. -/
def changes : List FileInfo → List (List Char × List Char) → List FileChange
  | [], _ => []
  | f :: fs, ps =>
    match f.path with
    | none => changes fs ps
    | some path =>
      { path, status := f.status.getD "modified", additions := f.additions.getD 0,
        deletions := f.deletions.getD 0,
        patch := (Diff.patchOf? path.toList ps).map String.ofList }
        :: changes fs (Diff.without path.toList ps)

/-- The commit with its changes, of which `diff` holds the patches. -/
def toDetail (i : CommitInfo) (now : Instant) (id : String) (diff : List Char) : CommitDetail :=
  { id := i.id.getD id, message := i.message.getD "", author := i.authorName, date := i.time now,
    additions := i.additions.getD 0, deletions := i.deletions.getD 0, total := i.total.getD 0,
    files := changes i.files (Diff.patches diff) }

end CommitInfo

/-- The number of all items that a reply to a page states. -/
def totalOf? (r : Reply) : Option Nat := do
  let text ← r.header? "x-total-count"
  if text.toList.all fun c => c = '\t' || (0x20 ≤ c.toNat && c.toNat < 0x7F) then
    Json.naturalOfSpelling? ((afterPrefix? ['+'] text.toList).getD text.toList)
  else none

/-! ### Queries -/

section

variable {m : Type → Type} [Monad m]

def directory (server : Server) (send : Transport m) (r : Repository) (path : String)
    (target : Option String) : m (Except Error (List Entry)) :=
  getJson server send (list? entryOf?) (server.directoryUrl r path target)

def repository (server : Server) (send : Transport m) (name : String) :
    m (Except Error Repository) := do
  match ownerAndName? name.toList with
  | none => pure (.error (.notFound name))
  | some (owner, repo) =>
    let owner := String.ofList owner
    let repo := String.ofList repo
    let url := server.url ("/repos/" ++ owner ++ "/" ++ repo)
    match ← getJson server send RepositoryInfo.ofJson? url with
    | .ok i => pure (.ok (i.toRepository server.host owner repo))
    | .error (.notFound _) => pure (.error (.notFound name))
    | .error e => pure (.error e)

/-- The readme of a repository; one without files has an empty readme. -/
def readme (server : Server) (send : Transport m) (r : Repository) : m (Except Error Readme) := do
  match ← directory server send r "" none with
  | .error (.notFound _) => pure (.ok {})
  | .error e => pure (.error e)
  | .ok entries =>
    match findReadme? entries with
    | none => pure (.ok {})
    | some e =>
      return (← getText server send (server.fileUrl r e.path)).map fun t =>
        ⟨String.ofList t, e.path⟩

def head (server : Server) (send : Transport m) (r : Repository) :
    m (Except Error Reference) := do
  match ← getJson server send RepositoryInfo.ofJson? (server.repositoryUrl r "") with
  | .error e => pure (.error e)
  | .ok i =>
    match i.defaultBranch.filter (!·.isEmpty) with
    | none => pure (.error (.unresolved (r.fullName ++ " has no default branch")))
    | some branch =>
      return (← getJson server send BranchInfo.ofJson? (server.branchUrl r branch)).map fun b =>
        .ofBranch b.name b.id

def commits (server : Server) (send : Transport m) (now : Instant) (r : Repository)
    (reference : Reference) (page : Nat) : m (Except Error (Page Commit)) :=
  return (← get server send (server.commitsUrl r reference page)).bind fun reply =>
    (decode (list? CommitInfo.ofJson?) reply).map fun is =>
      ⟨is.map fun i => i.toCommit now, totalOf? reply⟩

def commit (server : Server) (send : Transport m) (now : Instant) (r : Repository) (id : String) :
    m (Except Error CommitDetail) := do
  match ← getJson server send CommitInfo.ofJson? (server.commitUrl r id) with
  | .error e => pure (.error e)
  | .ok i =>
    match ← getText server send (server.diffUrl r id) with
    | .ok diff => pure (.ok (i.toDetail now id diff))
    | .error _ => pure (.ok (i.toDetail now id []))

def file (server : Server) (send : Transport m) (r : Repository) (reference : Reference)
    (path : String) : m (Except Error String) :=
  let url := server.fileUrl r path ++ "?ref="
    ++ String.ofList (Percent.encode reference.target.toList)
  return (← getText server send url).map String.ofList

def ask (server : Server) (send : Transport m) (now : Instant) : (q : Query) → m q.Outcome
  | .repository name => repository server send name
  | .readme r => readme server send r
  | .head r => head server send r
  | .commits r reference page => commits server send now r reference page
  | .commit r id => commit server send now r id
  | .directory r reference path => directory server send r path (some reference.target)
  | .file r reference path => file server send r reference path

def forge (server : Server) (send : Transport m) (now : Instant) : Forge m :=
  ⟨"Gitea", ask server send now⟩

end

end RepoBrowser.Gitea
