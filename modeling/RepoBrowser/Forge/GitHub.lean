import RepoBrowser.Forge.Basic
import RepoBrowser.Http.Message
import RepoBrowser.Http.Url
import RepoBrowser.Json.Reader
import RepoBrowser.Json.Record
import RepoBrowser.Text.Base64

/-!
# GitHub

GitHub answers at `api.github.com`.  This file provides:

* `Account` — the token that opens it;
* `decodeContent` — the text of a file that a reply carries in Base64;
* `routeIsSendable`, `send`, `get` — the routes that can be asked for, and a request that is
  repeated when the server is in trouble;
* `RepositoryInfo`, `commitOf?`, `entryOf?`, `detailOf` — what the replies hold;
* `ask`, `forge` — the answers to queries.

Repositories and lists of commits are read strictly, everything else by looking members up.
-/

namespace RepoBrowser.GitHub

open Text Json.Record Http
open Time (Instant)

/-- The token that opens the interface. -/
structure Account where
  token : String
  deriving DecidableEq, Repr

def host : String := "api.github.com"

/-- Why a request has no result: what was asked for is missing, or anything else. -/
inductive Failure where
  | missing
  | other (failure : ApiFailure)
  deriving DecidableEq

/-- The error of a failure, when what is missing is called `name`. -/
def Failure.errorFor (name : String) : Failure → Error
  | .missing => .notFound name
  | .other f => .api f

/-- The error of a failure that does not single out what is missing. -/
def Failure.error : Failure → Error
  | .missing => .api .refused
  | .other f => .api f

/-! ### Routes -/

def repositoryRoute (owner name : String) : String := "/repos/" ++ owner ++ "/" ++ name

def readmeRoute (r : Repository) : String := repositoryRoute r.owner r.name ++ "/readme"

def branchRoute (r : Repository) (branch : String) : String :=
  repositoryRoute r.owner r.name ++ "/branches/" ++ String.ofList (Percent.encode branch.toList)

def commitRoute (r : Repository) (id : String) : String :=
  repositoryRoute r.owner r.name ++ "/commits/" ++ id

def contentsRoute (r : Repository) (path : String) : String :=
  let steps := encodePath path.toList
  repositoryRoute r.owner r.name ++ "/contents"
    ++ (if steps.isEmpty then "" else "/" ++ String.ofList steps)

/-- A value as a form carries it: a blank becomes `+`, and letters, digits and `*-._` stand for
themselves. -/
def formValue (s : String) : String :=
  String.ofList (s.toList.flatMap fun c =>
    if c = ' ' then ['+']
    else if c = '*' then ['*']
    else if c = '~' then Percent.escape 0x7E
    else Percent.encode [c])

def contentsAt (r : Repository) (reference : Reference) (path : String) : String :=
  contentsRoute r path ++ "?ref=" ++ formValue reference.target

def commitsRoute (r : Repository) (reference : Reference) (page : Nat) : String :=
  repositoryRoute r.owner r.name ++ "/commits?sha=" ++ formValue reference.target
    ++ "&per_page=" ++ toString pageSize ++ "&page=" ++ toString page

def isPathCharacter (c : Char) : Bool :=
  let n := c.toNat
  n = 0x21 || n = 0x22 || (0x24 ≤ n && n ≤ 0x3B) || n = 0x3D || (0x40 ≤ n && n ≤ 0x5F)
    || (0x61 ≤ n && n ≤ 0x7E) || 0x7F ≤ n

def isQueryCharacter (c : Char) : Bool :=
  let n := c.toNat
  n = 0x21 || (0x24 ≤ n && n ≤ 0x3B) || n = 0x3D || 0x3F ≤ n

/-- What is sent of a route: all in front of a `#`. -/
def sentPart (route : String) : List Char := route.toList.takeWhile (· ≠ '#')

def routeIsSendable (route : String) : Bool :=
  let part := sentPart route
  (Utf8.encode route.toList).length < 65535
    && (part.takeWhile (· ≠ '?')).all isPathCharacter
    && ((part.dropWhile (· ≠ '?')).drop 1).all isQueryCharacter

/-! ### Requests -/

/-- The message of a refusal in the interface's own form. -/
def refusal? (v : Json) : Option String := do
  let fs ← fields? ["documentation_url", "errors", "message"] v
  let _ ← optional? word? fs "documentation_url"
  let _ ← optional? (fun e => e.items?) fs "errors"
  required? word? fs "message"

def bodyOf? (r : Reply) : Option Json :=
  if r.complete then (Utf8.decode? r.body).bind Json.parse? else none

/-- What a reply brings, read as JSON. -/
def resultOf {α : Type} (read : Json → Except ApiFailure α) (r : Reply) :
    Except Failure α :=
  match bodyOf? r with
  | none => .error (.other .exchange)
  | some v =>
    if r.isSuccess then (read v).mapError .other
    else
      match refusal? v with
      | none => .error (.other .exchange)
      | some message => .error (if message = "Not Found" then .missing else .other .refused)

def repetitions : Nat := 3

/-- Whether a request is to be repeated. -/
def isTrouble : Exchange → Bool
  | .reply r => r.status = 429 || (500 ≤ r.status && r.status < 600)
  | .dropped | .unreachable => true

section

variable {m : Type → Type} [Monad m]

/-- Sends a request, again while the server is in trouble, at most `n` times more. -/
def send (transport : Transport m) (request : Http.Request) : Nat → m Exchange
  | 0 => transport request
  | n + 1 => do
    let e ← transport request
    if isTrouble e then send transport request n else pure e

/-- What is at a route, read as JSON. -/
def get {α : Type} (account : Account) (transport : Transport m)
    (read : Json → Except ApiFailure α) (route : String) : m (Except Failure α) :=
  if !routeIsSendable route then pure (.error (.other .badRoute))
  else do
    let request : Http.Request := ⟨host, String.ofList (sentPart route), "Bearer " ++ account.token⟩
    match ← send transport request repetitions with
    | .unreachable | .dropped => pure (.error (.other .exchange))
    | .reply r => pure (resultOf read r)

def getJson (account : Account) (transport : Transport m) (route : String) :
    m (Except Failure Json) := get account transport .ok route

end

/-! ### Replies -/

def decodeContent (body : Json) : Except Error (List Char) :=
  if body.textAt? ["encoding"] = some "none" then .ok "File too large to display.".toList
  else
    let encoded := ((body.textAt? ["content"]).getD "").toList.filter (!isBlank ·)
    match Base64.decode (Utf8.encode encoded) with
    | .ok bytes => .ok (displayText bytes)
    | .error e => .error (.api (.badContent e))

/-- Reads an address, which is one of the secure web. -/
def address? (v : Json) : Option String :=
  v.text?.bind fun s => (Url.parse? s.toList).map fun u => String.ofList u.text

def truth? : Json → Option Bool
  | .bool b => some b
  | _ => none

def time? (v : Json) : Option Instant := v.text?.bind fun s => Instant.ofRfc3339? s.toList

def userAddresses : List String :=
  ["avatar_url", "url", "html_url", "followers_url", "following_url", "gists_url", "starred_url",
    "subscriptions_url", "organizations_url", "repos_url", "events_url", "received_events_url"]

def loginOf? (v : Json) : Option String := do
  let fs ← fields? (["login", "id", "node_id", "gravatar_id", "type", "site_admin"]
    ++ userAddresses) v
  let login ← required? word? fs "login"
  let _ ← required? natural? fs "id"
  let _ ← ["node_id", "gravatar_id", "type"].mapM (required? word? fs)
  let _ ← required? truth? fs "site_admin"
  let _ ← userAddresses.mapM (required? address? fs)
  some login

structure RepositoryInfo where
  owner : Option String
  name : String
  description : Option String
  webUrl : Option String
  cloneUrl : Option String
  defaultBranch : Option String

def RepositoryInfo.ofJson? (v : Json) : Option RepositoryInfo := do
  let fs ← fields? ["id", "name", "url", "owner", "description", "html_url", "clone_url",
    "default_branch"] v
  let _ ← required? natural? fs "id"
  let _ ← required? address? fs "url"
  some {
    owner := ← optional? loginOf? fs "owner"
    name := ← required? word? fs "name"
    description := ← optional? word? fs "description"
    webUrl := ← optional? address? fs "html_url"
    cloneUrl := ← optional? address? fs "clone_url"
    defaultBranch := ← optional? word? fs "default_branch" }

/-- The repository that was asked for as `owner` and `name`. -/
def RepositoryInfo.toRepository (i : RepositoryInfo) (owner name : String) : Repository :=
  let web := i.webUrl.getD ("https://github.com/" ++ owner ++ "/" ++ name)
  { owner := i.owner.getD owner, name := i.name, description := i.description.filter (!·.isEmpty),
    url := web, cloneUrl := i.cloneUrl.getD (web ++ ".git") }

/-- A reading that fails as an unusable reply. -/
def orExchange {α : Type} : Option α → Except ApiFailure α
  | some a => .ok a
  | none => .error .exchange

def authorOf? (v : Json) : Option (String × Option Instant) := do
  let fs ← fields? ["name", "email", "date"] v
  let _ ← required? word? fs "email"
  some (← required? word? fs "name", ← optional? time? fs "date")

def innerOf? (v : Json) : Option (String × Option (String × Option Instant)) := do
  let fs ← fields? ["url", "message", "comment_count", "tree", "author", "committer"] v
  let _ ← required? address? fs "url"
  let _ ← required? natural? fs "comment_count"
  let _ ← fs "tree"
  let _ ← optional? authorOf? fs "committer"
  some (← required? word? fs "message", ← optional? authorOf? fs "author")

def commitOf? (now : Instant) (v : Json) : Option Commit := do
  let fs ← fields? ["url", "sha", "node_id", "html_url", "comments_url", "parents", "commit",
    "author", "committer"] v
  let _ ← ["url", "html_url", "comments_url"].mapM (required? address? fs)
  let _ ← required? word? fs "node_id"
  let _ ← required? (fun p => p.items?) fs "parents"
  let login ← optional? loginOf? fs "author"
  let _ ← optional? loginOf? fs "committer"
  let inner ← required? innerOf? fs "commit"
  some {
    id := ← required? word? fs "sha"
    message := String.ofList (firstLine inner.1.toList)
    author := (login.or (inner.2.map (·.1))).getD "unknown"
    date := (inner.2.bind (·.2)).getD now }

/-- Reads a page of commits: a list, or an object with the list as `items`. -/
def pageOf (now : Instant) (v : Json) : Except ApiFailure (Page Commit) :=
  match v with
  | .array _ => (orExchange (list? (commitOf? now) v)).map fun cs => ⟨cs, none⟩
  | _ =>
    match v.get? "items" with
    | none => .error .notPage
    | some items => (orExchange (list? (commitOf? now) items)).map fun cs =>
      ⟨cs, (v.get? "total_count").bind Json.natural?⟩

/-- Reads a directory's entry; what lacks a name, a path or a kind is none. -/
def entryOf? (v : Json) : Option Entry := do
  let name ← v.textAt? ["name"]
  let path ← v.textAt? ["path"]
  let kind ← v.textAt? ["type"]
  some ⟨name, path, .ofWord kind, v.naturalAt "size"⟩

def changeOf? (v : Json) : Option FileChange := do
  let path ← v.textAt? ["filename"]
  let status ← v.textAt? ["status"]
  some ⟨path, status, v.naturalAt "additions", v.naturalAt "deletions", v.textAt? ["patch"]⟩

/-- Reads a commit with its changes; what is missing gets a default. -/
def detailOf (now : Instant) (id : String) (v : Json) : CommitDetail :=
  let stats := (v.get? "stats").getD .null
  { id
    message := (v.textAt? ["commit", "message"]).getD ""
    author := ((v.textAt? ["author", "login"]).or (v.textAt? ["commit", "author", "name"])).getD
      "unknown"
    date := ((v.textAt? ["commit", "author", "date"]).bind fun s =>
      Instant.ofRfc3339? s.toList).getD now
    additions := stats.naturalAt "additions"
    deletions := stats.naturalAt "deletions"
    total := stats.naturalAt "total"
    files := (((v.get? "files").bind (·.items?)).getD []).filterMap changeOf? }

/-! ### Queries -/

section

variable {m : Type → Type} [Monad m]

def repositoryInfo (account : Account) (transport : Transport m) (owner name : String) :
    m (Except Failure RepositoryInfo) :=
  get account transport (fun v => orExchange (RepositoryInfo.ofJson? v))
    (repositoryRoute owner name)

def repository (account : Account) (transport : Transport m) (name : String) :
    m (Except Error Repository) := do
  match ownerAndName? name.toList with
  | none => pure (.error (.notFound name))
  | some (owner, repo) =>
    let owner := String.ofList owner
    let repo := String.ofList repo
    return ((← repositoryInfo account transport owner repo).mapError (Failure.errorFor name)).map
      fun i => i.toRepository owner repo

/-- The readme of a repository; where there is none it is empty. -/
def readme (account : Account) (transport : Transport m) (r : Repository) :
    m (Except Error Readme) := do
  match ← getJson account transport (readmeRoute r) with
  | .error .missing => pure (.ok {})
  | .error (.other f) => pure (.error (.api f))
  | .ok body =>
    pure ((decodeContent body).map fun t =>
      ⟨String.ofList t, (body.textAt? ["path"]).getD "README.md"⟩)

def head (account : Account) (transport : Transport m) (r : Repository) :
    m (Except Error Reference) := do
  match ← repositoryInfo account transport r.owner r.name with
  | .error f => pure (.error f.error)
  | .ok i =>
    match i.defaultBranch with
    | none => pure (.error (.unresolved (r.fullName ++ " has no default branch")))
    | some branch =>
      let route := branchRoute r branch
      match ← getJson account transport route with
      | .error f => pure (.error (f.errorFor route))
      | .ok body =>
        match body.textAt? ["commit", "sha"] with
        | none => pure (.error (.unresolved ("branch " ++ branch ++ " has no head commit")))
        | some id => pure (.ok (.ofBranch branch id))

def commits (account : Account) (transport : Transport m) (now : Instant) (r : Repository)
    (reference : Reference) (page : Nat) : m (Except Error (Page Commit)) :=
  return (← get account transport (pageOf now) (commitsRoute r reference page)).mapError
    Failure.error

def commit (account : Account) (transport : Transport m) (now : Instant) (r : Repository)
    (id : String) : m (Except Error CommitDetail) :=
  let route := commitRoute r id
  return ((← getJson account transport route).mapError (Failure.errorFor route)).map
    (detailOf now id)

def directory (account : Account) (transport : Transport m) (r : Repository)
    (reference : Reference) (path : String) : m (Except Error (List Entry)) := do
  match ← getJson account transport (contentsAt r reference path) with
  | .error f => pure (.error (f.errorFor (contentsRoute r path)))
  | .ok body =>
    match body.items? with
    | none => pure (.error (.api (.notDirectory path)))
    | some items => pure (.ok (items.filterMap entryOf?))

def file (account : Account) (transport : Transport m) (r : Repository) (reference : Reference)
    (path : String) : m (Except Error String) := do
  match ← getJson account transport (contentsAt r reference path) with
  | .error f => pure (.error (f.errorFor (contentsRoute r path)))
  | .ok body => pure ((decodeContent body).map String.ofList)

def ask (account : Account) (transport : Transport m) (now : Instant) : (q : Query) → m q.Outcome
  | .repository name => repository account transport name
  | .readme r => readme account transport r
  | .head r => head account transport r
  | .commits r reference page => commits account transport now r reference page
  | .commit r id => commit account transport now r id
  | .directory r reference path => directory account transport r reference path
  | .file r reference path => file account transport r reference path

def forge (account : Account) (transport : Transport m) (now : Instant) : Forge m :=
  ⟨"GitHub", ask account transport now⟩

end

end RepoBrowser.GitHub
