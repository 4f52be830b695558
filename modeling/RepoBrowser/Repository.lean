import RepoBrowser.Text.Lines
import RepoBrowser.Time.Instant

/-!
# Repositories and what they hold

* `Repository`, `Headline` — a repository on a forge, and what the header shows of it;
* `Reference` — a name together with the commit it points at;
* `Readme`, `Entry`, `EntryKind` — a readme and the entries of a directory;
* `Commit`, `CommitDetail`, `FileChange`, `Page` — history, a page at a time.

`cutAfterByte?` takes the first bytes of a text when they end between two characters;
`Commit.shortId?` is the abbreviation of a commit's id by that rule.
-/

namespace RepoBrowser

open Time (Instant)

structure Repository where
  owner : String
  name : String
  description : Option String
  url : String
  cloneUrl : String
  deriving DecidableEq, Repr, Inhabited

def Repository.fullName (r : Repository) : String := r.owner ++ "/" ++ r.name

/-- What the header shows of a selection. -/
structure Headline where
  title : String
  url : String
  description : String
  deriving DecidableEq, Repr, Inhabited

def Repository.headline (r : Repository) : Headline :=
  ⟨r.fullName, r.url, r.description.getD ""⟩

/-- A name for a commit, and the commit's id. -/
structure Reference where
  name : String
  target : String
  deriving DecidableEq, Repr, Inhabited

namespace Reference

def ofBranch (branch target : String) : Reference := ⟨"refs/heads/" ++ branch, target⟩

/-- The directories that names of references live in. -/
def directories : List String := ["refs/heads/", "refs/tags/", "refs/remotes/"]

/-- The name without the directory it lives in. -/
def short (r : Reference) : String :=
  match directories.findSome? fun d => Text.afterPrefix? d.toList r.name.toList with
  | some s => String.ofList s
  | none => r.name

end Reference

structure Readme where
  content : String := ""
  path : String := ""
  deriving DecidableEq, Repr, Inhabited

inductive EntryKind where
  | directory | file | symlink | submodule
  deriving DecidableEq, Repr, Inhabited

/-- The kind that a forge's word stands for; any unknown word is a file. -/
def EntryKind.ofWord (word : String) : EntryKind :=
  if word = "dir" then .directory
  else if word = "symlink" then .symlink
  else if word = "submodule" then .submodule
  else .file

structure Entry where
  name : String
  path : String
  kind : EntryKind
  size : Nat
  deriving DecidableEq, Repr, Inhabited

def Entry.isDirectory (e : Entry) : Bool := e.kind = .directory

structure Commit where
  id : String
  message : String
  author : String
  date : Instant
  deriving DecidableEq, Repr

/-- The first characters of a text that take `n` bytes in UTF-8, if some number of characters
does; all of a text that takes no more. -/
def cutAfterByte? : Nat → List Char → Option (List Char)
  | _, [] => some []
  | 0, _ :: _ => some []
  | n, c :: s => if c.utf8Size ≤ n then (cutAfterByte? (n - c.utf8Size) s).map (c :: ·) else none

def shortIdBytes : Nat := 7

/-- An id cut to its first seven bytes, unless a character would be split. -/
def shortId? (id : String) : Option (List Char) := cutAfterByte? shortIdBytes id.toList

def Commit.shortId? (c : Commit) : Option (List Char) := RepoBrowser.shortId? c.id

structure FileChange where
  path : String
  status : String
  additions : Nat
  deletions : Nat
  patch : Option String
  deriving DecidableEq, Repr

structure CommitDetail where
  id : String
  message : String
  author : String
  date : Instant
  additions : Nat
  deletions : Nat
  total : Nat
  files : List FileChange
  deriving DecidableEq, Repr

/-- A page of a list, with the number of all items where it is known. -/
structure Page (α : Type) where
  items : List α
  total : Option Nat
  deriving DecidableEq, Repr

end RepoBrowser
