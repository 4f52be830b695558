import RepoBrowser.Error
import RepoBrowser.Repository
import RepoBrowser.Text.Blank
import RepoBrowser.Text.Lines
import RepoBrowser.Text.Percent

/-!
# Forges: where repositories come from

* `Query`, `Query.Answer` — what a forge can be asked, and the type of the answer;
* `Forge` — a forge, as a function from queries to answers or errors in a monad that performs
  them;
* `findReadme?` — the readme among the entries of a directory;
* `displayText` — the text of a file's bytes, or a notice in its place;
* `encodePath` — a path with each of its steps percent-encoded;
* `ownerAndName?` — a full name divided.
-/

namespace RepoBrowser

open Text

/-- What a forge can be asked. -/
inductive Query where
  | repository (name : String)
  | readme (repository : Repository)
  | head (repository : Repository)
  | commits (repository : Repository) (reference : Reference) (page : Nat)
  | commit (repository : Repository) (id : String)
  | directory (repository : Repository) (reference : Reference) (path : String)
  | file (repository : Repository) (reference : Reference) (path : String)
  deriving DecidableEq

abbrev Query.Answer : Query → Type
  | .repository _ => Repository
  | .readme _ => Readme
  | .head _ => Reference
  | .commits .. => Page Commit
  | .commit .. => CommitDetail
  | .directory .. => List Entry
  | .file .. => String

abbrev Query.Outcome (q : Query) : Type := Except Error q.Answer

/-- A forge: its name and how it answers. -/
structure Forge (m : Type → Type) where
  name : String
  ask : (q : Query) → m q.Outcome

def pageSize : Nat := 50

/-- The names a readme can have, the preferred first. -/
def readmeNames : List String :=
  ["readme.md", "readme.markdown", "readme.rst", "readme.txt", "readme"]

/-- Equality of names without regard to the case of ASCII letters. -/
def sameName (a b : String) : Bool := a.toList.map Char.toLower == b.toList.map Char.toLower

/-- The readme among the entries of a directory: the first entry of the first name there is. -/
def findReadme? (entries : List Entry) : Option Entry :=
  readmeNames.findSome? fun name => entries.find? fun e => !e.isDirectory && sameName e.name name

/-- The text of a file: a notice if it holds a zero byte, else its bytes read as UTF-8. -/
def displayText (bytes : List UInt8) : List Char :=
  if bytes.contains 0 then
    "Binary file (".toList ++ Nat.toDigits 10 bytes.length ++ " bytes) not shown.".toList
  else Utf8.decodeLossy bytes

def pathSteps (path : List Char) : List (List Char) := (pieces '/' path).filter (!·.isEmpty)

/-- A path with each of its steps percent-encoded. -/
def encodePath (path : List Char) : List Char :=
  joinWith ['/'] ((pathSteps path).map Percent.encode)

/-- A full name divided into owner and name, neither empty, blanks at the ends apart. -/
def ownerAndName? (name : List Char) : Option (List Char × List Char) :=
  (cut? '/' (trim name)).bind fun (owner, repository) =>
    if owner.isEmpty || repository.isEmpty || repository.contains '/' then none
    else some (owner, repository)

end RepoBrowser
