import RepoBrowser.Text.Lines

/-!
# URLs of git remotes

A remote is written `git@host:owner/name`, or `https://`, `http://` or `ssh://` with a host and a
path.  This file provides, on lists of characters:

* `hostOf?` — the host of a remote;
* `repositoryOf?` — the owner and name at the end of its path, `.git` dropped.

`host?` and `repository?` are the same on strings.
-/

namespace RepoBrowser.Remote

open Text

/-- The text before the first `c`, all of it if there is none. -/
def before (c : Char) (s : List Char) : List Char := s.takeWhile (· != c)

/-- The text behind the last `c`, all of it if there is none. -/
def afterLast (c : Char) (s : List Char) : List Char :=
  match cutLast? c s with
  | some (_, r) => r
  | none => s

def schemeMark : List Char := [':', '/', '/']

/-- What stands between the first scheme mark and the next. -/
def afterScheme? (s : List Char) : Option (List Char) :=
  (cutAt? schemeMark s).map fun r =>
    match cutAt? schemeMark r.2 with
    | some (front, _) => front
    | none => r.2

/-- The forms of a remote: a user and a host with a colon before the path, a web address, or an
address of the secure shell. -/
inductive Form where
  | scp | web | ssh
  deriving DecidableEq

def form? (url : List Char) : Option Form :=
  if startsWith url "git@".toList then some .scp
  else if startsWith url "https://".toList || startsWith url "http://".toList then some .web
  else if startsWith url "ssh://".toList then some .ssh
  else none

def hostOf? (url : List Char) : Option (List Char) :=
  match form? url with
  | some .scp => (afterPrefix? "git@".toList url).map (before ':')
  | some .web => (afterScheme? url).map (before '/')
  | some .ssh => (afterScheme? url).map fun s => before ':' (before '/' (afterLast '@' s))
  | none => none

def pathOf? (url : List Char) : Option (List Char) :=
  match form? url with
  | some .scp => (afterPrefix? "git@".toList url).bind fun s => (cut? ':' s).map (·.2)
  | some .web | some .ssh => (afterScheme? url).bind fun s => (cut? '/' s).map (·.2)
  | none => none

/-- A path without the slashes and the `.git` it ends with. -/
def bare (path : List Char) : List Char :=
  let p := dropTrailing '/' path
  (beforeSuffix? ".git".toList p).getD p

/-- The owner and name at the end of a remote's path; the owner is all that stands before the last
slash. -/
def repositoryOf? (url : List Char) : Option (List Char) :=
  (pathOf? url).bind fun path =>
    match cutLast? '/' (bare path) with
    | some (owner, name) =>
      if name.isEmpty || owner.isEmpty then none else some (owner ++ '/' :: name)
    | none => none

def host? (url : String) : Option String := (hostOf? url.toList).map String.ofList

/-- The `owner/name` that a remote stands for. -/
def repository? (url : String) : Option String := (repositoryOf? url.toList).map String.ofList

end RepoBrowser.Remote
