import RepoBrowser.Text.Lines

/-!
# Unified diffs, file by file

A diff of several files has a header line for each of them, starting with `diff --git `.  What is
kept of a file's section is its patch: the lines from the first that starts with `@@` on.

* `headerPath?` — the path that a header line names, which stands behind its last ` b/`;
* `Section` — the path and the patch of a file under construction;
* `sections` — the sections of a diff in order;
* `patches` — the path and the patch of each section;
* `patchOf?` — the patch of a path, the last one if there are several.

-/

namespace RepoBrowser.Diff

open Text

def headerMark : List Char := "diff --git ".toList

def hunkMark : List Char := "@@".toList

def newPathMark : List Char := " b/".toList

/-- The path that a header line names: what stands behind its last ` b/`, or else all of it. -/
def headerPath? (line : List Char) : Option (List Char) :=
  (afterPrefix? headerMark line).map fun header =>
    match cutLastAt? newPathMark header with
    | some (_, path) => path
    | none => header

/-- A file's section: its path and the lines of its patch so far, in reverse. -/
structure Section where
  path : List Char
  back : List (List Char)
  deriving DecidableEq, Repr

/-- The section with one more line: a line counts once a hunk has begun. -/
def Section.add (s : Section) (line : List Char) : Section :=
  if startsWith line hunkMark || !s.back.isEmpty then { s with back := line :: s.back } else s

def Section.patch (s : Section) : List Char := joinWith ['\n'] s.back.reverse

/-- The sections of lines behind those that an open section has taken. -/
def sectionsFrom : Option Section → List (List Char) → List Section
  | none, [] => []
  | some s, [] => [s]
  | current, line :: rest =>
    match headerPath? line, current with
    | some path, none => sectionsFrom (some ⟨path, []⟩) rest
    | some path, some s => s :: sectionsFrom (some ⟨path, []⟩) rest
    | none, none => sectionsFrom none rest
    | none, some s => sectionsFrom (some (s.add line)) rest

def sections (diff : List Char) : List Section := sectionsFrom none (lines diff)

/-- The paths and patches of a diff, in the order of its sections. -/
def patches (diff : List Char) : List (List Char × List Char) :=
  (sections diff).map fun s => (s.path, s.patch)

/-- The patch of a path: that of the last section of the path. -/
def patchOf? (path : List Char) (ps : List (List Char × List Char)) : Option (List Char) :=
  ps.reverse.lookup path

/-- The paths and patches with those of one path taken out. -/
def without (path : List Char) (ps : List (List Char × List Char)) :
    List (List Char × List Char) := ps.filter fun p => p.1 ≠ path

end RepoBrowser.Diff
