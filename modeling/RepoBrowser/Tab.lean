/-!
# Tabs

* `Tab` — what can be shown of a repository, in the order of display;
* `Tab.next`, `Tab.previous` — the neighbours of a tab, in a circle.
-/

namespace RepoBrowser

/-- What can be shown of a repository. -/
inductive Tab where
  | readme | files | commits | branches | tags
  deriving DecidableEq, Repr, Inhabited

namespace Tab

def all : List Tab := [.readme, .files, .commits, .branches, .tags]

/-- The place of a tab, from zero. -/
def index : Tab → Nat
  | .readme => 0
  | .files => 1
  | .commits => 2
  | .branches => 3
  | .tags => 4

def title : Tab → String
  | .readme => "Readme"
  | .files => "Files"
  | .commits => "Commits"
  | .branches => "Branches"
  | .tags => "Tags"

/-- The tab behind a tab; the first one is behind the last. -/
def next : Tab → Tab
  | .readme => .files
  | .files => .commits
  | .commits => .branches
  | .branches => .tags
  | .tags => .readme

/-- The tab in front of a tab; the last one is in front of the first. -/
def previous : Tab → Tab
  | .readme => .tags
  | .files => .readme
  | .commits => .files
  | .branches => .commits
  | .tags => .branches

theorem previous_next (t : Tab) : t.next.previous = t := by cases t <;> rfl

theorem next_previous (t : Tab) : t.previous.next = t := by cases t <;> rfl

theorem all_index (t : Tab) : all[t.index]? = some t := by cases t <;> rfl

end Tab

end RepoBrowser
