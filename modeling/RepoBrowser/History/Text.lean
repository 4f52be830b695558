import RepoBrowser.Repository

/-!
# A commit as text

* `statusLetter` — the letter for what was done to a file;
* `changeText` — a changed file with its patch;
* `commitText` — a commit: its id, author and date, its message, and the files that it changes.
-/

namespace RepoBrowser

open Text

/-- The letter for what was done to a file. -/
def statusLetter (status : String) : Char :=
  if status = "added" then 'A'
  else if status = "removed" || status = "deleted" then 'D'
  else if status = "modified" || status = "changed" then 'M'
  else if status = "renamed" then 'R'
  else '?'

def decimal (n : Nat) : List Char := Nat.toDigits 10 n

/-- A text that ends with a line break. -/
def withLineBreak (s : List Char) : List Char := if s.getLast? = some '\n' then s else s ++ ['\n']

/-- A patch below the names of the file that it is for. -/
def patchText (path patch : List Char) : List Char :=
  "--- a/".toList ++ path ++ "\n+++ b/".toList ++ path ++ '\n' :: withLineBreak patch

def changeText (f : FileChange) : List Char :=
  '\n' :: statusLetter f.status :: ' ' :: f.path.toList ++ " +".toList ++ decimal f.additions
    ++ " -".toList ++ decimal f.deletions ++ '\n' ::
      match f.patch with
      | some patch => patchText f.path.toList patch.toList
      | none => []

/-- A message with its lines set in. -/
def messageText (message : List Char) : List Char :=
  (lines message).flatMap fun l => "    ".toList ++ l ++ ['\n']

def commitText (d : CommitDetail) : List Char :=
  "commit ".toList ++ d.id.toList ++ "\nAuthor: ".toList ++ d.author.toList ++
    "\nDate:   ".toList ++ d.date.longDate ++ "\n\n".toList ++ messageText d.message.toList ++
    "\n ".toList ++ decimal d.files.length ++ " files changed, ".toList ++ decimal d.additions ++
    " insertions(+), ".toList ++ decimal d.deletions ++ " deletions(-)\n".toList ++
    d.files.flatMap changeText

end RepoBrowser
