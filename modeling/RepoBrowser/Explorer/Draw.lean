import RepoBrowser.Explorer.Basic
import RepoBrowser.Screen.Rows
import RepoBrowser.Text.Column

/-!
# Drawing the files

A row of the list has the sign of the entry's kind, the name, and the size of a file.

* `sizeText` — a number of bytes in the unit that suits it;
* `entrySpans` — the row of an entry;
* `Explorer.draw` — the list, or the file that is open.
-/

namespace RepoBrowser

open Text Number

/-- A number of bytes in bytes or in units of 1024, 1024² or 1024³ bytes, with one place. -/
def sizeText (bytes : Nat) : List Char :=
  let x := Binary.ofNat bytes
  if bytes < 1024 then Nat.toDigits 10 bytes ++ " B".toList
  else if x.num < Nat.pow 2 (20 + x.shift) then (x.halved 10).fixed 1 ++ " KiB".toList
  else if x.num < Nat.pow 2 (30 + x.shift) then (x.halved 20).fixed 1 ++ " MiB".toList
  else (x.halved 30).fixed 1 ++ " GiB".toList

def EntryKind.sign : EntryKind → Char
  | .directory => '▸'
  | .symlink => '↪'
  | .submodule => '◆'
  | .file => ' '

def EntryKind.nameStyle : EntryKind → Style
  | .directory => { foreground := some .blue, bold := true }
  | .symlink => .inColour .cyan
  | .submodule => .inColour .magenta
  | .file => .plain

namespace Explorer

/-- The columns of all but the name: the sign and the size with what stands between them. -/
def fixedColumns : Nat := 13

/-- The columns that are left to the name, never less than ten. -/
def nameColumns (w : Nat) : Nat := max (w - fixedColumns) 10

def signColumns : Nat := 2

def sizeColumns : Nat := 9

/-- The name of an entry as it is shown: that of a directory ends with a slash. -/
def shownName (e : Entry) : List Char :=
  if e.isDirectory then e.name.toList ++ ['/'] else e.name.toList

/-- The size of an entry as it is shown: only files have one. -/
def shownSize (e : Entry) : List Char :=
  match e.kind with
  | .file => sizeText e.size
  | _ => []

def nameStyle (isSelected : Bool) (e : Entry) : Style :=
  if isSelected then { e.kind.nameStyle with foreground := some .yellow, bold := true }
  else e.kind.nameStyle

def entrySpans (w : Nat) (isSelected : Bool) (e : Entry) : List Span :=
  [⟨padEnd signColumns [e.kind.sign], .inColour .darkGray⟩,
   ⟨[' '], .plain⟩,
   ⟨padEnd (nameColumns w) (shorten (nameColumns w) (shownName e)), nameStyle isSelected e⟩,
   ⟨[' '], .plain⟩,
   ⟨padStart sizeColumns (shownSize e), .inColour .darkGray⟩]

/-- What is shown in place of the list when there are no entries. -/
def emptyNotice (x : Explorer) : List Char × Colour :=
  if x.pending.isSome then ("Loading files...".toList, .yellow) else ("No files".toList, .gray)

def rows (x : Explorer) (w : Nat) : List (List Span) :=
  x.entries.mapIdx fun i e => entrySpans w (i = x.selected) e

def draw (x : Explorer) (width height : Nat) : Screen :=
  match x.opened, x.error with
  | some _, _ => x.viewer.draw width height
  | none, some reason => plainParagraph width height (.inColour .red) (Pager.errorText reason)
  | none, none =>
    if x.entries.isEmpty then
      plainParagraph width height (.inColour x.emptyNotice.2) x.emptyNotice.1
    else listOfRows width height x.offset x.selected (x.rows width)

end Explorer

end RepoBrowser
