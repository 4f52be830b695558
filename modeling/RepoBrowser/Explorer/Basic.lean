import RepoBrowser.Pager.Basic

/-!
# The files of a reference

* `Explorer` — the entries of a directory, one of them selected, and a file while it is open;
* `start`, `reset`, `setSize` — from where directories are fetched, and where they are shown;
* `receive` — what a result from the forge does;
* `input` — what a key or the mouse does;
* `statusValue`, `statusInfo`, `help` — what the status line and the help say.

Every listing that arrives is kept, so that no directory is fetched again on the way back.
-/

namespace RepoBrowser

open Text

/-- Whether an entry may stand in front of another one: directories come first, then names in the
order of their characters. -/
def Entry.le (a b : Entry) : Bool :=
  if a.isDirectory = b.isDirectory then decide (a.name ≤ b.name) else a.isDirectory

def sortEntries (entries : List Entry) : List Entry := entries.mergeSort Entry.le

/-- A directory to go back to, with the selection and the window that it had. -/
structure Visit where
  path : String
  selected : Nat
  offset : Nat
  deriving DecidableEq, Repr

/-- The listings that have arrived, by their paths. -/
abbrev Listings := List (String × List Entry)

/-- The listings with one more, in place of any other of its path. -/
def Listings.insert (ls : Listings) (path : String) (entries : List Entry) : Listings :=
  (path, entries) :: ls.filter (·.1 ≠ path)

theorem Listings.lookup_filter {path other : String} (h : other ≠ path) (ls : Listings) :
    List.lookup other (ls.filter (·.1 ≠ path)) = ls.lookup other := by
  induction ls with
  | nil => rfl
  | cons l ls ih =>
    by_cases hl : l.1 = path
    · have hb : (other == l.1) = false := by rw [hl]; simpa using h
      rw [List.lookup_cons, hb, List.filter_cons_of_neg (by simpa using hl)]
      exact ih
    · rw [List.lookup_cons, List.filter_cons_of_pos (by simpa using hl), List.lookup_cons, ih]

theorem Listings.lookup_insert (ls : Listings) (path other : String) (entries : List Entry) :
    (ls.insert path entries).lookup other =
      if other = path then some entries else ls.lookup other := by
  unfold Listings.insert
  by_cases h : other = path
  · simp [h]
  · have hb : (other == path) = false := by simpa using h
    rw [if_neg h, List.lookup_cons, hb]
    exact Listings.lookup_filter h ls

/-- The directories of a reference as far as they have been listed. -/
structure Explorer where
  source : Option Source := none
  /-- The directory that is shown. -/
  path : String := ""
  entries : List Entry := []
  selected : Nat := 0
  /-- The first entry on screen. -/
  offset : Nat := 0
  /-- The directories above, the nearest first. -/
  history : List Visit := []
  listings : Listings := []
  /-- The path whose listing or content is waited for. -/
  pending : Option String := none
  error : Option String := none
  /-- The file that is shown in place of the entries. -/
  opened : Option String := none
  viewer : Pager := { placeholder := "Empty file." }
  width : Nat := 0
  height : Nat := 0
  deriving DecidableEq, Repr

namespace Explorer

def setSize (x : Explorer) (width height : Nat) : Explorer :=
  { x with
    width, height
    offset := follow x.offset x.selected height
    viewer := x.viewer.setSize width height }

def reset (x : Explorer) : Explorer := ({} : Explorer).setSize x.width x.height

def askListing (x : Explorer) (path : String) : Explorer × List Request :=
  match x.source with
  | none => (x, [])
  | some s => ({ x with pending := some path }, [.fetchListing s.ticket s.reference path])

def start (x : Explorer) (source : Source) : Explorer × List Request :=
  ({ x.reset with source := some source } : Explorer).askListing ""

def enterDirectory (x : Explorer) (path : String) : Explorer × List Request :=
  let x := { x with
    history := ⟨x.path, x.selected, x.offset⟩ :: x.history
    path, selected := 0, offset := 0, error := none }
  match x.listings.lookup path with
  | some entries => ({ x with entries, pending := none }, [])
  | none => ({ x with entries := [] } : Explorer).askListing path

def openFile (x : Explorer) (path : String) : Explorer × List Request :=
  match x.source with
  | none => (x, [])
  | some s =>
    ({ x with opened := some path, pending := some path, viewer := x.viewer.setLoading },
      [.fetchFile s.ticket s.reference path])

/-- Opens the selected entry; a submodule cannot be opened. -/
def openSelected (x : Explorer) : Explorer × List Request :=
  match x.entries[x.selected]? with
  | none => (x, [])
  | some e =>
    match e.kind with
    | .directory => x.enterDirectory e.path
    | .file | .symlink => x.openFile e.path
    | .submodule => (x, [])

def closeFile (x : Explorer) : Explorer := { x with opened := none, pending := none }

def leaveDirectory (x : Explorer) : Explorer :=
  match x.history with
  | [] => x
  | v :: rest =>
    { x with
      history := rest
      entries := (x.listings.lookup v.path).getD []
      path := v.path
      selected := v.selected
      offset := follow v.offset v.selected x.height
      pending := none
      error := none }

/-- Keeps a listing that was waited for, and shows it if it is the one of the directory shown. -/
def keepListing (x : Explorer) (path : String) (entries : List Entry) : Explorer :=
  let entries := sortEntries entries
  let x := { x with pending := none, listings := x.listings.insert path entries }
  if path = x.path then { x with entries, error := none } else x

/-- What a result does; one that is not waited for does nothing. -/
def receive (x : Explorer) : FilesMessage → Explorer
  | .listing path entries => if x.pending = some path then x.keepListing path entries else x
  | .file path content =>
    if x.pending = some path then
      { x with pending := none, viewer := x.viewer.setContent content path }
    else x
  | .failed path reason =>
    if x.pending = some path then
      match x.opened with
      | some _ => { x with pending := none, viewer := x.viewer.setError reason }
      | none => { x with pending := none, error := some reason }
    else x

def select (x : Explorer) (m : Move) : Explorer :=
  let selected := step x.selected x.entries.length m x.height
  { x with selected, offset := follow x.offset selected x.height }

def move (x : Explorer) : Move → Explorer × List Request
  | .enter => x.openSelected
  | .back => (x.leaveDirectory, [])
  | m => (x.select m, [])

def input (x : Explorer) (i : Input) : Explorer × List Request :=
  match x.opened with
  | some _ =>
    if i.isKeyBack then (x.closeFile, []) else ({ x with viewer := x.viewer.input i }, [])
  | none =>
    match Move.ofInput? i with
    | some m => x.move m
    | none => (x, [])

/-! ### What is said in the status line -/

def statusValue (x : Explorer) : String := shownPath (x.opened.getD x.path)

/-- Where among the entries the selection is, or how far the file has been scrolled. -/
def statusInfo (x : Explorer) : String :=
  match x.opened with
  | some _ => x.viewer.openInfo
  | none =>
    if x.entries.isEmpty then ""
    else toString (x.selected + 1) ++ "/" ++ toString x.entries.length

def help (x : Explorer) : List KeyHint :=
  match x.opened with
  | none => [⟨"↑/↓", "navigate"⟩, ⟨"enter", "open"⟩, ⟨"h", "parent"⟩]
  | some _ => [⟨"↑/↓", "scroll"⟩, ⟨"h", "back"⟩]

end Explorer

end RepoBrowser
