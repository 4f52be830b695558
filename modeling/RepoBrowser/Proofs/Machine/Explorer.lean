import RepoBrowser.Proofs.Browser.Scroll
import RepoBrowser.Proofs.Machine.Pager

/-!
# The files in machine words

* `setSizeInWords`, `startInWords`, `inputInWords` — the operations that add anything up; a result
  from the forge does not;
* `statusInfoInWords` — what the status line says of the files;
* `Explorer.InPlace` — selections and windows, those to go back to among them, are places that a
  machine can hold;
* `Explorer.Moderate`, `inputInWords_eq` and its like — an explorer in which nothing exceeds a word
  does what it is meant to.
-/

namespace RepoBrowser.Explorer

open Text

/-! ### Operations -/

/-- Changes the size. -/
def setSizeInWords (x : Explorer) (width height : Nat) : Except Halt Explorer := do
  let offset ← followInWords x.offset x.selected height
  return { x with width, height, offset, viewer := x.viewer.setSize width height }

/-- Forgets all but the size. -/
def resetInWords (x : Explorer) : Except Halt Explorer :=
  ({} : Explorer).setSizeInWords x.width x.height

/-- Begins with the root of a source. -/
def startInWords (x : Explorer) (source : Source) : Except Halt (Explorer × List Request) := do
  let x ← x.resetInWords
  return ({ x with source := some source } : Explorer).askListing ""

/-- Goes back to the directory above. -/
def leaveDirectoryInWords (x : Explorer) : Except Halt Explorer :=
  match x.history with
  | [] => .ok x
  | v :: rest => do
    let offset ← followInWords v.offset v.selected x.height
    return { x with
      history := rest
      entries := (x.listings.lookup v.path).getD []
      path := v.path
      selected := v.selected
      offset
      pending := none
      error := none }

/-- Moves the selection. -/
def selectInWords (x : Explorer) (m : Move) : Except Halt Explorer := do
  let selected ← stepInWords x.selected x.entries.length m x.height
  let offset ← followInWords x.offset selected x.height
  return { x with selected, offset }

/-- What a move does among the entries. -/
def moveInWords (x : Explorer) : Move → Except Halt (Explorer × List Request)
  | .enter => .ok x.openSelected
  | .back => do
    let x ← x.leaveDirectoryInWords
    return (x, [])
  | m => do
    let x ← x.selectInWords m
    return (x, [])

/-- What an input does. -/
def inputInWords (x : Explorer) (i : Input) : Except Halt (Explorer × List Request) :=
  match x.opened with
  | some _ =>
    if i.isKeyBack then .ok (x.closeFile, [])
    else do
      let viewer ← x.viewer.inputInWords i
      return ({ x with viewer }, [])
  | none =>
    match Move.ofInput? i with
    | some m => x.moveInWords m
    | none => .ok (x, [])

/-- Where among the entries the selection is, or how far the file has been scrolled. -/
def statusInfoInWords (x : Explorer) : Except Halt String :=
  match x.opened with
  | some _ => .ok x.viewer.openInfo
  | none =>
    if x.entries.isEmpty then .ok ""
    else do
      let place ← Word.bits64.add x.selected 1
      return toString place ++ "/" ++ toString x.entries.length

/-! ### Within words -/

/-- Selections and windows are at places that a machine can hold. -/
structure InPlace (x : Explorer) : Prop where
  selected : x.selected ≤ memory
  offset : x.offset ≤ memory
  visits : ∀ v ∈ x.history, v.selected ≤ memory ∧ v.offset ≤ memory

/-- Nothing exceeds a word. -/
structure Moderate (x : Explorer) : Prop where
  inPlace : x.InPlace
  low : x.height ≤ maxExtent
  fits : x.entries.length ≤ memory
  viewer : x.viewer.Arises
  viewerLow : x.viewer.height ≤ maxExtent
  viewerFits : x.viewer.lines.length ≤ memory

variable {x y : Explorer} {m : FilesMessage} {i : Input} {out : Explorer × List Request}

theorem setSizeInWords_eq (p : x.InPlace) (width : Nat) {height : Nat}
    (low : height ≤ maxExtent) : x.setSizeInWords width height = .ok (x.setSize width height) := by
  unfold setSizeInWords
  rw [followInWords_eq p.offset p.selected low]
  rfl

theorem inPlace_new : InPlace {} :=
  ⟨Nat.zero_le _, Nat.zero_le _, fun _ visit => absurd visit List.not_mem_nil⟩

theorem resetInWords_eq (low : x.height ≤ maxExtent) : x.resetInWords = .ok x.reset :=
  setSizeInWords_eq inPlace_new x.width low

theorem startInWords_eq (low : x.height ≤ maxExtent) (source : Source) :
    x.startInWords source = .ok (x.start source) := by
  unfold startInWords
  rw [resetInWords_eq low]
  rfl

theorem leaveDirectoryInWords_eq (p : x.InPlace) (low : x.height ≤ maxExtent) :
    x.leaveDirectoryInWords = .ok x.leaveDirectory := by
  cases above : x.history with
  | nil => simp only [leaveDirectoryInWords, leaveDirectory, above]
  | cons v rest =>
    obtain ⟨selected, offset⟩ := p.visits v (by rw [above]; exact List.mem_cons_self)
    simp only [leaveDirectoryInWords, leaveDirectory, above, followInWords_eq offset selected low]
    rfl

theorem selectInWords_eq (s : x.Moderate) (m : Move) : x.selectInWords m = .ok (x.select m) := by
  have next := step_le m x.height s.inPlace.selected s.fits
  unfold selectInWords
  rw [stepInWords_eq m s.inPlace.selected s.low, ok_bind,
    followInWords_eq s.inPlace.offset next s.low]
  rfl

theorem moveInWords_eq (s : x.Moderate) (m : Move) : x.moveInWords m = .ok (x.move m) := by
  cases m with
  | enter => rfl
  | back =>
    simp only [moveInWords, leaveDirectoryInWords_eq s.inPlace s.low]
    rfl
  | _ =>
    simp only [moveInWords, selectInWords_eq s]
    rfl

theorem inputInWords_eq (s : x.Moderate) (i : Input) : x.inputInWords i = .ok (x.input i) := by
  cases opened : x.opened with
  | some path =>
    simp only [inputInWords, input, opened]
    split
    · rfl
    · rw [Pager.inputInWords_eq s.viewer s.viewerFits s.viewerLow]
      rfl
  | none =>
    simp only [inputInWords, input, opened]
    cases Move.ofInput? i with
    | none => rfl
    | some m => exact moveInWords_eq s m

theorem statusInfoInWords_eq (p : x.InPlace) : x.statusInfoInWords = .ok x.statusInfo := by
  cases opened : x.opened with
  | some path => simp only [statusInfoInWords, statusInfo, opened]
  | none =>
    simp only [statusInfoInWords, statusInfo, opened, Word.add_eq (add_one_le p.selected)]
    split <;> rfl

/-! ### Places -/

theorem InPlace.setSize (p : x.InPlace) (width height : Nat) : (x.setSize width height).InPlace :=
  ⟨p.selected, follow_le_memory x.offset height p.selected, p.visits⟩

theorem inPlace_reset (x : Explorer) : x.reset.InPlace := inPlace_new.setSize x.width x.height

theorem inPlace_start (x : Explorer) (source : Source) : (x.start source).1.InPlace := by
  have p := x.inPlace_reset
  exact ⟨p.selected, p.offset, p.visits⟩

/-- On the way back each place is one that was left. -/
theorem InPlace.leaveDirectory (p : x.InPlace) : x.leaveDirectory.InPlace := by
  unfold Explorer.leaveDirectory
  split
  · exact p
  · rename_i v rest above
    obtain ⟨selected, -⟩ := p.visits v (by rw [above]; exact List.mem_cons_self)
    refine ⟨selected, follow_le_memory v.offset x.height selected, fun u hu => p.visits u ?_⟩
    rw [above]
    exact List.mem_cons_of_mem v hu

theorem InPlace.visit (p : x.InPlace) (path : String) : (x.visit path).InPlace := by
  refine ⟨Nat.zero_le _, Nat.zero_le _, fun v hv => ?_⟩
  rcases List.mem_cons.mp hv with rfl | older
  · exact ⟨p.selected, p.offset⟩
  · exact p.visits v older

theorem InPlace.keepListing (p : x.InPlace) (path : String) (entries : List Entry) :
    (x.keepListing path entries).InPlace := by
  unfold Explorer.keepListing
  dsimp only
  split <;> exact ⟨p.selected, p.offset, p.visits⟩

theorem Response.inPlace (r : Response x i out) (p : x.InPlace)
    (fits : x.entries.length ≤ memory) : out.1.InPlace := by
  cases r with
  | @recalled e | @entered e | @strayed e =>
    have went := p.visit e.path
    exact ⟨went.selected, went.offset, went.visits⟩
  | left => exact p.leaveDirectory
  | moved _ m =>
    have next := step_le m x.height p.selected fits
    exact ⟨next, follow_le_memory x.offset x.height next, p.visits⟩
  | _ => exact ⟨p.selected, p.offset, p.visits⟩

theorem Receipt.inPlace (r : Receipt x m y) (p : x.InPlace) : y.InPlace := by
  cases r with
  | listed => exact p.keepListing _ _
  | _ => exact ⟨p.selected, p.offset, p.visits⟩

end RepoBrowser.Explorer
