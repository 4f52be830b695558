import RepoBrowser.Proofs.Browser.Scroll
import RepoBrowser.Proofs.Machine.Pager

/-!
# The history in machine words

* `setSizeInWords`, `startInWords`, `receiveInWords`, `inputInWords` — the operations on a history;
* `statusValueInWords`, `statusInfoInWords` — what the status line says of it;
* `History.InPlace`, `History.Counted` — the selection and the window are places that a machine can
  hold, and pages are counted up by at most one at a time;
* `History.Moderate`, `receiveInWords_eq` and its like — a history in which nothing exceeds a word
  does what it is meant to, unless an id cannot be abbreviated.
-/

namespace RepoBrowser.History

open Text

/-! ### Operations -/

/-- Changes the size. -/
def setSizeInWords (h : History) (width height : Nat) : Except Halt History := do
  let offset ← followInWords h.offset h.selected height
  return { h with width, height, offset, diff := h.diff.setSize width height }

/-- Forgets all but the size. -/
def resetInWords (h : History) : Except Halt History :=
  ({} : History).setSizeInWords h.width h.height

/-- Begins with the first page of a source. -/
def startInWords (h : History) (source : Source) : Except Halt (History × List Request) := do
  let h ← h.resetInWords
  return ({ h with source := some source } : History).askPage 1

/-- Asks for the next page if it is wanted. -/
def askNextInWords (h : History) : Except Halt (History × List Request) :=
  if h.pendingPage.isNone && h.hasMore then do
    let bottom ← Word.bits64.add h.selected (max h.height 1)
    if h.commits.length ≤ bottom then
      let number ← Word.bits32.add h.loadedPages 1
      return h.askPage number
    else return (h, [])
  else .ok (h, [])

/-- What a result does. -/
def receiveInWords (h : History) : LogMessage → Except Halt (History × List Request)
  | .pageLoaded number page =>
    if h.pendingPage = some number then (h.addPage number page).askNextInWords else .ok (h, [])
  | .detailLoaded d =>
    if h.opened = some d.id then do
      let id ← shortIdInWords d.id
      let path := String.ofList (id ++ ".diff".toList)
      return ({ h with diff := h.diff.setContent (String.ofList (commitText d)) path }, [])
    else .ok (h, [])
  | m => .ok (h.receive m)

/-- Moves the selection. -/
def selectInWords (h : History) (m : Move) : Except Halt (History × List Request) := do
  let selected ← stepInWords h.selected h.commits.length m h.height
  let offset ← followInWords h.offset selected h.height
  ({ h with selected, offset } : History).askNextInWords

/-- What a move does in the list. -/
def moveInWords (h : History) : Move → Except Halt (History × List Request)
  | .enter => .ok h.openSelected
  | .back => .ok (h, [])
  | m => h.selectInWords m

/-- What an input does. -/
def inputInWords (h : History) (i : Input) : Except Halt (History × List Request) :=
  match h.opened with
  | some _ =>
    if i.isKeyBack then .ok ({ h with opened := none }, [])
    else do
      let diff ← h.diff.inputInWords i
      return ({ h with diff }, [])
  | none =>
    match Move.ofInput? i with
    | some m => h.moveInWords m
    | none => .ok (h, [])

/-- What is said of the selected commit. -/
def statusValueInWords (h : History) : Except Halt String :=
  match h.commits[h.selected]? with
  | some c => do
    let id ← shortIdInWords c.id
    return String.ofList
      (id ++ " by ".toList ++ c.author.toList ++ " on ".toList ++ c.date.shortDate)
  | none => .ok ""

/-- Where in the list the selection is, or how far the changes have been scrolled. -/
def statusInfoInWords (h : History) : Except Halt String :=
  match h.opened with
  | some _ => .ok h.diff.openInfo
  | none =>
    if h.commits.isEmpty then .ok ""
    else do
      let place ← Word.bits64.add h.selected 1
      return String.ofList (decimal place ++ '/' ::
        match h.total with
        | some n => decimal n
        | none => decimal h.commits.length ++ ['+'])

/-! ### Within words -/

/-- The selection and the window are at places that a machine can hold. -/
structure InPlace (h : History) : Prop where
  selected : h.selected ≤ memory
  offset : h.offset ≤ memory

/-- The pages are counted by at most `n`. -/
structure Counted (n : Nat) (h : History) : Prop where
  loaded : h.loadedPages ≤ n
  pending : ∀ number, h.pendingPage = some number → number ≤ n

/-- Nothing exceeds a word. -/
structure Moderate (n : Nat) (h : History) : Prop where
  inPlace : h.InPlace
  counted : h.Counted n
  low : h.height ≤ maxExtent
  fits : h.commits.length ≤ memory
  diff : h.diff.Arises
  diffLow : h.diff.height ≤ maxExtent
  diffFits : h.diff.lines.length ≤ memory

variable {h : History} {n : Nat} {m : LogMessage} {i : Input} {out : History × List Request}

theorem setSizeInWords_eq (p : h.InPlace) (width : Nat) {height : Nat}
    (low : height ≤ maxExtent) : h.setSizeInWords width height = .ok (h.setSize width height) := by
  unfold setSizeInWords
  rw [followInWords_eq p.offset p.selected low]
  rfl

theorem inPlace_new : InPlace {} := ⟨Nat.zero_le _, Nat.zero_le _⟩

theorem resetInWords_eq (low : h.height ≤ maxExtent) : h.resetInWords = .ok h.reset :=
  setSizeInWords_eq inPlace_new h.width low

theorem startInWords_eq (low : h.height ≤ maxExtent) (source : Source) :
    h.startInWords source = .ok (h.start source) := by
  unfold startInWords
  rw [resetInWords_eq low]
  rfl

theorem askNextInWords_eq (place : h.selected ≤ memory) (low : h.height ≤ maxExtent)
    (few : h.loadedPages + 1 ≤ Word.bits32.greatest) : h.askNextInWords = .ok h.askNext := by
  unfold askNextInWords askNext isNearEnd
  rw [Word.add_eq (add_page_le place low), Word.add_eq few]
  cases wanted : h.pendingPage.isNone && h.hasMore with
  | false => rfl
  | true =>
    show (if h.commits.length ≤ h.selected + max h.height 1 then _ else _) = _
    simp only [Bool.true_and, decide_eq_true_eq]
    split <;> rfl

/-- The page that was asked for is counted already. -/
theorem Moderate.addPage_askNext (s : h.Moderate n) (few : n + 1 ≤ Word.bits32.greatest)
    {number : Nat} (pending : h.pendingPage = some number) (page : Page Commit) :
    (h.addPage number page).askNextInWords = .ok (h.addPage number page).askNext :=
  askNextInWords_eq (h := h.addPage number page) s.inPlace.selected s.low
    (Nat.le_trans (Nat.succ_le_succ (s.counted.pending number pending)) few)

theorem receiveInWords_eq (s : h.Moderate n) (few : n + 1 ≤ Word.bits32.greatest)
    (m : LogMessage) : h.receiveInWords m = stopped (h.receiveFault? m) (h.receive m) := by
  cases m with
  | pageLoaded number page =>
    simp only [receiveInWords, receive]
    split
    · rename_i pending
      exact s.addPage_askNext few pending page
    · rfl
  | detailLoaded d =>
    simp only [receiveInWords, receive, receiveFault?, diffPath, shortIdInWords_eq]
    split
    · cases splitFault? d.id <;> rfl
    · rfl
  | pageFailed | detailFailed => rfl

theorem selectInWords_eq (s : h.Moderate n) (few : n + 1 ≤ Word.bits32.greatest) (m : Move) :
    h.selectInWords m = .ok (h.select m) := by
  have next := step_le m h.height s.inPlace.selected s.fits
  unfold selectInWords
  rw [stepInWords_eq m s.inPlace.selected s.low, ok_bind,
    followInWords_eq s.inPlace.offset next s.low, ok_bind]
  exact askNextInWords_eq (h := { h with
    selected := step h.selected h.commits.length m h.height
    offset := follow h.offset (step h.selected h.commits.length m h.height) h.height })
    next s.low (Nat.le_trans (Nat.succ_le_succ s.counted.loaded) few)

theorem inputInWords_eq (s : h.Moderate n) (few : n + 1 ≤ Word.bits32.greatest) (i : Input) :
    h.inputInWords i = .ok (h.input i) := by
  cases opened : h.opened with
  | some id =>
    simp only [inputInWords, input, opened]
    split
    · rfl
    · rw [Pager.inputInWords_eq s.diff s.diffFits s.diffLow]
      rfl
  | none =>
    simp only [inputInWords, input, opened]
    cases Move.ofInput? i with
    | none => rfl
    | some m =>
      cases m with
      | enter | back => rfl
      | _ => exact selectInWords_eq s few _

theorem statusValueInWords_eq (h : History) :
    h.statusValueInWords = stopped h.statusFault? h.statusValue := by
  unfold statusValueInWords statusValue statusFault? commitLine Commit.shortId?
  cases h.commits[h.selected]? with
  | none => rfl
  | some c =>
    dsimp only
    rw [shortIdInWords_eq, Option.bind_some]
    cases splitFault? c.id <;> rfl

theorem statusInfoInWords_eq (p : h.InPlace) : h.statusInfoInWords = .ok h.statusInfo := by
  cases opened : h.opened with
  | some id => simp only [statusInfoInWords, statusInfo, opened]
  | none =>
    simp only [statusInfoInWords, statusInfo, opened, Word.add_eq (add_one_le p.selected)]
    split <;> rfl

/-! ### Places -/

theorem InPlace.setSize (p : h.InPlace) (width height : Nat) : (h.setSize width height).InPlace :=
  ⟨p.selected, follow_le_memory h.offset height p.selected⟩

theorem inPlace_reset (h : History) : h.reset.InPlace := inPlace_new.setSize h.width h.height

theorem inPlace_start (h : History) (source : Source) : (h.start source).1.InPlace := by
  have p := h.inPlace_reset
  exact ⟨p.selected, p.offset⟩

theorem Turn.inPlace (t : Turn h out) (p : h.InPlace) : out.1.InPlace := by
  cases t <;> exact ⟨p.selected, p.offset⟩

theorem Response.inPlace (r : Response h i out) (p : h.InPlace)
    (fits : h.commits.length ≤ memory) : out.1.InPlace := by
  cases r with
  | moved _ m turn =>
    have next := step_le m h.height p.selected fits
    exact turn.inPlace ⟨next, follow_le_memory h.offset h.height next⟩
  | _ => exact ⟨p.selected, p.offset⟩

theorem Receipt.inPlace (r : Receipt h m out) (p : h.InPlace) : out.1.InPlace := by
  cases r with
  | pageAdded _ turn => exact turn.inPlace ⟨p.selected, p.offset⟩
  | _ => exact ⟨p.selected, p.offset⟩

/-! ### Counting pages -/

theorem counted_reset (h : History) (n : Nat) : h.reset.Counted n :=
  ⟨Nat.zero_le n, fun _ => nofun⟩

theorem counted_start (h : History) (source : Source) (n : Nat) :
    (h.start source).1.Counted (n + 1) := by
  rw [start_eq]
  refine ⟨Nat.zero_le _, fun number first => ?_⟩
  obtain rfl := Option.some.inj first
  exact Nat.succ_le_succ (Nat.zero_le n)

theorem Counted.mono (c : h.Counted n) : h.Counted (n + 1) :=
  ⟨Nat.le_succ_of_le c.loaded, fun number pending => Nat.le_succ_of_le (c.pending number pending)⟩

theorem Turn.counted (t : Turn h out) (c : h.Counted n) : out.1.Counted (n + 1) := by
  cases t with
  | rests => exact c.mono
  | asks =>
    refine ⟨Nat.le_succ_of_le c.loaded, fun number next => ?_⟩
    obtain rfl := Option.some.inj next
    exact Nat.succ_le_succ c.loaded

theorem Response.counted (r : Response h i out) (c : h.Counted n) : out.1.Counted (n + 1) := by
  cases r with
  | moved _ _ turn => exact turn.counted ⟨c.loaded, c.pending⟩
  | _ => exact ⟨c.mono.loaded, c.mono.pending⟩

theorem Receipt.counted (r : Receipt h m out) (c : h.Counted n) : out.1.Counted (n + 1) := by
  cases r with
  | @pageAdded number page _ pending turn =>
    exact turn.counted ⟨c.pending number pending, fun _ => nofun⟩
  | pageMissed => exact ⟨c.mono.loaded, fun _ => nofun⟩
  | _ => exact ⟨c.mono.loaded, c.mono.pending⟩

end RepoBrowser.History
