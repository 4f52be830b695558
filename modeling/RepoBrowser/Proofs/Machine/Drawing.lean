import RepoBrowser.Proofs.Explorer.Size
import RepoBrowser.Proofs.Machine.Browser
import RepoBrowser.Session.Basic

/-!
# Drawing in machine words

* `width_le` — no character takes more than three columns;
* `inOrder` — rows that are made one after the other;
* `sizeTextInWords` — the units of a size, counted up and looked up;
* `History.drawInWords`, `Explorer.drawInWords`, `StatusLine.drawInWords` — lists and the status
  line; a text is padded to a number of columns that is a word of 16 bits;
* `Browser.drawInWords`, `Session.drawInWords` — the screen;
* `drawInWords_eq` — it is what it is meant to be, unless an id cannot be abbreviated.
-/

namespace RepoBrowser

open Text Number
open Time (Instant)

/-! ### How wide a text can be -/

namespace Text.Width

variable {c : Char} {k k' : Kind} {l : Letter} {joined : Bool} {x : Int}

theorem charWidth_le (c : Char) : charWidth c ≤ 3 := by
  unfold charWidth
  dsimp only
  repeat' split
  all_goals decide

theorem joinedLetter?_le (together : joinedLetter? c l joined = some (x, k)) : x ≤ 3 := by
  unfold joinedLetter? at together
  grind

theorem joined?_le (together : joined? c k = some (x, k')) : x ≤ 3 := by
  unfold joined? at together
  cases k with
  | letter l joined => exact joinedLetter?_le together
  | _ => grind

theorem stepKind_le (c : Char) (k : Kind) : (stepKind c k).1 ≤ 3 := by
  have none : (0 : Int) ≤ 3 := by decide
  unfold stepKind
  split
  · exact none
  · split
    · exact none
    · split
      · rename_i together
        exact joined?_le together
      · exact Int.ofNat_le.mpr (charWidth_le c)

theorem step_le (c : Char) (b : Behind) : (step c b).1 ≤ 3 := by
  have apart := stepKind_le c b.withoutEmojiSelector.kind
  unfold step
  grind

/-- **No text takes more than three columns a character.** -/
theorem width_le (s : List Char) : width s ≤ 3 * s.length := by
  have bound : (measure s).1 ≤ 3 * s.length := by
    induction s with
    | nil => decide
    | cons c s ih =>
      have more := step_le c (measure s).2
      simp only [measure, List.length_cons]
      omega
  unfold width
  omega

end Text.Width

/-! ### Rows one after the other -/

section

variable {α β : Type}

/-- Results one after the other, up to the first that is void. -/
def inOrder : List (Except Halt α) → Except Halt (List α)
  | [] => .ok []
  | r :: rs => do
    let x ← r
    let xs ← inOrder rs
    return x :: xs

/-- The first fault of the items is that of all. -/
theorem inOrder_mapIdx (fault : α → Option Fault) (f : Nat → α → β) (items : List α) :
    inOrder (items.mapIdx fun i a => stopped (fault a) (f i a))
      = stopped (items.findSome? fault) (items.mapIdx f) := by
  induction items generalizing f with
  | nil => rfl
  | cons a items ih =>
    rw [List.mapIdx_cons, List.mapIdx_cons, List.findSome?_cons, inOrder, ih fun i => f (i + 1)]
    cases fault a with
    | some f => rfl
    | none => cases items.findSome? fault <;> rfl

end

/-! ### Sizes -/

/-- The units of sizes, each 1024 of the one before. -/
def sizeUnits : List (List Char) := ["B".toList, "KiB".toList, "MiB".toList, "GiB".toList]

/-- Goes on to the next unit while the size is 1024 or more of the present one, as long as there is
one; there are no more rounds than units. -/
def countUnits (size : Binary) (unit : Nat) : Nat → Except Halt (Binary × Nat)
  | 0 => .ok (size, unit)
  | rounds + 1 => do
    let last ← difference sizeUnits.length 1
    if Nat.pow 2 (10 + size.shift) ≤ size.num ∧ unit < last then
      let unit ← Word.bits64.add unit 1
      countUnits (size.halved 10) unit rounds
    else return (size, unit)

/-- A number of bytes in the unit that suits it. -/
def sizeTextInWords (bytes : Nat) : Except Halt (List Char) := do
  let (size, unit) ← countUnits (Binary.ofNat bytes) 0 sizeUnits.length
  if unit = 0 then return Nat.toDigits 10 bytes ++ " B".toList
  else
    let name ← item sizeUnits unit
    return size.fixed 1 ++ ' ' :: name

theorem last_sizeUnit : difference sizeUnits.length 1 = .ok 3 := rfl

theorem countUnits_stop {size : Binary} {unit rounds : Nat}
    (last : size.num < Nat.pow 2 (10 + size.shift) ∨ 3 ≤ unit) :
    countUnits size unit rounds = .ok (size, unit) := by
  cases rounds with
  | zero => rfl
  | succ rounds =>
    have ended : ¬ (Nat.pow 2 (10 + size.shift) ≤ size.num ∧ unit < 3) := by
      rintro ⟨large, more⟩
      rcases last with small | past
      · exact Nat.not_le.mpr small large
      · omega
    rw [countUnits, last_sizeUnit]
    show (if _ ∧ unit < 3 then _ else _) = _
    rw [if_neg ended]
    rfl

theorem countUnits_next {size : Binary} {unit rounds : Nat}
    (large : Nat.pow 2 (10 + size.shift) ≤ size.num) (more : unit < 3) :
    countUnits size unit (rounds + 1) = countUnits (size.halved 10) (unit + 1) rounds := by
  have fits : unit + 1 ≤ Word.bits64.greatest := Nat.le_trans more (by decide)
  rw [countUnits, last_sizeUnit]
  show (if _ ∧ unit < 3 then _ else _) = _
  rw [if_pos ⟨large, more⟩, Word.add_eq fits]
  rfl

theorem sizeTextInWords_eq (bytes : Nat) : sizeTextInWords bytes = .ok (sizeText bytes) := by
  have kibi := Binary.num_ofNat_lt_iff (n := bytes) (show 10 ≤ 53 by decide)
  unfold sizeTextInWords sizeText
  generalize Binary.ofNat bytes = x at kibi ⊢
  -- in each unit the size is the same number with more places behind the point
  have mebi : 10 + (x.halved 10).shift = 20 + x.shift :=
    show 10 + (x.shift + 10) = 20 + x.shift by omega
  have gibi : 10 + ((x.halved 10).halved 10).shift = 30 + x.shift :=
    show 10 + (x.shift + 10 + 10) = 30 + x.shift by omega
  show (countUnits x 0 4 >>= _) = _
  dsimp only
  split
  · rename_i few
    rw [countUnits_stop (.inl (kibi.mpr few))]
    rfl
  rename_i many
  rw [countUnits_next (Nat.le_of_not_lt (mt kibi.mp many)) (by decide)]
  split
  · rename_i small
    rw [countUnits_stop (.inl (by rw [mebi]; exact small))]
    rfl
  rename_i large
  rw [countUnits_next (by rw [mebi]; exact Nat.le_of_not_lt large) (by decide)]
  split
  · rename_i small
    rw [countUnits_stop (.inl (by rw [gibi]; exact small))]
    rfl
  rename_i large
  rw [countUnits_next (by rw [gibi]; exact Nat.le_of_not_lt large) (by decide),
    countUnits_stop (.inr (Nat.le_refl 3))]
  rfl

/-! ### Lists -/

namespace History

/-- The row of a commit. -/
def commitSpansInWords (now : Instant) (w : Nat) (isSelected : Bool) (c : Commit) :
    Except Halt (List Span) := do
  let columns ← Word.bits16.hold (messageColumns w)
  let id ← shortIdInWords c.id
  return [⟨id, .inColour .yellow⟩,
    ⟨[' '], .plain⟩,
    ⟨padEnd columns (shorten columns c.message.toList), messageStyle isSelected⟩,
    ⟨[' '], .plain⟩,
    ⟨'@' :: padEnd authorColumns (shorten authorColumns c.author.toList), .inColour .cyan⟩,
    ⟨[' '], .plain⟩,
    ⟨padStart ageColumns (Instant.age now c.date), .inColour .darkGray⟩]

/-- What is on screen in an area. -/
def drawInWords (h : History) (now : Instant) (width height : Nat) : Except Halt Screen :=
  match h.opened with
  | some _ => .ok (h.diff.draw width height)
  | none =>
    if h.commits.isEmpty then
      .ok (plainParagraph width height (.inColour h.emptyNotice.2) h.emptyNotice.1)
    else do
      let rows ← inOrder (h.commits.mapIdx fun i c => commitSpansInWords now width (i = h.selected) c)
      return listOfRows width height h.offset h.selected rows

variable {w : Nat}

theorem commitSpansInWords_eq (now : Instant) (narrow : w ≤ maxExtent) (isSelected : Bool)
    (c : Commit) : commitSpansInWords now w isSelected c
      = stopped (splitFault? c.id) (commitSpans now w isSelected c) := by
  have columns : messageColumns w ≤ Word.bits16.greatest := by
    unfold messageColumns
    unfold maxExtent at narrow
    show _ ≤ 65535
    omega
  unfold commitSpansInWords commitSpans Commit.shortId?
  rw [Word.hold_eq columns, shortIdInWords_eq]
  cases splitFault? c.id <;> rfl

theorem drawInWords_eq (h : History) (now : Instant) (narrow : w ≤ maxExtent) (height : Nat) :
    h.drawInWords now w height = stopped h.drawFault? (h.draw now w height) := by
  cases opened : h.opened with
  | some id =>
    simp only [drawInWords, drawFault?, draw, opened]
    rfl
  | none =>
    simp only [drawInWords, drawFault?, draw, opened, commitSpansInWords_eq now narrow,
      inOrder_mapIdx]
    split
    · rename_i empty
      rw [List.isEmpty_iff.mp empty]
      rfl
    · cases h.commits.findSome? fun c => splitFault? c.id <;> rfl

end History

namespace Explorer

/-- The row of an entry. -/
def entrySpansInWords (w : Nat) (isSelected : Bool) (e : Entry) : Except Halt (List Span) := do
  let columns ← Word.bits16.hold (nameColumns w)
  let size ← match e.kind with
    | .file => sizeTextInWords e.size
    | _ => .ok []
  return [⟨padEnd signColumns [e.kind.sign], .inColour .darkGray⟩,
    ⟨[' '], .plain⟩,
    ⟨padEnd columns (shorten columns (shownName e)), nameStyle isSelected e⟩,
    ⟨[' '], .plain⟩,
    ⟨padStart sizeColumns size, .inColour .darkGray⟩]

/-- What is on screen in an area. -/
def drawInWords (x : Explorer) (width height : Nat) : Except Halt Screen :=
  match x.opened, x.error with
  | some _, _ => .ok (x.viewer.draw width height)
  | none, some reason =>
    .ok (plainParagraph width height (.inColour .red) (Pager.errorText reason))
  | none, none =>
    if x.entries.isEmpty then
      .ok (plainParagraph width height (.inColour x.emptyNotice.2) x.emptyNotice.1)
    else do
      let rows ← inOrder (x.entries.mapIdx fun i e => entrySpansInWords width (i = x.selected) e)
      return listOfRows width height x.offset x.selected rows

variable {w : Nat}

theorem entrySpansInWords_eq (narrow : w ≤ maxExtent) (isSelected : Bool) (e : Entry) :
    entrySpansInWords w isSelected e = stopped none (entrySpans w isSelected e) := by
  have columns : nameColumns w ≤ Word.bits16.greatest := by
    unfold nameColumns
    unfold maxExtent at narrow
    show _ ≤ 65535
    omega
  unfold entrySpansInWords entrySpans shownSize
  rw [Word.hold_eq columns, sizeTextInWords_eq]
  cases e.kind <;> rfl

theorem drawInWords_eq (x : Explorer) (narrow : w ≤ maxExtent) (height : Nat) :
    x.drawInWords w height = .ok (x.draw w height) := by
  have rows := inOrder_mapIdx (fun _ => none) (fun i e => entrySpans w (i = x.selected) e) x.entries
  have faultless : x.entries.findSome? (fun _ => (none : Option Fault)) = none :=
    List.findSome?_eq_none_iff.mpr fun _ _ => rfl
  rw [faultless] at rows
  cases opened : x.opened with
  | some path => simp only [drawInWords, draw, opened]
  | none =>
    cases failed : x.error with
    | some reason => simp only [drawInWords, draw, opened, failed]
    | none =>
      simp only [drawInWords, draw, opened, failed, entrySpansInWords_eq narrow, rows]
      split <;> rfl

end Explorer

/-! ### The status line -/

namespace StatusLine

/-- What is on screen in an area. -/
def drawInWords (l : StatusLine) (w h : Nat) : Except Halt Screen := do
  let left ← Word.bits64.add l.status.keyText.length l.status.infoText.length
  let used ← Word.bits64.add left l.status.branchText.length
  let taken ← Word.bits64.add used 1
  let room ← Word.bits16.hold (w - taken)
  let value := ' ' :: padEnd room (l.status.value.toList.take room)
  return paragraph w h baseStyle
    [[⟨l.status.keyText, { foreground := some .black, background := some .magenta, bold := true }⟩,
      ⟨value, .inColour .gray⟩,
      ⟨l.status.infoText, .inColour .white⟩,
      ⟨l.status.branchText, { foreground := some .black, background := some .cyan }⟩]]

variable {l : StatusLine} {w : Nat}

/-- The parts of the line are as long as what they say, with the blanks. -/
theorem length_parts_le (s : Status) :
    s.keyText.length + s.infoText.length + s.branchText.length ≤ s.size + 5 := by
  have info : s.infoText.length ≤ s.info.toList.length + 2 := by
    unfold Status.infoText
    split <;> simp
  have branch : s.branchText.length ≤ s.branch.toList.length + 1 := by
    unfold Status.branchText
    split <;> simp
  have key : s.keyText.length = s.key.toList.length + 2 := by simp [Status.keyText]
  unfold Status.size
  omega

theorem drawInWords_eq (fits : l.status.size ≤ memory) (narrow : w ≤ maxExtent) (h : Nat) :
    l.drawInWords w h = .ok (l.draw w h) := by
  have parts := length_parts_le l.status
  have long : memory + 6 ≤ Word.bits64.greatest := by decide
  unfold drawInWords
  rw [Word.add_eq (by omega), ok_bind, Word.add_eq (by omega), ok_bind, Word.add_eq (by omega),
    ok_bind, Word.hold_eq (Nat.le_trans (Nat.sub_le _ _) narrow)]
  rfl

end StatusLine

/-! ### The screen -/

namespace Layout

/-- The heights of the four areas on a screen of height `h`. -/
def areasInWords (l : Layout) (h : Nat) : Except Halt Areas := do
  let header ← Word.bits16.add l.headerHeight l.headerFrame
  let tabs ← Word.bits16.add l.tabsHeight l.tabsFrame
  let body ← Word.bits16.add (l.bodyHeight h) l.bodyFrame
  return match Stack.shares h [header, tabs, body, l.statusHeight] with
    | [header, tabs, body, status] => ⟨header, tabs, body, status⟩
    | _ => ⟨0, 0, 0, 0⟩

variable {l : Layout} {h : Nat}

/-- The body and its frame are no higher than the screen, or than the layout. -/
theorem areasInWords_eq (small : l.totalHeight ≤ maxExtent) (low : h ≤ maxExtent) :
    l.areasInWords h = .ok (l.areas h) := by
  have chrome := chromeHeight_eq small
  have body : l.bodyHeight h + l.bodyFrame ≤ Word.bits16.greatest := by
    show _ ≤ maxExtent
    unfold bodyHeight
    unfold totalHeight at chrome small
    omega
  have header : l.headerHeight + l.headerFrame ≤ Word.bits16.greatest := by
    show _ ≤ maxExtent
    unfold totalHeight at small
    omega
  have tabs : l.tabsHeight + l.tabsFrame ≤ Word.bits16.greatest := by
    show _ ≤ maxExtent
    unfold totalHeight at small
    omega
  unfold areasInWords
  rw [Word.add_eq header, Word.add_eq tabs, Word.add_eq body]
  rfl

end Layout

namespace Browser

/-- The lines of the header. -/
def headerLinesInWords (item : Headline) (w : Nat) : Except Halt (List (List Span)) := do
  let taken ← Word.bits64.add (Width.width item.title.toList) (Width.width item.url.toList)
  let gap := max (w - taken) 1
  return [[⟨item.title.toList, { foreground := some .cyan, bold := true }⟩,
      ⟨List.replicate gap ' ', .plain⟩,
      ⟨item.url.toList, .inColour .darkGray⟩],
    [⟨item.description.toList, .inColour .gray⟩]]

/-- What is in the area of the header. -/
def drawHeaderInWords (b : Browser) (w h : Nat) : Except Halt Screen :=
  match b.repository, b.headline with
  | some _, some item => do
    let lines ← headerLinesInWords item w
    let inner := h - b.layout.headerFrame
    return paragraph w inner .plain lines ++ blankScreen w (h - inner) .plain
  | _, _ => .ok (blankScreen w h .plain)

/-- What the active view shows in an area. -/
def drawViewInWords (b : Browser) (now : Instant) (w h : Nat) : Except Halt Screen :=
  match b.activeTab with
  | .files => b.explorer.drawInWords w h
  | .commits => b.history.drawInWords now w h
  | .readme | .branches | .tags => .ok (b.drawView now w h)

/-- What is in the area of the body. -/
def drawBodyInWords (b : Browser) (now : Instant) (w h : Nat) : Except Halt Screen := do
  let top := b.layout.bodyTop
  let bottom ← difference b.layout.bodyFrame top
  let view ← b.drawViewInWords now w (h - b.layout.bodyFrame)
  return if h < b.layout.bodyFrame then blankScreen w h .plain
    else blankScreen w top .plain ++ view ++ blankScreen w bottom .plain

/-- What is in the area of the status line. -/
def drawStatusInWords (b : Browser) (w h : Nat) : Except Halt Screen :=
  match b.error with
  | some _ => .ok (b.drawStatus w h)
  | none => b.statusLine.drawInWords w h

/-- The screen of width `w` and height `h`. -/
def drawInWords (b : Browser) (now : Instant) (w h : Nat) : Except Halt Screen := do
  let a ← b.layout.areasInWords h
  let header ← b.drawHeaderInWords w a.header
  let body ← b.drawBodyInWords now w a.body
  let status ← b.drawStatusInWords w a.status
  return header ++ b.tabs.draw w a.tabs ++ body ++ status

variable {b : Browser} {w h : Nat}

theorem drawHeaderInWords_eq (fits : b.held ≤ memory) (w h : Nat) :
    b.drawHeaderInWords w h = .ok (b.drawHeader w h) := by
  cases selected : b.repository with
  | none => simp only [drawHeaderInWords, drawHeader, selected]
  | some r =>
    cases announced : b.headline with
    | none => simp only [drawHeaderInWords, drawHeader, selected, announced]
    | some item =>
      have texts : item.title.toList.length + item.url.toList.length ≤ memory := by
        unfold held at fits
        rw [announced] at fits
        dsimp only at fits
        omega
      have title := Width.width_le item.title.toList
      have url := Width.width_le item.url.toList
      have long : 3 * memory ≤ Word.bits64.greatest := by decide
      simp only [drawHeaderInWords, drawHeader, selected, announced, headerLinesInWords]
      rw [Word.add_eq (by omega)]
      rfl

theorem drawViewInWords_eq (b : Browser) (now : Instant) (narrow : w ≤ maxExtent) (h : Nat) :
    b.drawViewInWords now w h = stopped b.drawFault? (b.drawView now w h) := by
  cases tab : b.activeTab with
  | files =>
    simp only [drawViewInWords, drawFault?, drawView, tab, Explorer.drawInWords_eq _ narrow]
    rfl
  | commits =>
    simp only [drawViewInWords, drawFault?, drawView, tab, History.drawInWords_eq _ now narrow]
    rfl
  | readme | branches | tags =>
    simp only [drawViewInWords, drawFault?, tab]
    rfl

/-- The rows above the view are not more than those of the frame. -/
theorem drawBodyInWords_eq (b : Browser) (now : Instant) (narrow : w ≤ maxExtent) (h : Nat) :
    b.drawBodyInWords now w h = stopped b.drawFault? (b.drawBody now w h) := by
  have halves : b.layout.bodyTop ≤ b.layout.bodyFrame := Nat.div_le_self _ 2
  unfold drawBodyInWords drawBody
  dsimp only
  rw [difference_eq halves, b.drawViewInWords_eq now narrow]
  cases b.drawFault? <;> rfl

theorem drawStatusInWords_eq (fits : b.held ≤ memory) (narrow : w ≤ maxExtent) (h : Nat) :
    b.drawStatusInWords w h = .ok (b.drawStatus w h) := by
  cases failed : b.error with
  | some reason => simp only [drawStatusInWords, failed]
  | none =>
    have size : b.statusLine.status.size ≤ memory := by
      unfold held at fits
      omega
    simp only [drawStatusInWords, drawStatus, failed]
    exact StatusLine.drawInWords_eq size narrow h

/-- **The screen is what it is meant to be**, unless an id cannot be abbreviated. -/
theorem drawInWords_eq (fits : b.held ≤ memory) (small : b.layout.totalHeight ≤ maxExtent)
    (now : Instant) (narrow : w ≤ maxExtent) (low : h ≤ maxExtent) :
    b.drawInWords now w h = stopped b.drawFault? (b.draw now w h) := by
  unfold drawInWords
  rw [Layout.areasInWords_eq small low, ok_bind, drawHeaderInWords_eq fits,
    b.drawBodyInWords_eq now narrow, drawStatusInWords_eq fits narrow]
  cases b.drawFault? <;> rfl

end Browser

namespace Session

/-- The screen of width `w` and height `h`. -/
def drawInWords (s : Session) (now : Instant) (w h : Nat) : Except Halt Screen := do
  let screen ← s.browser.drawInWords now w (h - helpHeight)
  return screen ++ paragraph w (min h helpHeight) .plain [s.footLine]

theorem drawInWords_eq {s : Session} {w h : Nat} (fits : s.browser.held ≤ memory)
    (small : s.browser.layout.totalHeight ≤ maxExtent) (now : Instant) (narrow : w ≤ maxExtent)
    (low : h ≤ maxExtent) :
    s.drawInWords now w h = stopped s.drawFault? (s.draw now w h) := by
  unfold drawInWords drawFault? draw
  rw [Browser.drawInWords_eq fits small now narrow (Nat.le_trans (Nat.sub_le _ _) low)]
  cases s.browser.drawFault? <;> rfl

end Session

end RepoBrowser
