import RepoBrowser.Proofs.Browser.Arrival
import RepoBrowser.Proofs.Browser.Scroll
import RepoBrowser.Proofs.Browser.Size
import RepoBrowser.Proofs.Machine.Explorer
import RepoBrowser.Proofs.Machine.History

/-!
# A browser in machine words

* `Tab.nextInWords`, `TabStrip.targetInWords?` — tabs by their places, and titles by their columns;
* `Browser.updateInWords` — what an action does;
* `Browser.held` — the items and characters that are counted or measured, all together;
* `Browser.Bounded` — what is kept by every action whose numbers are words;
* `updateInWords_eq` — in a bounded browser that fits in memory an action does what it is meant to,
  unless an id cannot be abbreviated.
-/

namespace RepoBrowser

/-! ### Tabs -/

namespace Tab

/-- The tab behind a tab. -/
def nextInWords (t : Tab) : Except Halt Tab := do
  let place ← Word.bits64.add t.index 1
  item all (place % all.length)

/-- The tab in front of a tab. -/
def previousInWords (t : Tab) : Except Halt Tab := do
  let place ← Word.bits64.add t.index all.length
  let before ← difference place 1
  item all (before % all.length)

theorem nextInWords_eq (t : Tab) : t.nextInWords = .ok t.next := by cases t <;> rfl

theorem previousInWords_eq (t : Tab) : t.previousInWords = .ok t.previous := by cases t <;> rfl

end Tab

namespace TabStrip

/-- The tab among `tabs` whose title is in a column. -/
def tabFromInWords? (column x : Nat) : List Tab → Except Halt (Option Tab)
  | [] => .ok none
  | t :: ts => do
    let width ← Word.bits16.add t.title.toList.length 2
    let right ← Word.bits16.add x width
    if x ≤ column && column < right then return some t
    else
      let step ← Word.bits16.add width 1
      let x ← Word.bits16.add x step
      tabFromInWords? column x ts

/-- The tab that an input asks for. -/
def targetInWords? (s : TabStrip) : Input → Except Halt (Option Tab)
  | .key k =>
    match k.code with
    | .tab => s.active.nextInWords.map some
    | .backTab => s.active.previousInWords.map some
    | _ => .ok none
  | .mouse m =>
    if m.deed = .press .left && m.row = s.row then tabFromInWords? m.column 0 Tab.all
    else .ok none

theorem tabFromInWords?_eq (column : Nat) {x : Nat} {tabs : List Tab}
    (fits : x + Number.total (tabs.map fun t => titleColumns t + 1) ≤ Word.bits16.greatest) :
    tabFromInWords? column x tabs = .ok (tabFrom? column x tabs) := by
  induction tabs generalizing x with
  | nil => rfl
  | cons t ts ih =>
    rw [List.map_cons, Number.total_cons] at fits
    unfold titleColumns at fits
    unfold tabFromInWords? tabFrom? titleColumns
    rw [Word.add_eq (by omega), ok_bind, Word.add_eq (by omega), ok_bind]
    split
    · rfl
    · rw [Word.add_eq (by omega), ok_bind, Word.add_eq (by omega), ok_bind]
      exact ih (by unfold titleColumns; omega)

theorem targetInWords?_eq (s : TabStrip) (i : Input) :
    s.targetInWords? i = .ok (s.target? i) := by
  cases i with
  | key k =>
    simp only [targetInWords?, target?, Tab.nextInWords_eq, Tab.previousInWords_eq]
    cases k.code <;> rfl
  | mouse m =>
    simp only [targetInWords?, target?, tabAt?]
    split
    · exact tabFromInWords?_eq m.column (by decide)
    · rfl

end TabStrip

/-! ### Actions -/

/-- The characters that are counted when a status is drawn. -/
def Status.size (s : Status) : Nat :=
  s.key.toList.length + s.info.toList.length + s.branch.toList.length

/-- The numbers of an action are words. -/
def Action.IsInWords : Action → Prop
  | .resized width height => width ≤ maxExtent ∧ height ≤ maxExtent
  | _ => True

namespace Browser

/-- Changes the size. -/
def setSizeInWords (b : Browser) (width height : Nat) : Except Halt Browser := do
  let body := b.layout.bodyHeight height
  let history ← b.history.setSizeInWords width body
  let explorer ← b.explorer.setSizeInWords width body
  return { b with
    width, height
    tabs := b.tabs.setSize width body
    statusLine := b.statusLine.setSize width body
    readme := b.readme.setSize width body
    history
    explorer }

/-- A browser with nothing selected. -/
def ofLayoutInWords (layout : Layout) : Except Halt Browser := do
  let row ← Word.bits16.add layout.headerHeight layout.headerFrame
  ({ layout, tabs := { row, frame := layout.tabsFrame } } : Browser).setSizeInWords 0 0

/-- Selects a repository. -/
def selectInWords (b : Browser) (r : Repository) : Except Halt (Browser × List Request) := do
  let generation ← Word.bits64.add b.generation 1
  let history ← b.history.resetInWords
  let explorer ← b.explorer.resetInWords
  return ({ b with
      generation
      headline := some (b.headlineFor r)
      activeTab := .readme
      tabs := b.tabs.activate .readme
      readme := b.readme.setLoading
      history
      explorer
      reference := none
      error := none
      stage := .resolving
      repository := some r },
    [.fetchReadme ⟨generation, r⟩, .resolveReference ⟨generation, r⟩])

/-- Takes the reference that was waited for. -/
def resolveInWords (b : Browser) (r : Repository) (reference : Reference) :
    Except Halt (Browser × List Request) := do
  let source : Source := ⟨⟨b.generation, r⟩, reference⟩
  let history ← b.history.startInWords source
  let explorer ← b.explorer.startInWords source
  return ({ b with
      reference := some reference
      history := history.1
      explorer := explorer.1
      stage := .ready },
    history.2 ++ explorer.2)

/-- What an input does to the view of the active tab. -/
def viewInputInWords (b : Browser) (i : Input) : Except Halt (Browser × List Request) :=
  match b.activeTab with
  | .readme => do
    let readme ← b.readme.inputInWords i
    return ({ b with readme }, [])
  | .files => do
    let x ← b.explorer.inputInWords i
    return ({ b with explorer := x.1 }, x.2)
  | .commits => do
    let h ← b.history.inputInWords i
    return ({ b with history := h.1 }, h.2)
  | .branches | .tags => .ok (b, [])

/-- What an input does. -/
def inputInWords (b : Browser) (i : Input) : Except Halt Outcome := do
  match ← b.tabs.targetInWords? i with
  | some t => return ⟨({ b with tabs := b.tabs.activate t } : Browser).changeTab t, [], b.tabRefreshes⟩
  | none =>
    if b.repository.isSome then
      let v ← b.viewInputInWords i
      return ⟨v.1, v.2, true⟩
    else return ⟨b, [], false⟩

/-- What an action does, the status line apart. -/
def actInWords (b : Browser) : Action → Except Halt Outcome
  | .selectRepository r => do
    let s ← b.selectInWords r
    return ⟨s.1, s.2, true⟩
  | .referenceResolved generation reference =>
    match b.repository with
    | some r =>
      if generation = b.generation && b.stage = .resolving then do
        let s ← b.resolveInWords r reference
        return ⟨s.1, s.2, true⟩
      else .ok ⟨b, [], false⟩
    | none => .ok ⟨b, [], false⟩
  | .log generation message =>
    if b.isStale generation then .ok ⟨b, [], false⟩
    else do
      let h ← b.history.receiveInWords message
      return ⟨{ b with history := h.1 }, h.2, true⟩
  | .resized width height => do
    let b ← b.setSizeInWords width height
    return ⟨b, [], false⟩
  | .key k => ({ b with error := none } : Browser).inputInWords (.key k)
  | .mouse m => b.inputInWords (.mouse m)
  | a => .ok (b.act a)

/-- What the active view says in the status line. -/
def viewStatusInWords (b : Browser) : Except Halt (String × String) :=
  match b.activeTab with
  | .commits => do
    let value ← b.history.statusValueInWords
    let info ← b.history.statusInfoInWords
    return (value, info)
  | .files => do
    let info ← b.explorer.statusInfoInWords
    return (b.explorer.statusValue, info)
  | .readme | .branches | .tags => .ok b.viewStatus

/-- Brings the status line up to date. -/
def refreshInWords (b : Browser) : Except Halt Browser :=
  match b.repository with
  | none => .ok b
  | some r => do
    let (value, info) ← b.viewStatusInWords
    let status : Status := { key := r.name, value, info, branch := b.branchStatus }
    return { b with statusLine := b.statusLine.say status }

/-- What an action does, and the requests that come of it. -/
def updateInWords (b : Browser) (a : Action) : Except Halt (Browser × List Request) := do
  let o ← b.actInWords a
  if o.refreshes then
    let c ← o.browser.refreshInWords
    return (c, o.requests)
  else return (o.browser, o.requests)

/-! ### Within words -/

/-- The items and the characters that a browser counts or measures. -/
def held (b : Browser) : Nat :=
  b.history.commits.length + b.explorer.entries.length + b.readme.lines.length
    + b.history.diff.lines.length + b.explorer.viewer.lines.length
    + b.statusLine.status.size
    + match b.headline with
      | some item => item.title.toList.length + item.url.toList.length
      | none => 0

/-- Sizes, places and counts of a browser to which at most `n` things have happened. -/
structure Bounded (n : Nat) (b : Browser) : Prop where
  fitted : Fitted b.layout b
  low : b.height ≤ maxExtent
  generation : b.generation ≤ n
  commits : b.history.InPlace
  pages : b.history.Counted n
  files : b.explorer.InPlace
  pagers : ∀ p, (b.pager p).Arises

variable {b b' : Browser} {a : Action} {i : Input} {n : Nat} {rs : List Request}

theorem bodyHeight_low (low : b.height ≤ maxExtent) : b.layout.bodyHeight b.height ≤ maxExtent :=
  Nat.le_trans (b.layout.bodyHeight_le b.height) low

/-- What has the size of the body is no higher than a screen. -/
theorem low_of_size {w h : Nat} (low : b.height ≤ maxExtent) (size : (w, h) = b.bodySize) :
    h ≤ maxExtent := by
  obtain ⟨-, rfl⟩ := Prod.mk.inj size
  exact bodyHeight_low low

theorem Bounded.historyModerate (s : b.Bounded n) (fits : b.held ≤ memory) :
    b.history.Moderate n where
  inPlace := s.commits
  counted := s.pages
  low := low_of_size s.low s.fitted.history.1
  fits := by unfold held at fits; omega
  diff := s.pagers .changes
  diffLow := low_of_size s.low s.fitted.history.2
  diffFits := by unfold held at fits; omega

theorem Bounded.explorerModerate (s : b.Bounded n) (fits : b.held ≤ memory) :
    b.explorer.Moderate where
  inPlace := s.files
  low := low_of_size s.low s.fitted.explorer.1
  fits := by unfold held at fits; omega
  viewer := s.pagers .file
  viewerLow := low_of_size s.low s.fitted.explorer.2
  viewerFits := by unfold held at fits; omega

/-! ### What an action keeps -/

theorem bounded_ofLayout (layout : Layout) : (ofLayout layout).Bounded 0 where
  fitted := fitted_ofLayout layout
  low := Nat.zero_le _
  generation := Nat.le_refl 0
  commits := History.inPlace_new
  pages := ⟨Nat.le_refl 0, fun _ => nofun⟩
  files := Explorer.inPlace_new
  pagers := pager_arises_ofLayout layout

/-- **A change keeps the bounds**, and counts by at most one. -/
theorem Change.bounded (c : Change b a b' rs) (s : b.Bounded n) (fits : b.held ≤ memory)
    (words : a.IsInWords) : b'.Bounded (n + 1) := by
  have layout : b'.layout = b.layout := (c.fitted s.fitted).laidOut
  have fitted : Fitted b'.layout b' := by
    rw [layout]
    exact c.fitted s.fitted
  have pagers := c.pager_arises s.pagers
  have moderate := s.historyModerate fits
  have kept : b.generation ≤ n + 1 := Nat.le_succ_of_le s.generation
  cases c with
  | selected r =>
    exact ⟨fitted, s.low, Nat.succ_le_succ s.generation, b.history.inPlace_reset,
      b.history.counted_reset _, b.explorer.inPlace_reset, pagers⟩
  | resolved =>
    exact ⟨fitted, s.low, kept, b.history.inPlace_start _, b.history.counted_start _ n,
      b.explorer.inPlace_start _, pagers⟩
  | resized w h =>
    exact ⟨fitted, words.2, kept, s.commits.setSize w _,
      ⟨s.pages.mono.loaded, s.pages.mono.pending⟩, s.files.setSize w _, pagers⟩
  | @logReceived r m =>
    have receipt := b.history.receive_receipt m
    exact ⟨fitted, s.low, kept, receipt.inPlace s.commits, receipt.counted s.pages, s.files, pagers⟩
  | @filesReceived r m =>
    exact ⟨fitted, s.low, kept, s.commits, s.pages.mono,
      (b.explorer.receive_receipt m).inPlace s.files, pagers⟩
  | @filesInput i =>
    exact ⟨fitted, s.low, kept, s.commits, s.pages.mono,
      (b.explorer.input_response i).inPlace s.files (s.explorerModerate fits).fits, pagers⟩
  | @commitsInput i =>
    have response := b.history.input_response i
    exact ⟨fitted, s.low, kept, response.inPlace s.commits moderate.fits,
      response.counted s.pages, s.files, pagers⟩
  | _ => exact ⟨fitted, s.low, kept, s.commits, s.pages.mono, s.files, pagers⟩

theorem Bounded.act (s : b.Bounded n) (fits : b.held ≤ memory) (words : a.IsInWords) :
    (b.act a).browser.Bounded (n + 1) := (b.act_change a).bounded s fits words

theorem Bounded.refresh (s : b.Bounded n) : b.refresh.Bounded n := by
  obtain ⟨l, hl⟩ := b.refresh_eq
  have fitted := s.fitted.refresh
  have pagers := s.pagers
  rw [hl] at fitted ⊢
  refine ⟨fitted, s.low, s.generation, s.commits, s.pages, s.files, fun p => ?_⟩
  cases p with
  | readme => exact pagers .readme
  | file => exact pagers .file
  | changes => exact pagers .changes

theorem Bounded.apply (s : b.Bounded n) (fits : b.held ≤ memory) (words : a.IsInWords) :
    (b.apply a).1.Bounded (n + 1) := by
  have acted := s.act fits words
  unfold Browser.apply
  dsimp only
  split
  · exact acted.refresh
  · exact acted

/-! ### What an action does -/

theorem setSizeInWords_eq (s : b.Bounded n) (width : Nat) {height : Nat}
    (low : height ≤ maxExtent) : b.setSizeInWords width height = .ok (b.setSize width height) := by
  have body : b.layout.bodyHeight height ≤ maxExtent :=
    Nat.le_trans (b.layout.bodyHeight_le height) low
  unfold setSizeInWords
  dsimp only
  rw [History.setSizeInWords_eq s.commits width body, Explorer.setSizeInWords_eq s.files width body]
  rfl

theorem ofLayoutInWords_eq {layout : Layout} (small : layout.totalHeight ≤ maxExtent) :
    ofLayoutInWords layout = .ok (ofLayout layout) := by
  have row : layout.headerHeight + layout.headerFrame ≤ Word.bits16.greatest := by
    unfold Layout.totalHeight at small
    show _ ≤ maxExtent
    omega
  have nothing : (ofLayout layout).setSize 0 0 = ofLayout layout := by
    unfold setSize Layout.bodyHeight
    rw [Nat.zero_sub]
    rfl
  unfold ofLayoutInWords
  rw [Word.add_eq row]
  refine (setSizeInWords_eq (bounded_ofLayout layout) 0 (Nat.zero_le _)).trans ?_
  rw [nothing]

theorem selectInWords_eq (s : b.Bounded n) (fits : b.held ≤ memory)
    (few : n + 1 ≤ Word.bits32.greatest) (r : Repository) : b.selectInWords r = .ok (b.select r) := by
  have count : b.generation + 1 ≤ Word.bits64.greatest := by
    have generation := s.generation
    have long : Word.bits32.greatest ≤ Word.bits64.greatest := by decide
    omega
  unfold selectInWords
  rw [Word.add_eq count, History.resetInWords_eq (s.historyModerate fits).low,
    Explorer.resetInWords_eq (s.explorerModerate fits).low]
  rfl

theorem resolveInWords_eq (s : b.Bounded n) (fits : b.held ≤ memory) (r : Repository)
    (reference : Reference) :
    b.resolveInWords r reference = .ok (b.resolve r reference) := by
  unfold resolveInWords
  dsimp only
  rw [History.startInWords_eq (s.historyModerate fits).low,
    Explorer.startInWords_eq (s.explorerModerate fits).low]
  rfl

theorem viewInputInWords_eq (s : b.Bounded n) (fits : b.held ≤ memory)
    (few : n + 1 ≤ Word.bits32.greatest) (i : Input) : b.viewInputInWords i = .ok (b.viewInput i) := by
  have lines : b.readme.lines.length ≤ memory := by
    unfold held at fits
    omega
  have readme : b.readme.inputInWords i = .ok (b.readme.input i) :=
    Pager.inputInWords_eq (s.pagers .readme) lines (low_of_size s.low s.fitted.readme) i
  cases tab : b.activeTab with
  | readme =>
    simp only [viewInputInWords, viewInput, tab, readme]
    rfl
  | files =>
    simp only [viewInputInWords, viewInput, tab,
      Explorer.inputInWords_eq (s.explorerModerate fits)]
    rfl
  | commits =>
    simp only [viewInputInWords, viewInput, tab,
      History.inputInWords_eq (s.historyModerate fits) few]
    rfl
  | branches | tags => simp only [viewInputInWords, viewInput, tab]

theorem inputInWords_eq (s : b.Bounded n) (fits : b.held ≤ memory)
    (few : n + 1 ≤ Word.bits32.greatest) (i : Input) : b.inputInWords i = .ok (b.input i) := by
  unfold inputInWords input TabStrip.input?
  rw [TabStrip.targetInWords?_eq, viewInputInWords_eq s fits few i]
  cases b.tabs.target? i with
  | some t => rfl
  | none =>
    show (if _ then _ else _) = _
    simp only [Option.map_none]
    split <;> rfl

theorem actInWords_eq (s : b.Bounded n) (fits : b.held ≤ memory)
    (few : n + 1 ≤ Word.bits32.greatest) (words : a.IsInWords) :
    b.actInWords a = stopped (b.receivedFault? a) (b.act a) := by
  cases a with
  | selectRepository r =>
    simp only [actInWords, act, selectInWords_eq s fits few]
    rfl
  | referenceResolved g reference =>
    cases selected : b.repository with
    | none => simp only [actInWords, act, selected]; rfl
    | some r =>
      simp only [actInWords, act, selected, resolveInWords_eq s fits]
      split <;> rfl
  | log g m =>
    simp only [actInWords, act, receivedFault?, History.receiveInWords_eq (s.historyModerate fits) few]
    split
    · rfl
    · cases b.history.receiveFault? m <;> rfl
  | resized w h =>
    simp only [actInWords, act, setSizeInWords_eq s w words.2]
    rfl
  | key k =>
    have quiet : ({ b with error := none } : Browser).Bounded n :=
      ⟨{ s.fitted with }, s.low, s.generation, s.commits, s.pages, s.files, fun p => by
        cases p with
        | readme => exact s.pagers .readme
        | file => exact s.pagers .file
        | changes => exact s.pagers .changes⟩
    exact inputInWords_eq quiet fits few (.key k)
  | mouse m => exact inputInWords_eq s fits few (.mouse m)
  | _ => rfl

theorem viewStatusInWords_eq (s : b.Bounded n) : b.viewStatusInWords
    = stopped (if b.activeTab = .commits then b.history.statusFault? else none) b.viewStatus := by
  cases tab : b.activeTab with
  | commits =>
    simp only [viewStatusInWords, viewStatus, tab, History.statusValueInWords_eq,
      History.statusInfoInWords_eq s.commits]
    cases b.history.statusFault? <;> rfl
  | files =>
    simp only [viewStatusInWords, viewStatus, tab, Explorer.statusInfoInWords_eq s.files]
    rfl
  | readme | branches | tags =>
    simp only [viewStatusInWords, tab]
    rfl

theorem refreshInWords_eq (s : b.Bounded n) :
    b.refreshInWords = stopped b.refreshFault? b.refresh := by
  cases selected : b.repository with
  | none => simp only [refreshInWords, refreshFault?, refresh, selected]; rfl
  | some r =>
    simp only [refreshInWords, refreshFault?, refresh, selected, viewStatusInWords_eq s]
    cases b.activeTab <;> simp <;> cases b.history.statusFault? <;> rfl

/-- **An action does what it is meant to**, unless an id cannot be abbreviated. -/
theorem updateInWords_eq (s : b.Bounded n) (fits : b.held ≤ memory)
    (few : n + 1 ≤ Word.bits32.greatest) (words : a.IsInWords) :
    b.updateInWords a = stopped (b.fault? a) (b.apply a) := by
  have acted := s.act fits words
  unfold updateInWords Browser.apply
  rw [actInWords_eq s fits few words, fault?_eq, stopped_bind]
  dsimp only
  cases refreshes : (b.act a).refreshes with
  | false => cases b.receivedFault? a <;> simp <;> rfl
  | true =>
    rw [refreshInWords_eq acted]
    cases b.receivedFault? a with
    | some f => rfl
    | none => cases (b.act a).browser.refreshFault? <;> rfl

end Browser

end RepoBrowser
