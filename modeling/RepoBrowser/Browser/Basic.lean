import RepoBrowser.Explorer.Basic
import RepoBrowser.History.Basic
import RepoBrowser.Layout
import RepoBrowser.StatusLine
import RepoBrowser.TabStrip

/-!
# Browsing one repository

* `Stage`, `Browser` — the selected repository and all that is shown of it;
* `Browser.select` — selects a repository, and forgets all that is known of another;
* `Browser.apply` — what an action does, and the requests that come of it;
* `Browser.fault?`, `Browser.update` — the same, unless a fault stops the program;
* `Browser.help` — what the keys do at present.

A result counts only if it comes with the number of the current selection (`isStale`).
-/

namespace RepoBrowser

inductive Stage where
  /-- Nothing is selected. -/
  | empty
  /-- The reference is waited for, and commits and files wait for it. -/
  | resolving
  | ready
  deriving DecidableEq, Repr

/-- The selected repository and all that is shown of it. -/
structure Browser where
  layout : Layout
  stage : Stage := .empty
  /-- How many selections there have been. -/
  generation : Nat := 0
  repository : Option Repository := none
  headline : Option Headline := none
  reference : Option Reference := none
  activeTab : Tab := .readme
  tabs : TabStrip
  statusLine : StatusLine := {}
  readme : Pager := { placeholder := "No readme found." }
  history : History := {}
  explorer : Explorer := {}
  error : Option String := none
  width : Nat := 0
  height : Nat := 0
  deriving DecidableEq, Repr

namespace Browser

def setSize (b : Browser) (width height : Nat) : Browser :=
  let body := b.layout.bodyHeight height
  { b with
    width, height
    tabs := b.tabs.setSize width body
    statusLine := b.statusLine.setSize width body
    readme := b.readme.setSize width body
    history := b.history.setSize width body
    explorer := b.explorer.setSize width body }

def ofLayout (layout : Layout) : Browser :=
  { layout
    tabs := { row := layout.headerHeight + layout.headerFrame, frame := layout.tabsFrame } }

/-- Whether a result belongs to another selection than the current one. -/
def isStale (b : Browser) (generation : Nat) : Bool :=
  b.repository.isNone || generation ≠ b.generation

/-! ### The status line -/

/-- What the active view says: a value, and more information. -/
def viewStatus (b : Browser) : String × String :=
  match b.activeTab with
  | .readme => ("", String.ofList b.readme.percentText)
  | .commits => (b.history.statusValue, b.history.statusInfo)
  | .files => (b.explorer.statusValue, b.explorer.statusInfo)
  | .branches | .tags => ("", "")

def branchStatus (b : Browser) : String :=
  match b.reference with
  | some r => " " ++ r.short
  | none => ""

def statusOf (b : Browser) (r : Repository) : Status :=
  { key := r.name, value := b.viewStatus.1, info := b.viewStatus.2, branch := b.branchStatus }

/-- Brings the status line up to date, once a repository is selected. -/
def refresh (b : Browser) : Browser :=
  match b.repository with
  | none => b
  | some r => { b with statusLine := b.statusLine.say (b.statusOf r) }

def refreshFault? (b : Browser) : Option Fault :=
  if b.repository.isSome && b.activeTab = .commits then b.history.statusFault? else none

/-! ### Actions -/

/-- The headline to be shown with a repository: the one that was announced, if it has the same
address. -/
def headlineFor (b : Browser) (r : Repository) : Headline :=
  match b.headline with
  | some item => if item.url = r.url then item else r.headline
  | none => r.headline

def select (b : Browser) (r : Repository) : Browser × List Request :=
  let ticket : Ticket := ⟨b.generation + 1, r⟩
  ({ b with
      generation := b.generation + 1
      headline := some (b.headlineFor r)
      activeTab := .readme
      tabs := b.tabs.activate .readme
      readme := b.readme.setLoading
      history := b.history.reset
      explorer := b.explorer.reset
      reference := none
      error := none
      stage := .resolving
      repository := some r },
    [.fetchReadme ticket, .resolveReference ticket])

/-- Takes the reference that was waited for, and begins with commits and files. -/
def resolve (b : Browser) (r : Repository) (reference : Reference) : Browser × List Request :=
  let source : Source := ⟨⟨b.generation, r⟩, reference⟩
  let history := b.history.start source
  let explorer := b.explorer.start source
  ({ b with
      reference := some reference
      history := history.1
      explorer := explorer.1
      stage := .ready },
    history.2 ++ explorer.2)

/-- Shows another tab; before the reference is known there is only one. -/
def changeTab (b : Browser) (t : Tab) : Browser :=
  if b.stage = .ready then { b with activeTab := t, tabs := b.tabs.activate t }
  else { b with tabs := b.tabs.activate b.activeTab }

def tabRefreshes (b : Browser) : Bool := b.stage = .ready

def viewInput (b : Browser) (i : Input) : Browser × List Request :=
  match b.activeTab with
  | .readme => ({ b with readme := b.readme.input i }, [])
  | .files =>
    let x := b.explorer.input i
    ({ b with explorer := x.1 }, x.2)
  | .commits =>
    let h := b.history.input i
    ({ b with history := h.1 }, h.2)
  | .branches | .tags => (b, [])

/-- What comes of an action: the browser, the requests, and whether the status line has to be
brought up to date. -/
structure Outcome where
  browser : Browser
  requests : List Request := []
  refreshes : Bool := false

/-- What an input does: it goes to the strip of tabs or else to the active view. -/
def input (b : Browser) (i : Input) : Outcome :=
  match b.tabs.input? i with
  | some (tabs, t) =>
    let b := { b with tabs }
    ⟨b.changeTab t, [], b.tabRefreshes⟩
  | none =>
    if b.repository.isSome then
      let v := b.viewInput i
      ⟨v.1, v.2, true⟩
    else ⟨b, [], false⟩

/-- What an action does, the status line apart. -/
def act (b : Browser) : Action → Outcome
  | .selectHeadline item => ⟨{ b with headline := some item }, [], false⟩
  | .selectRepository r =>
    let s := b.select r
    ⟨s.1, s.2, true⟩
  | .referenceResolved generation reference =>
    match b.repository with
    | some r =>
      if generation = b.generation && b.stage = .resolving then
        let s := b.resolve r reference
        ⟨s.1, s.2, true⟩
      else ⟨b, [], false⟩
    | none => ⟨b, [], false⟩
  | .referenceFailed generation reason =>
    if b.isStale generation then ⟨b, [], false⟩ else ⟨{ b with error := some reason }, [], false⟩
  | .readmeLoaded generation readme =>
    if b.isStale generation then ⟨b, [], false⟩
    else ⟨{ b with readme := b.readme.setContent readme.content readme.path }, [], true⟩
  | .readmeFailed generation reason =>
    if b.isStale generation then ⟨b, [], false⟩
    else ⟨{ b with readme := b.readme.setError reason }, [], false⟩
  | .log generation message =>
    if b.isStale generation then ⟨b, [], false⟩
    else
      let h := b.history.receive message
      ⟨{ b with history := h.1 }, h.2, true⟩
  | .files generation message =>
    if b.isStale generation then ⟨b, [], false⟩
    else ⟨{ b with explorer := b.explorer.receive message }, [], true⟩
  | .tabChanged t => ⟨b.changeTab t, [], b.tabRefreshes⟩
  | .resized width height => ⟨b.setSize width height, [], false⟩
  | .key k => { b with error := none }.input (.key k)
  | .mouse m => b.input (.mouse m)
  | .statusWanted => ⟨b, [], true⟩
  | .failed reason => ⟨{ b with error := some reason }, [], false⟩

def apply (b : Browser) (a : Action) : Browser × List Request :=
  let o := b.act a
  (if o.refreshes then o.browser.refresh else o.browser, o.requests)

def fault? (b : Browser) (a : Action) : Option Fault :=
  let received :=
    match a with
    | .log generation message =>
      if b.isStale generation then none else b.history.receiveFault? message
    | _ => none
  let o := b.act a
  received.or (if o.refreshes then o.browser.refreshFault? else none)

/-- What an action does, unless a fault stops the program. -/
def update (b : Browser) (a : Action) : Except Fault (Browser × List Request) :=
  checked (b.fault? a) (b.apply a)

/-! ### Help -/

def viewHelp (b : Browser) : List KeyHint :=
  match b.activeTab with
  | .readme => [⟨"↑/↓", "scroll"⟩]
  | .commits => b.history.help
  | .files => b.explorer.help
  | .branches | .tags => []

def help (b : Browser) : List KeyHint :=
  ⟨"esc", "back"⟩ :: ⟨"tab", "switch tab"⟩ :: b.viewHelp

end Browser

end RepoBrowser
