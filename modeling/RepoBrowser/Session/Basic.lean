import RepoBrowser.Browser.Draw

/-!
# A session

* `Session` — a browser with the name of the repository that it is for, the requests that wait to be
  performed, and a notice;
* `Event`, `Session.handle` — what can happen, and what comes of it;
* `Session.update` — what an action does;
* `Session.draw` — the browser with a line of help below it.

Opening a repository's page and copying the command that clones it need the world outside; an
`Errand` says which of them a key asks for.
-/

namespace RepoBrowser

open Text
open Time (Instant)

inductive Event where
  | start
  | tick
  | key (k : Key)
  | mouse (m : Mouse)
  | resized (width height : Nat)
  deriving DecidableEq, Repr

/-- Whether an event ends the program at once. -/
def Event.isInterrupt : Event → Bool
  | .key k => k.isInterrupt
  | _ => false

/-- Something to be done in the world outside. -/
inductive Errand where
  | openPage (url : String)
  | copy (command : String)
  deriving DecidableEq, Repr

/-- A browser with what surrounds it. -/
structure Session where
  browser : Browser
  /-- The name of the repository that the session is for. -/
  name : String
  /-- What is told in place of the help until the next key. -/
  notice : Option String := none
  quits : Bool := false
  /-- The requests that wait to be performed. -/
  waiting : List Request := []
  deriving DecidableEq, Repr

namespace Session

def helpHeight : Nat := 1

def new (name : String) (layout : Layout) : Session := { browser := .ofLayout layout, name }

def ask (s : Session) (requests : List Request) : Session :=
  { s with waiting := s.waiting ++ requests }

def update (s : Session) (a : Action) : Except Fault Session :=
  (s.browser.update a).map fun (browser, requests) => ({ s with browser } : Session).ask requests

/-- Looks the repository up, for the first time or again. -/
def lookUp (s : Session) : Session := s.ask [.resolveRepository s.name]

/-- Changes the size; the last row is that of the help. -/
def resize (s : Session) (width height : Nat) : Except Fault Session :=
  s.update (.resized width (height - helpHeight))

def handleKey (s : Session) (k : Key) : Except Fault Session :=
  let s := { s with notice := none }
  match k.code with
  | .character 'q' => .ok { s with quits := true }
  | .character 'o' | .character 'y' => .ok s
  | .character 'r' => .ok s.lookUp
  | _ => s.update (.key k)

def handle (s : Session) : Event → Except Fault Session
  | .start => .ok s.lookUp
  | .tick => .ok s
  | .key k => s.handleKey k
  | .mouse m => s.update (.mouse m)
  | .resized width height => s.resize width height

def cloneCommand? (s : Session) : Option String :=
  s.browser.repository.map fun r => "git clone " ++ r.cloneUrl

/-- What a key asks the world outside for. -/
def errand? (s : Session) : Event → Option Errand
  | .key k =>
    match k.code with
    | .character 'o' => s.browser.repository.map fun r => .openPage r.url
    | .character 'y' => s.cloneCommand?.map .copy
    | _ => none
  | _ => none

/-- The requests that wait, and the session without them. -/
def takeRequests (s : Session) : List Request × Session :=
  (s.waiting, { s with waiting := [] })

/-! ### Drawing -/

/-- The keys that mean the same everywhere. -/
def commonHelp : List KeyHint :=
  [⟨"o", "open"⟩, ⟨"y", "copy clone"⟩, ⟨"r", "reload"⟩, ⟨"q", "quit"⟩]

def hintSpans (h : KeyHint) : List Span :=
  [⟨h.key.toList, .inColour .gray⟩, ⟨[' '], .plain⟩, ⟨h.effect.toList, .inColour .darkGray⟩]

def hintSeparator : Span := ⟨" • ".toList, .inColour .darkGray⟩

def helpLine (hints : List KeyHint) : List Span :=
  ((hints.map hintSpans).intersperse [hintSeparator]).flatten

/-- The line below the browser: a notice or the help. -/
def footLine (s : Session) : List Span :=
  match s.notice with
  | some text => [⟨text.toList, .inColour .green⟩]
  | none => helpLine (s.browser.help ++ commonHelp)

def draw (s : Session) (now : Instant) (w h : Nat) : Screen :=
  s.browser.draw now w (h - helpHeight) ++ paragraph w (min h helpHeight) .plain [s.footLine]

def drawFault? (s : Session) : Option Fault := s.browser.drawFault?

end Session

end RepoBrowser
