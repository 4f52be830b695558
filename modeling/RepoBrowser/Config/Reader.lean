import RepoBrowser.Config.Basic
import RepoBrowser.Toml.Reader

/-!
# Reading a configuration file

Settings are read from a TOML document with a table `general`, an array of tables `forges` and a
table `layout`; keys with no meaning are passed over.  A table may also be given as the array of
its values in order, or as a date or time, which counts as a table without the keys that have a
meaning.

* `Config.parse?` — the settings of a document, the standard forge standing in for an empty list;
* `Config.load` — the same, the standard settings standing in for a missing or wrong document.
-/

namespace RepoBrowser.Config

def string? : Toml → Option String
  | .string s => some s
  | _ => none

/-- A row count: an integer of 16 bits. -/
def extent? : Toml → Option Nat
  | .integer n => if 0 ≤ n && n ≤ maxExtent then some n.toNat else none
  | _ => none

/-- The kind of forge that a value stands for: its word, or a table with the word as only key and
nothing in it. -/
def forgeKind? : Toml → Option ForgeKind
  | .string s => ofWord? s
  | .table [(k, .table [])] | .table [(k, .array [])] => ofWord? k
  | _ => none
where
  /-- The kind of a word. -/
  ofWord? (s : String) : Option ForgeKind :=
    if s = "github" then some .github else if s = "gitea" then some .gitea else none

/-- The value that a record gives one of its keys: by name in a table, by place in an array. -/
def field? (v : Toml) (place : Nat) (key : String) : Option Toml :=
  match v with
  | .array xs => xs[place]?
  | v => v.get? key

/-- Whether a value can hold a record with `places` values that have no default. -/
def isRecord (places : Nat) : Toml → Bool
  | .table _ | .dateTime => true
  | .array xs => places ≤ xs.length
  | _ => false

def optional? {α : Type} (read : Toml → Option α) : Option Toml → Option (Option α)
  | none => some none
  | some v => (read v).map some

def forge? (v : Toml) : Option ForgeConfig := do
  if !isRecord 5 v then none
  else
    let name ← (field? v 0 "name").bind string?
    let kind ← (field? v 1 "type").bind forgeKind?
    let host ← (field? v 2 "host").bind string?
    let tokenVariable ← optional? string? (field? v 3 "token_env")
    let tokenCommand ← optional? string? (field? v 4 "token_command")
    some { name, kind, host, tokenVariable, tokenCommand }

def forges? : Toml → Option (List ForgeConfig)
  | .array xs => xs.mapM forge?
  | _ => none

def defaultForge? (v : Toml) : Option (Option String) :=
  if isRecord 1 v then optional? string? (field? v 0 "default_forge") else none

/-- The row counts, with the standard ones for those that are missing. -/
def layout? (v : Toml) : Option Layout := do
  if !isRecord 0 v then none
  else
    let headerHeight ← optional? extent? (field? v 0 "header_height")
    let headerFrame ← optional? extent? (field? v 1 "header_frame")
    let tabsHeight ← optional? extent? (field? v 2 "tabs_height")
    let tabsFrame ← optional? extent? (field? v 3 "tabs_frame")
    let statusHeight ← optional? extent? (field? v 4 "status_bar_height")
    let bodyFrame ← optional? extent? (field? v 5 "body_frame")
    let d : Layout := {}
    some {
      headerHeight := headerHeight.getD d.headerHeight
      headerFrame := headerFrame.getD d.headerFrame
      tabsHeight := tabsHeight.getD d.tabsHeight
      tabsFrame := tabsFrame.getD d.tabsFrame
      statusHeight := statusHeight.getD d.statusHeight
      bodyFrame := bodyFrame.getD d.bodyFrame }

/-- The settings of a TOML table, as they stand there. -/
def ofToml? (v : Toml) : Option Config := do
  let defaultForge ← optional? defaultForge? (v.get? "general")
  let forges ← optional? forges? (v.get? "forges")
  let layout ← optional? layout? (v.get? "layout")
  some ⟨defaultForge.join, forges.getD [], layout.getD {}⟩

def parse? (document : String) : Option Config :=
  ((Toml.parse? document.toList).bind ofToml?).map orStandardForge

/-- The settings of the configuration file, if there is one and it can be read. -/
def load (document : Option String) : Config := (document.bind parse?).getD standard

theorem forges_ne_nil_of_parse? {document : String} {c : Config} (h : parse? document = some c) :
    c.forges ≠ [] := by
  obtain ⟨d, -, rfl⟩ := Option.map_eq_some_iff.1 h
  exact d.orStandardForge_forges_ne_nil

end RepoBrowser.Config
