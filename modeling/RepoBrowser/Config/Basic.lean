import RepoBrowser.Error
import RepoBrowser.Layout
import RepoBrowser.Remote

/-!
# Configuration: the forges and the layout

* `ForgeConfig`, `Config` — a forge with the sources of its token, and all settings;
* `Config.standard` — the settings that hold without a configuration file;
* `Config.chooseForge` — the forge to use: the one asked for by name, else the one at the host of
  the checkout's remote, else the default one, else the first.
-/

namespace RepoBrowser

inductive ForgeKind where
  | github | gitea
  deriving DecidableEq, Repr, Inhabited

/-- A forge and where its token comes from. -/
structure ForgeConfig where
  name : String
  kind : ForgeKind
  host : String
  tokenVariable : Option String
  tokenCommand : Option String
  deriving DecidableEq, Repr, Inhabited

structure Config where
  defaultForge : Option String
  forges : List ForgeConfig
  layout : Layout
  deriving DecidableEq, Repr, Inhabited

namespace Config

/-- The forge that is there without a configuration file. -/
def standardForge : ForgeConfig :=
  ⟨"github", .github, "github.com", some "GITHUB_TOKEN", some "gh auth token"⟩

def standard : Config := ⟨none, [standardForge], {}⟩

/-- The settings with the standard forge if they list none. -/
def orStandardForge (c : Config) : Config :=
  if c.forges.isEmpty then { c with forges := [standardForge] } else c

def forgeNamed? (c : Config) (name : String) : Option ForgeConfig :=
  c.forges.find? fun f => f.name == name

def forgeAt? (c : Config) (host : String) : Option ForgeConfig :=
  c.forges.find? fun f => f.host == host

/-- The forge to use when none is asked for by name. -/
def inferForge? (c : Config) (remote : Option String) : Option ForgeConfig :=
  ((remote.bind Remote.host?).bind c.forgeAt?).or
    ((c.defaultForge.bind c.forgeNamed?).or c.forges.head?)

/-- The forge to use, by the name that was asked for, by the remote of the checkout, by default. -/
def chooseForge (c : Config) (name remote : Option String) : Except Error ForgeConfig :=
  match name with
  | some n =>
    match c.forgeNamed? n with
    | some f => .ok f
    | none => .error (.noForgeNamed n)
  | none =>
    match c.inferForge? remote with
    | some f => .ok f
    | none => .error .noForges

theorem orStandardForge_forges_ne_nil (c : Config) : c.orStandardForge.forges ≠ [] := by
  unfold orStandardForge
  split
  · simp
  · next h => simpa using h

end Config

end RepoBrowser
