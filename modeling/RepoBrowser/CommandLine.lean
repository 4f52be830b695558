import RepoBrowser.Config.Basic
import RepoBrowser.Time.Instant

/-!
# The command line

* `Options`, `Options.parse?` — what can be asked for when the program is started;
* `Options.plan` — the repository and the forge that a session is for.

What is not asked for is taken from the remote `origin` of the checkout that the program is started
in.
-/

namespace RepoBrowser

open Time (Instant)

/-- What can be asked for when the program is started. -/
structure Options where
  /-- The repository, as `owner/name`. -/
  repository : Option String := none
  /-- The name of a forge in the configuration. -/
  forge : Option String := none
  /-- The URL of the remote `origin`. -/
  origin : Option String := none
  /-- The time that ages are counted to. -/
  now : Option Instant := none
  deriving DecidableEq, Repr

namespace Options

/-- Reads arguments behind those that are already in `o`. -/
def parseFrom? (o : Options) : List String → Option Options
  | [] => some o
  | "--forge" :: name :: rest =>
    if o.forge.isSome then none else parseFrom? { o with forge := some name } rest
  | "--origin" :: url :: rest =>
    if o.origin.isSome then none else parseFrom? { o with origin := some url } rest
  | "--now" :: time :: rest =>
    match Instant.ofRfc3339? time.toList with
    | some t => parseFrom? { o with now := some t } rest
    | none => none
  | word :: rest =>
    if word.startsWith "-" || o.repository.isSome then none
    else parseFrom? { o with repository := some word } rest

def parse? (arguments : List String) : Option Options := parseFrom? {} arguments

/-- The repository and the forge that a session is for. -/
def plan (o : Options) (config : Config) : Except Error (String × ForgeConfig) :=
  match o.repository.or (o.origin.bind Remote.repository?) with
  | none => .error .noRepository
  | some name => (config.chooseForge o.forge o.origin).map fun forge => (name, forge)

end Options

end RepoBrowser
