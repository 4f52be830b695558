import RepoBrowser.CommandLine
import RepoBrowser.Config.Reader
import RepoBrowser.Credential
import RepoBrowser.Forge.GitHub
import RepoBrowser.Forge.Gitea
import RepoBrowser.Session.Work
import RepoBrowser.Shell.Run

/-!
# The program

Browses a repository line by line: each character of a line of input is a key, an empty line is the
key Enter, and the screen is printed after every line.  The program asks for nothing over a network
itself; a program that can replaces `transport`.  It starts no other programs either: a command for
a token is run by `Shell.run`, which knows the commands of a shell and the usual tools, and what
such a command makes of files is forgotten afterwards.
-/

namespace RepoBrowser.Program

open Time (Instant)

def transport : Http.Transport IO := Http.Transport.offline

def usage : String := "usage: repobrowser [owner/name] [--forge name] [--origin url] [--now time]"

def screenSize : Nat × Nat := (100, 30)

def textOf (s : Screen) : String :=
  "\n".intercalate (s.map fun row => String.ofList (row.flatMap (·.glyph)))

/-- The keys of a line of input. -/
def keysOf (line : String) : List Key :=
  let characters := Text.trimEnd line.toList
  if characters.isEmpty then [⟨.enter, {}⟩] else characters.map fun c => ⟨.character c, {}⟩

def handleAll (s : Session) (events : List Event) : Except Fault Session :=
  events.foldlM Session.handle s

/-- The forge of a configuration, opened with a token. -/
def forgeOf (config : ForgeConfig) (token : String) (now : Instant) : Forge IO :=
  match config.kind with
  | .github => GitHub.forge ⟨token⟩ transport now
  | .gitea => Gitea.forge ⟨config.host, token⟩ transport now

/-- Performs what waits until nothing does, at most `rounds` times. -/
def settle (forge : Forge IO) : Nat → Session → IO (Except Fault Session)
  | 0, s => pure (.ok s)
  | rounds + 1, s => do
    if s.waiting.isEmpty then return .ok s
    match ← s.work forge with
    | .error f => return .error f
    | .ok (_, s) => settle forge rounds s

/-- Reads lines and prints screens until the session or the input ends. -/
partial def converse (forge : Forge IO) (now : Instant) (s : Session) : IO Unit := do
  match ← settle forge 100 s with
  | .error (.splitId id) => IO.eprintln ("cannot abbreviate the id " ++ id)
  | .ok s =>
    if s.drawFault?.isSome || s.quits then return
    IO.println (textOf (s.draw now screenSize.1 screenSize.2).shown)
    let line ← (← IO.getStdin).getLine
    if line.isEmpty then return
    match handleAll s ((keysOf line).map .key) with
    | .error (.splitId id) => IO.eprintln ("cannot abbreviate the id " ++ id)
    | .ok s => converse forge now s

def textOfFile? (path : String) : IO (Option String) := do
  try
    return some (← IO.FS.readFile path)
  catch _ => return none

def settings : IO Config := do
  match ← IO.getEnv "HOME" with
  | some home => return Config.load (← textOfFile? (home ++ "/.config/repobrowser/config.toml"))
  | none => return Config.standard

/-- The variables that a command for a token sees, of those that are set. -/
def commandVariables : IO (List (String × String)) :=
  ["HOME", "PATH", "USER", "LANG"].filterMapM fun name =>
    return (← IO.getEnv name).map fun value => (name, value)

def start (options : Options) : IO UInt32 := do
  match options.plan (← settings) with
  | .error e =>
    IO.eprintln e.message
    return 1
  | .ok (name, config) =>
    let value ← match config.tokenVariable with
      | some variableName => IO.getEnv variableName
      | none => pure none
    let given ← commandVariables
    let run := fun command => some (Shell.run given command)
    match (loadToken config (fun _ => value) ⟨none, false⟩ run).1 with
    | .error e =>
      IO.eprintln e.message
      return 1
    | .ok token =>
      let now := options.now.getD ⟨0, 0⟩
      let s := (Session.new name {}).lookUp
      match s.resize screenSize.1 screenSize.2 with
      | .error _ => return 1
      | .ok s =>
        converse (forgeOf config token now) now s
        return 0

end RepoBrowser.Program

def main (arguments : List String) : IO UInt32 := do
  match RepoBrowser.Options.parse? arguments with
  | some options => RepoBrowser.Program.start options
  | none =>
    IO.eprintln RepoBrowser.Program.usage
    return 2
