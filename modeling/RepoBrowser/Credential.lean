import RepoBrowser.Checkout
import RepoBrowser.Config.Basic

/-!
# Tokens of forges

A forge's token comes from its environment variable, else from the file it was kept in, else from
its command, whose word is then kept in the file.

* `TokenFile` — the file that keeps a forge's token, and whether it can be written;
* `TokenFile.token?`, `TokenFile.keep` — what it says and what it says next time;
* `loadToken` — the token, with the file as it is afterwards.
-/

namespace RepoBrowser

/-- The file that keeps a forge's token: its bytes if there is one that can be read, and whether it
can be written.  What can be written is taken to be readable afterwards; a file that can only be
written is left out. -/
structure TokenFile where
  content : Option (List UInt8)
  writable : Bool
  deriving DecidableEq, Repr

/-- The token that a file keeps: its text without the blanks at the ends, if any is left. -/
def TokenFile.token? (f : TokenFile) : Option String :=
  ((f.content.bind Text.Utf8.decode?).map Text.trim).bind fun t =>
    if t.isEmpty then none else some (String.ofList t)

def TokenFile.keep (f : TokenFile) (token : String) : TokenFile :=
  if f.writable then { f with content := some (Text.Utf8.encode token.toList) } else f

/-- The token that the environment has for a forge; an empty variable counts for none. -/
def variableToken? (forge : ForgeConfig) (environment : String → Option String) : Option String :=
  (forge.tokenVariable.bind environment).bind fun t => if t.isEmpty then none else some t

def commandToken? (forge : ForgeConfig) (run : String → Option CommandResult) : Option String :=
  forge.tokenCommand.bind fun c => CommandResult.word? (run c)

/-- A forge's token, and the file that keeps it as it is afterwards. -/
def loadToken (forge : ForgeConfig) (environment : String → Option String) (file : TokenFile)
    (run : String → Option CommandResult) : Except Error String × TokenFile :=
  match variableToken? forge environment with
  | some t => (.ok t, file)
  | none =>
    match file.token? with
    | some t => (.ok t, file)
    | none =>
      match commandToken? forge run with
      | some t => (.ok t, file.keep t)
      | none => (.error (.noToken forge.name forge.tokenVariable), file)

end RepoBrowser
