import RepoBrowser.Text.Blank
import RepoBrowser.Text.Utf8

/-!
# The checkout that the program is started in

`originUrl?` reads the URL of the remote `origin` from the result of the command that prints it:
the command has to succeed, and its output must not be blank.
-/

namespace RepoBrowser

/-- What a command did: its output and the code it asked to exit with. -/
structure CommandResult where
  output : List UInt8
  exitCode : Int
  deriving DecidableEq, Repr

/-- Whether a command succeeded: only the lowest eight bits of its code count, which have to be
zero; a code that is negative or needs more than 31 bits is refused and fails. -/
def CommandResult.isSuccess (r : CommandResult) : Bool :=
  0 ≤ r.exitCode && r.exitCode < 2147483648 && r.exitCode % 256 = 0

/-- The output of a command that succeeded and printed more than blanks, without the blanks at its
ends.  `none` stands for a command that could not be run. -/
def CommandResult.word? : Option CommandResult → Option String
  | none => none
  | some r =>
    let text := Text.trim (Text.Utf8.decodeLossy r.output)
    if r.isSuccess && !text.isEmpty then some (String.ofList text) else none

def originUrl? (printed : Option CommandResult) : Option String := CommandResult.word? printed

end RepoBrowser
