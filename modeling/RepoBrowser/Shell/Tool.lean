import RepoBrowser.Shell.Tool.Bytes
import RepoBrowser.Shell.Tool.Grep
import RepoBrowser.Shell.Tool.Lines
import RepoBrowser.Shell.Tool.Names
import RepoBrowser.Shell.Tool.Sed
import RepoBrowser.Shell.Tool.Value

/-!
# The tools by name

* `Tool.named?` — the tool of a name;
* `Tool.directories` — where tools are found.
-/

namespace RepoBrowser.Shell.Tool

/-- Arguments with blanks between them; escapes are read only if that is asked for. -/
def echo : Tool := fun t => .printing (go t.arguments false true)
where
  /-- The same behind some options: whether escapes are read, and whether a line end is printed. -/
  go : List (List Char) → Bool → Bool → List Char
    | ['-', 'n'] :: as, reads, _ => go as reads false
    | ['-', 'e'] :: as, _, ends => go as true ends
    | ['-', 'E'] :: as, _, ends => go as false ends
    | ['-', 'n', 'e'] :: as, _, _ => go as true false
    | ['-', 'e', 'n'] :: as, _, _ => go as true false
    | as, reads, ends =>
      let lineEnd := if ends then ['\n'] else []
      if reads then echoBody lineEnd as else Text.joinWith [' '] as ++ lineEnd

def printf : Tool := fun t =>
  let (out, status) := Shell.printf t.arguments
  { output := out, status, readsInput := false }

def ending (status : Nat) : Tool := fun _ => { status, readsInput := false }

def yes : Tool := fun t =>
  let line := (if t.arguments.isEmpty then ['y'] else Text.joinWith [' '] t.arguments) ++ ['\n']
  .printing (List.replicate 4096 line).flatten

def named? (name : List Char) : Option Tool :=
  match String.ofList name with
  | "base64" => some base64
  | "basename" => some basename
  | "cat" => some cat
  | "cp" => some cp
  | "cut" => some cut
  | "dirname" => some dirname
  | "echo" => some echo
  | "egrep" => some egrep
  | "expr" => some expr
  | "false" => some (ending 1)
  | "fgrep" => some fgrep
  | "fold" => some fold
  | "grep" => some grep
  | "head" => some head
  | "mkdir" => some mkdir
  | "mktemp" => some mktemp
  | "mv" => some mv
  | "nl" => some nl
  | "paste" => some paste
  | "printf" => some printf
  | "rev" => some rev
  | "rm" => some rm
  | "sed" => some sed
  | "seq" => some seq
  | "sleep" => some (ending 0)
  | "sort" => some sort
  | "sync" => some (ending 0)
  | "tac" => some tac
  | "tail" => some tail
  | "tee" => some tee
  | "touch" => some touch
  | "tr" => some tr
  | "true" => some (ending 0)
  | "uniq" => some uniq
  | "wc" => some wc
  | "yes" => some yes
  | _ => none

def directories : List (List Char) := ["/bin".toList, "/usr/bin".toList]

end RepoBrowser.Shell.Tool
