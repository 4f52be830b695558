import RepoBrowser.Shell.Integer
import RepoBrowser.Shell.Syntax

/-!
# The state of a shell

* `World` — what a shell shares with those it starts: channels that bytes are passed through, and
  files;
* `Handle` — what a stream is connected to;
* `Flow` — whether commands run on, or a loop, a function or the shell is being left;
* `State` — the state of a shell: variables, arguments, functions, streams and options;
* `State.write`, `State.readAll`, `State.readLine` — what is passed through streams;
* `State.set`, `State.lookup?` — variables;
* `State.fail` — the end of a shell that met an error.

Files are those that the script has written itself; there are no others.
-/

namespace RepoBrowser.Shell

/-- What a stream is connected to: a channel, a file that is written, or nothing at all. -/
inductive Handle where
  | channel (number : Nat)
  | file (name : List Char)
  | nothing
  deriving DecidableEq, Repr

/-- Whether commands run on, or something is being left: loops or rounds of them, a function, or
the shell. -/
inductive Flow where
  | going
  | leaving (loops : Nat)
  | skipping (loops : Nat)
  | returning
  | ended
  deriving DecidableEq, Repr

/-- What a shell shares with those it starts: the bytes that are in channels, files, directories,
the documents in the scripts read so far, and whether the first shell has been killed, with the code
that this gives. -/
structure World where
  channels : List (Nat × List Char) := []
  fresh : Nat := 3
  files : List (List Char × List Char) := []
  directories : List (List Char) := []
  documents : List Word := []
  killed : Option Nat := none

/-- An option of a shell, by the name that the language has for it. -/
inductive Switch where
  | errexit | noglob | ignoreeof | interactive | monitor | noexec | stdin | xtrace | verbose | vi
  | emacs | noclobber | allexport | notify | nounset | nolog | debug
  deriving DecidableEq, Repr

namespace Switch

/-- All options in the order in which they are listed. -/
def all : List Switch :=
  [errexit, noglob, ignoreeof, interactive, monitor, noexec, stdin, xtrace, verbose, vi, emacs,
    noclobber, allexport, notify, nounset, nolog, debug]

def name : Switch → String
  | errexit => "errexit" | noglob => "noglob" | ignoreeof => "ignoreeof"
  | interactive => "interactive" | monitor => "monitor" | noexec => "noexec" | stdin => "stdin"
  | xtrace => "xtrace" | verbose => "verbose" | vi => "vi" | emacs => "emacs"
  | noclobber => "noclobber" | allexport => "allexport" | notify => "notify"
  | nounset => "nounset" | nolog => "nolog" | debug => "debug"

/-- The letter that stands for an option; two have none. -/
def letter? : Switch → Option Char
  | errexit => some 'e' | noglob => some 'f' | ignoreeof => some 'I' | interactive => some 'i'
  | monitor => some 'm' | noexec => some 'n' | stdin => some 's' | xtrace => some 'x'
  | verbose => some 'v' | vi => some 'V' | emacs => some 'E' | noclobber => some 'C'
  | allexport => some 'a' | notify => some 'b' | nounset => some 'u' | nolog | debug => none

def ofLetter? (c : Char) : Option Switch := all.find? fun o => o.letter? = some c

def ofName? (name : List Char) : Option Switch := all.find? fun o => o.name.toList = name

end Switch

/-- The state of a shell.  `number` tells it from other programs that run, `title` is the name it
was started by, `substituted` is the status of the last substitution in a command, `isTested` tells
that a failure is looked at and does not stop the shell, and `loops` counts the loops around a
command.  `nextOption` is the place of the argument in which options are looked for next, and `letter` the
place in the one before where there are more. -/
structure State where
  world : World := {}
  number : Nat := 4242
  title : List Char := ['s', 'h']
  values : List (List Char × List Char) := []
  exported : List (List Char) := []
  fixed : List (List Char) := []
  arguments : List (List Char) := []
  functions : List (List Char × Command) := []
  locals : List (List (List Char × Option (List Char))) := []
  handles : List (Nat × Handle) := []
  status : Nat := 0
  substituted : Option Nat := none
  flow : Flow := .going
  isTested : Bool := false
  loops : Nat := 0
  switches : List Switch := []
  nextOption : Nat := 1
  letter : Option Nat := none
  atExit : List Char := []
  line : Nat := 1

/-- A list of pairs with the value of a key replaced, or put in front. -/
def assoc {α β : Type} [DecidableEq α] (k : α) (v : β) (xs : List (α × β)) : List (α × β) :=
  (k, v) :: xs.filter (·.1 ≠ k)

def dissoc {α β : Type} [DecidableEq α] (k : α) (xs : List (α × β)) : List (α × β) :=
  xs.filter (·.1 ≠ k)

namespace World

def content (w : World) (k : Nat) : List Char := (w.channels.lookup k).getD []

def setContent (w : World) (k : Nat) (t : List Char) : World :=
  { w with channels := assoc k t w.channels }

def open_ (w : World) (t : List Char) : Nat × World :=
  (w.fresh, { w with channels := (w.fresh, t) :: w.channels, fresh := w.fresh + 1 })

def close (w : World) (k : Nat) : World := { w with channels := dissoc k w.channels }

def file? (w : World) (name : List Char) : Option (List Char) :=
  if name = "/dev/null".toList then some [] else w.files.lookup name

def setFile (w : World) (name t : List Char) : World :=
  if name = "/dev/null".toList then w else { w with files := assoc name t w.files }

end World

namespace State

/-! ### Streams -/

def connect (s : State) (stream : Nat) (h : Handle) : State :=
  { s with handles := assoc stream h s.handles }

def isOpen (s : State) (stream : Nat) : Bool := (s.handles.lookup stream).isSome

def disconnect (s : State) (stream : Nat) : State :=
  { s with handles := dissoc stream s.handles }

/-- Writes to a stream; what goes to an unconnected one is lost. -/
def write (s : State) (stream : Nat) (t : List Char) : State :=
  match s.handles.lookup stream with
  | some (.channel k) => { s with world := s.world.setContent k (s.world.content k ++ t) }
  | some (.file name) =>
    { s with world := s.world.setFile name ((s.world.file? name).getD [] ++ t) }
  | some .nothing | none => s

/-- All that is left in a stream, which is empty afterwards. -/
def readAll (s : State) (stream : Nat) : List Char × State :=
  match s.handles.lookup stream with
  | some (.channel k) => (s.world.content k, { s with world := s.world.setContent k [] })
  | _ => ([], s)

/-- What is left in a stream, which stays there. -/
def ahead (s : State) (stream : Nat) : List Char :=
  match s.handles.lookup stream with
  | some (.channel k) => s.world.content k
  | _ => []

def skip (s : State) (stream n : Nat) : State :=
  match s.handles.lookup stream with
  | some (.channel k) => { s with world := s.world.setContent k ((s.world.content k).drop n) }
  | _ => s

def complain (s : State) (t : List Char) : State :=
  s.write 2 (s.title ++ ": ".toList ++ Nat.toDigits 10 s.line ++ ": ".toList ++ t ++ ['\n'])

/-- The end of a shell that met an error. -/
def fail (s : State) (t : List Char) : State := { s.complain t with status := 2, flow := .ended }

def isGoing (s : State) : Bool := s.flow = .going

/-! ### Variables -/

/-- The value of a variable, if it is set. -/
def lookup? (s : State) (name : List Char) : Option (List Char) := s.values.lookup name

def share (s : State) (name : List Char) : State :=
  if s.exported.contains name then s else { s with exported := name :: s.exported }

def has (s : State) (o : Switch) : Bool := s.switches.contains o

/-- Sets a variable that is not fixed; the place of the next option starts anew at a number that is
set. -/
def set (s : State) (name value : List Char) : State :=
  if s.fixed.contains name then s.fail (name ++ ": is read only".toList)
  else
    let s := { s with values := assoc name value s.values }
    let s := if s.has .allexport then s.share name else s
    if name = "OPTIND".toList then
      let k := if value.all Char.isDigit then Integer.ofDigits 10 value else 1
      { s with nextOption := max k 1, letter := none }
    else s

def unset (s : State) (name : List Char) : State :=
  if s.fixed.contains name then s.fail (name ++ ": is read only".toList)
  else { s with values := dissoc name s.values, exported := s.exported.filter (· ≠ name) }

def restore (s : State) (name : List Char) (value : Option (List Char)) : State :=
  match value with
  | some v => { s with values := assoc name v s.values }
  | none => { s with values := dissoc name s.values }

/-- The characters at which values are divided. -/
def separators (s : State) : List Char := (s.lookup? "IFS".toList).getD [' ', '\t', '\n']

def environment (s : State) : List (List Char × List Char) :=
  s.values.filter fun v => s.exported.contains v.1

end State

end RepoBrowser.Shell
