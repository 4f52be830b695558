import RepoBrowser.Http.Host

/-!
# Web addresses in their normal form

An address is written freely and sent in a normal form: the host in lower case, the standard port
left out, the steps `.` and `..` of the path taken, and characters that may not stand in an address
percent-encoded.

* `Url`, `Url.text`, `Url.target` — an address of the secure web, its text, and the part that is
  sent to its host;
* `parse?` — the address that a text stands for; user information is dropped.
-/

namespace RepoBrowser.Http

open Text

/-- An address of the secure web. -/
structure Url where
  host : List Char
  port : Option Nat
  path : List Char
  query : Option (List Char)
  fragment : Option (List Char)
  deriving DecidableEq, Repr

namespace Url

/-- The host with the port, if it is not the standard one. -/
def authority (u : Url) : List Char :=
  match u.port with
  | some p => u.host ++ ':' :: Nat.toDigits 10 p
  | none => u.host

def target (u : Url) : List Char :=
  match u.query with
  | some q => u.path ++ '?' :: q
  | none => u.path

def text (u : Url) : List Char :=
  "https://".toList ++ u.authority ++ u.target ++
    match u.fragment with
    | some f => '#' :: f
    | none => []

/-! ### Characters that are percent-encoded -/

/-- A text with the bytes of some characters percent-encoded, and all that are not printable
ASCII. -/
def encodeBut (special : List Char) (s : List Char) : List Char :=
  s.flatMap fun c =>
    if c.toNat < 0x20 || 0x7E < c.toNat || special.contains c then
      (String.utf8EncodeChar c).flatMap Percent.escape
    else [c]

def pathSpecials : List Char := [' ', '"', '#', '<', '>', '?', '\x60', '\x7B', '\x7D']

def querySpecials : List Char := [' ', '"', '#', '<', '>', '\'']

def fragmentSpecials : List Char := [' ', '"', '<', '>', '\x60']

/-! ### Paths -/

/-- A step with its escaped dots read. -/
def dotted : List Char → List Char
  | '%' :: '2' :: c :: s =>
    if c = 'e' || c = 'E' then '.' :: dotted s else '%' :: '2' :: c :: dotted s
  | c :: s => c :: dotted s
  | [] => []

/-- Takes the steps of a path; those taken are given in reverse. -/
def takeSteps (back : List (List Char)) : List (List Char) → List (List Char)
  | [] => back.reverse
  | [s] =>
    if dotted s = ['.'] then ([] :: back).reverse
    else if dotted s = ['.', '.'] then ([] :: back.drop 1).reverse
    else (s :: back).reverse
  | s :: t :: r =>
    if dotted s = ['.'] then takeSteps back (t :: r)
    else if dotted s = ['.', '.'] then takeSteps (back.drop 1) (t :: r)
    else takeSteps (s :: back) (t :: r)

/-- The normal form of a path that follows a host; both slashes divide it. -/
def normalPath (s : List Char) : List Char :=
  let s := s.map fun c => if c = '\\' then '/' else c
  let s := match s with
    | '/' :: r => r
    | r => r
  (takeSteps [] ((pieces '/' s).map (encodeBut pathSpecials))).flatMap fun p => '/' :: p

/-! ### Hosts and ports -/

/-- The port that stands behind a host, if it is not the standard one. -/
def port? (s : List Char) : Option (Option Nat) :=
  if s.isEmpty then some none
  else if s.all Char.isDigit then
    let n := s.foldl (fun n c => n * 10 + (c.toNat - 0x30)) 0
    if 65535 < n then none else some (if n = 443 then none else some n)
  else none

/-- A host and a port divided; the colons of an address in brackets do not count. -/
def splitPort (s : List Char) : List Char × List Char :=
  if s.head? = some '[' then
    match cutLast? ']' s with
    | some (h, ':' :: p) => (h ++ [']'], p)
    | some (h, []) => (h ++ [']'], [])
    | some (h, r) => (h ++ ']' :: r, [])
    | none => (s, [])
  else
    match cut? ':' s with
    | some r => r
    | none => (s, [])

/-- Whether a character ends the part of an address that names its host. -/
def endsAuthority (c : Char) : Bool := c = '/' || c = '\\' || c = '?' || c = '#'

/-- The address that a text behind `https:` stands for. -/
def ofSpecific? (s : List Char) : Option Url := do
  let s := s.dropWhile fun c => c = '/' || c = '\\'
  let front := s.takeWhile fun c => !endsAuthority c
  let rest := s.dropWhile fun c => !endsAuthority c
  let hostAndPort := match cutLast? '@' front with
    | some (_, h) => h
    | none => front
  let (h, p) := splitPort hostAndPort
  let host ← Host.normal? h
  let port ← port? p
  let (rest, fragment) := match cut? '#' rest with
    | some (r, f) => (r, some f)
    | none => (rest, none)
  let (path, query) := match cut? '?' rest with
    | some (r, q) => (r, some q)
    | none => (rest, none)
  some { host, port, path := normalPath path, query := query.map (encodeBut querySpecials),
         fragment := fragment.map (encodeBut fragmentSpecials) }

/-- The address that a text stands for; control characters and blanks at its ends, tabs and line
ends in it do not count. -/
def parse? (s : List Char) : Option Url :=
  let isEdge (c : Char) : Bool := c.toNat ≤ 0x20
  let s := ((s.dropWhile isEdge).reverse.dropWhile isEdge).reverse
  let s := s.filter fun c => !(c = '\t' || c = '\n' || c = '\r')
  (afterPrefix? "https:".toList s).bind ofSpecific?

end Url

end RepoBrowser.Http
