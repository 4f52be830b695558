import RepoBrowser.Http.Host.Table
import RepoBrowser.Number.Total
import RepoBrowser.Text.Composition
import RepoBrowser.Text.Percent
import RepoBrowser.Text.Punycode

/-!
# Hosts in their normal form

* `Label` — the labels of a name: which characters they may hold, how those are joined, and which
  direction they run in;
* `asciiName?` — the ASCII form of a name in any letters (UTS #46);
* `ipv4?`, `ipv6?` — the normal forms of numeric addresses;
* `normal?` — the normal form of a host as it is written in an address.
-/

namespace RepoBrowser.Http.Host

open Text Number

/-! ### Characters -/

/-- The code points that a code point stands for in a name. -/
def meaning (n : Nat) : List Nat :=
  match shifts.find? fun r => r.1 ≤ n && n ≤ r.2.1 && (n - r.1) % r.2.2.1 = 0 with
  | some r => [(n + r.2.2.2 : Int).toNat]
  | none => (replacements.lookup n).getD (if Codes.isIn ignored n then [] else [n])

/-- A name with its characters brought into one form. -/
def unify (s : List Char) : List Char :=
  Composition.compose ((s.flatMap fun c => meaning c.toNat).map Char.ofNat)

/-- Whether a character can stand in a label as it is. -/
def isPlain (c : Char) : Bool := !Codes.isIn refused c.toNat && meaning c.toNat = [c.toNat]

/-! ### Directions -/

/-- The direction of a character: from left to right, from right to left, a digit of either kind of
numbers, a mark, or none. -/
inductive Direction where
  | left | right | arabicNumber | europeanNumber | mark | neutral
  deriving DecidableEq, Repr

def directionOf (c : Char) : Direction :=
  let n := c.toNat
  if Codes.isIn rightToLeft n then .right
  else if Codes.isIn arabicNumbers n then .arabicNumber
  else if Codes.isIn europeanNumbers n then .europeanNumber
  else if Codes.isIn nonspacing n then .mark
  else if Codes.isIn neutral n then .neutral
  else .left

/-- Whether a character makes a name one that runs in both directions. -/
def isBackward (c : Char) : Bool :=
  directionOf c = .right || directionOf c = .arabicNumber

namespace Label

/-- Whether the directions in a label of a name that runs in both directions agree with each other:
it starts with a letter, holds no letters of the other direction, and ends with a letter or a
number; one from right to left holds one kind of numbers only. -/
def hasOneDirection (l : List Char) : Bool :=
  let ds := l.map directionOf
  let last := (ds.reverse.dropWhile (· = .mark)).head?
  match ds.head? with
  | none => true
  | some .right =>
    ds.all (· ≠ .left)
      && (last = some .right || last = some .europeanNumber || last = some .arabicNumber)
      && !(ds.contains .europeanNumber && ds.contains .arabicNumber)
  | some .left =>
    ds.all (fun d => d ≠ .right && d ≠ .arabicNumber)
      && (last = some .left || last = some .europeanNumber)
  | some _ => false

/-- Whether a joiner may stand at its place, the text before it given in reverse: behind a mark that
joins consonants or, if it keeps letters apart, between letters that would be joined. -/
def allowsJoiner (before : List Char) (c : Char) (behind : List Char) : Bool :=
  let skip (s : List Char) : Option Char :=
    (s.dropWhile fun c => Codes.isIn transparent c.toNat).head?
  before.head?.any (fun d => Composition.markClass d.toNat = 9)
    || (c = '\u200C'
      && (skip before).any (fun d => Codes.isIn joinsNext d.toNat)
      && (skip behind).any (fun d => Codes.isIn joinsPrevious d.toNat))

/-- Whether all joiners in a label may stand there; the text before it is given in reverse. -/
def allowsJoiners (before : List Char) : List Char → Bool
  | [] => true
  | c :: s =>
    ((c ≠ '\u200C' && c ≠ '\u200D') || allowsJoiner before c s) && allowsJoiners (c :: before) s

def isValid (l : List Char) : Bool :=
  Composition.compose l = l
    && !(l.head?.any fun c => Codes.isIn marks c.toNat)
    && l.all isPlain
    && allowsJoiners [] l

def codeMark : List Char := "xn--".toList

/-- A label in its own letters; one in Punycode is decoded, and has to be well formed and more than
ASCII. -/
def decoded? (l : List Char) : Option (List Char) :=
  match afterPrefix? codeMark l with
  | none => if isValid l then some l else none
  | some code =>
    if l.all Punycode.isAscii then
      (Punycode.decode? code).bind fun t =>
        if isValid t && !t.all Punycode.isAscii then some t else none
    else none

def ascii (l : List Char) : List Char :=
  if l.all Punycode.isAscii then l else codeMark ++ Punycode.encode l

end Label

def asciiName? (name : List Char) : Option (List Char) := do
  let labels ← (pieces '.' (unify name)).mapM Label.decoded?
  let isMixed := labels.any fun l => l.any isBackward
  if isMixed && !labels.all Label.hasOneDirection then none
  else some (joinWith ['.'] (labels.map Label.ascii))

def isForbidden (c : Char) : Bool :=
  c.toNat ≤ 0x20 || c.toNat = 0x7F || "#/:<>?@[\\]^|%".toList.contains c

/-! ### Numeric addresses -/

/-- The number of a part of an IPv4 address: decimal, or hexadecimal or octal by its start. -/
def ipv4Part? (s : List Char) : Option Nat :=
  match s with
  | [] => none
  | '0' :: 'x' :: r =>
    r.foldlM (fun n c => (Percent.hexValue? c).map fun d => n * 16 + d) 0
  | '0' :: r =>
    r.foldlM (fun n c => if '0' ≤ c && c ≤ '7' then some (n * 8 + (c.toNat - 0x30)) else none) 0
  | r => r.foldlM (fun n c => if c.isDigit then some (n * 10 + (c.toNat - 0x30)) else none) 0

/-- The parts of a name, without the empty one behind a point at its end. -/
def ipv4Parts (s : List Char) : List (List Char) :=
  let parts := pieces '.' s
  if parts.getLast? = some [] then parts.dropLast else parts

/-- Whether a host ends in a number and so has to be an IPv4 address. -/
def endsInNumber (s : List Char) : Bool :=
  match (ipv4Parts s).getLast? with
  | some p => (!p.isEmpty && p.all Char.isDigit) || (p.take 2 = ['0', 'x'] && (ipv4Part? p).isSome)
  | none => false

def ipv4Number? (s : List Char) : Option Nat := do
  let ns ← (ipv4Parts s).mapM ipv4Part?
  let last ← ns.getLast?
  let front := ns.dropLast
  if 4 < ns.length || front.any (255 < ·) || Nat.pow 256 (5 - ns.length) ≤ last then none
  else some (total (front.zipIdx.map fun p => p.1 * Nat.pow 256 (3 - p.2)) + last)

def ipv4? (s : List Char) : Option (List Char) :=
  (ipv4Number? s).map fun n =>
    joinWith ['.'] ([3, 2, 1, 0].map fun k => Nat.toDigits 10 (n / Nat.pow 256 k % 256))

/-- The two pieces of an IPv6 address that an IPv4 address at its end stands for: four decimal
numbers below 256 without zeros in front. -/
def embedded? (s : List Char) : Option (List Nat) :=
  match (pieces '.' s).mapM part? with
  | some [a, b, c, d] => some [a * 256 + b, c * 256 + d]
  | _ => none
where
  /-- One of the four numbers. -/
  part? (p : List Char) : Option Nat :=
    if p.isEmpty || !p.all Char.isDigit || (p.head? = some '0' && p ≠ ['0']) || 3 < p.length then
      none
    else
      let n := p.foldl (fun n c => n * 10 + (c.toNat - 0x30)) 0
      if n < 256 then some n else none

/-- The number of a piece of an IPv6 address, of one to four hexadecimal digits. -/
def ipv6Piece? (p : List Char) : Option Nat :=
  if p.isEmpty || 4 < p.length then none
  else p.foldlM (fun n c => (Percent.hexValue? c).map fun d => n * 16 + d) 0

/-- The pieces of a part of an IPv6 address; if `atEnd`, an IPv4 address may stand at its end. -/
def ipv6Pieces? (atEnd : Bool) (s : List Char) : Option (List Nat) :=
  if s.isEmpty then some []
  else
    let ps := pieces ':' s
    match ps.getLast?, atEnd with
    | some l, true =>
      if l.contains '.' then do
        let front ← ps.dropLast.mapM ipv6Piece?
        let back ← embedded? l
        some (front ++ back)
      else ps.mapM ipv6Piece?
    | _, _ => ps.mapM ipv6Piece?

/-- The eight pieces of an IPv6 address; two colons stand once for at least one piece of zero. -/
def ipv6Numbers? (s : List Char) : Option (List Nat) :=
  match Text.cutLastAt? [':', ':'] s with
  | some (a, b) => do
    let front ← ipv6Pieces? false a
    let back ← ipv6Pieces? true b
    if 8 ≤ front.length + back.length then none
    else some (front ++ List.replicate (8 - front.length - back.length) 0 ++ back)
  | none => do
    let ns ← ipv6Pieces? true s
    if ns.length = 8 then some ns else none

/-- The runs of zeros in pieces from place `k` on, each with its place and its length. -/
def zeroRuns : Nat → List Nat → List (Nat × Nat)
  | _, [] => []
  | k, n :: ns =>
    match decide (n = 0), zeroRuns (k + 1) ns with
    | false, rs => rs
    | true, (p, l) :: rs => if p = k + 1 then (k, l + 1) :: rs else (k, 1) :: (p, l) :: rs
    | true, [] => [(k, 1)]

/-- The text of an IPv6 address: the first longest run of at least two zeros is two colons. -/
def ipv6Text (ns : List Nat) : List Char :=
  let text (ns : List Nat) : List Char := joinWith [':'] (ns.map (Nat.toDigits 16))
  let longest := (zeroRuns 0 ns).foldl (fun b r => if b.2 < r.2 then r else b) (0, 1)
  if longest.2 < 2 then text ns
  else text (ns.take longest.1) ++ "::".toList ++ text (ns.drop (longest.1 + longest.2))

def ipv6? (s : List Char) : Option (List Char) := (ipv6Numbers? s).map ipv6Text

/-! ### Hosts -/

def normal? (s : List Char) : Option (List Char) :=
  if s.head? = some '[' then
    if s.getLast? = some ']' then (ipv6? (s.drop 1).dropLast).map fun t => '[' :: t ++ [']']
    else none
  else
    (asciiName? (Utf8.decodeLossy (Percent.decode s))).bind fun ascii =>
      if ascii.isEmpty || ascii.any isForbidden then none
      else if endsInNumber ascii then ipv4? ascii
      else some ascii

end RepoBrowser.Http.Host
