import RepoBrowser.Shell.Integer

/-!
# Patterns

A pattern matches whole texts: `*` any text, `?` any byte, and a list in brackets one of its bytes.

* `Pattern`, `Pattern.of` — a pattern, and the one that a text spells, of which some characters are
  quoted and stand for themselves;
* `Pattern.isMatch` — whether it matches a text;
* `Pattern.cutFront`, `Pattern.cutBack` — a text without what it matches at one of its ends.
-/

namespace RepoBrowser.Shell

/-- What a list in brackets has: a range of bytes, or a class of them. -/
inductive Member where
  | range (lo hi : Char)
  | named (test : Char → Bool)

namespace Member

def holds (c : Char) : Member → Bool
  | .range lo hi => lo ≤ c && c ≤ hi
  | .named test => test c

def isPunctuation (c : Char) : Bool := 0x21 ≤ c.toNat && c.toNat ≤ 0x7E && !c.isAlphanum

def class? (name : List Char) : Option (Char → Bool) :=
  match String.ofList name with
  | "alpha" => some Char.isAlpha
  | "digit" => some Char.isDigit
  | "alnum" => some Char.isAlphanum
  | "upper" => some Char.isUpper
  | "lower" => some Char.isLower
  | "space" => some Integer.isSpace
  | "blank" => some fun c => c = ' ' || c = '\t'
  | "punct" => some isPunctuation
  | "print" => some fun c => 0x20 ≤ c.toNat && c.toNat ≤ 0x7E
  | "graph" => some fun c => 0x21 ≤ c.toNat && c.toNat ≤ 0x7E
  | "cntrl" => some fun c => c.toNat < 0x20 || c.toNat = 0x7F
  | "xdigit" => some (Integer.isDigitOf 16)
  | _ => none

/-- The class named at the start of a text, `[:` apart, and the text behind it. -/
def readClass? (s : List Char) : Option (Member × List Char) :=
  let name := s.takeWhile Char.isAlpha
  match s.drop name.length with
  | ':' :: ']' :: r => (class? name).map fun test => (.named test, r)
  | _ => none

end Member

inductive PatternItem where
  | anyText
  | anyByte
  | oneOf (negated : Bool) (members : List Member)
  | byte (c : Char)

abbrev Pattern := List PatternItem

namespace Pattern

/-- Reads the members of a list in brackets up to the closing one, in at most `n` steps; those
before are given in reverse. -/
def readMembers? : Nat → List Member → List (Char × Bool) →
    Option (List Member × List (Char × Bool))
  | 0, _, _ => none
  | _, _, [] => none
  | n + 1, back, (c, quoted) :: s =>
    if c = ']' && !quoted && !back.isEmpty then some (back.reverse, s)
    else
      let named? := match c, quoted, s with
        | '[', false, (':', false) :: r => Member.readClass? (r.map Prod.fst)
        | _, _, _ => none
      match named? with
      | some (m, r) => readMembers? n (m :: back) (s.drop (s.length - r.length))
      | none =>
        match s with
        | ('-', false) :: (d, dq) :: r =>
          if d = ']' && !dq then readMembers? n (.range c c :: back) s
          else readMembers? n (.range c d :: back) r
        | _ => readMembers? n (.range c c :: back) s

/-- The pattern that a text spells, in at most `n` steps; characters come with whether they are
quoted. -/
def ofFrom : Nat → List (Char × Bool) → Pattern
  | 0, _ => []
  | _, [] => []
  | n + 1, (c, quoted) :: s =>
    if quoted then .byte c :: ofFrom n s
    else if c = '*' then .anyText :: ofFrom n s
    else if c = '?' then .anyByte :: ofFrom n s
    else if c = '\\' then
      match s with
      | (d, _) :: r => .byte d :: ofFrom n r
      | [] => [.byte c]
    else if c = '[' then
      let (negated, t) := match s with
        | ('!', false) :: r | ('^', false) :: r => (true, r)
        | r => (false, r)
      match readMembers? (t.length + 1) [] t with
      | some (ms, r) => .oneOf negated ms :: ofFrom n r
      | none => .byte c :: ofFrom n s
    else .byte c :: ofFrom n s

/-- The pattern that a text spells; characters come with whether they are quoted. -/
def of (s : List (Char × Bool)) : Pattern := ofFrom (s.length + 1) s

/-- The ends of a text, the longest first. -/
def ends : List Char → List (List Char)
  | [] => [[]]
  | c :: s => (c :: s) :: ends s

def isMatch : Pattern → List Char → Bool
  | [], s => s.isEmpty
  | .anyText :: p, s => (ends s).any (isMatch p)
  | .anyByte :: p, _ :: s => isMatch p s
  | .oneOf negated ms :: p, c :: s => (ms.any (·.holds c) != negated) && isMatch p s
  | .byte d :: p, c :: s => c = d && isMatch p s
  | _ :: _, [] => false

/-- A text without the shortest or the longest start that a pattern matches. -/
def cutFront (p : Pattern) (longest : Bool) (s : List Char) : List Char :=
  let lengths := List.range (s.length + 1)
  let lengths := if longest then lengths.reverse else lengths
  match lengths.find? fun k => isMatch p (s.take k) with
  | some k => s.drop k
  | none => s

/-- A text without the shortest or the longest end that a pattern matches. -/
def cutBack (p : Pattern) (longest : Bool) (s : List Char) : List Char :=
  let lengths := List.range (s.length + 1)
  let lengths := if longest then lengths else lengths.reverse
  match lengths.find? fun k => isMatch p (s.drop k) with
  | some k => s.take k
  | none => s

end Pattern

end RepoBrowser.Shell
