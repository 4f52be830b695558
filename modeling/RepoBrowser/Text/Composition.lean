import RepoBrowser.Text.Composition.Table

/-!
# Letters put together with their marks

The same letter can be written as one character, or as a letter with marks behind it.  This file
brings texts into the form in which as much as possible is one character (normal form C).

* `decompose` — the parts of a character;
* `arrange` — marks put in the order of their classes;
* `join?`, `joinAll` — parts put together again;
* `compose` — the normal form of a text.
-/

namespace RepoBrowser.Text.Composition

/-- The class of a mark, 0 for all other characters. -/
def markClass (n : Nat) : Nat :=
  match markClasses.find? fun r => r.1 ≤ n && n ≤ r.2.1 with
  | some r => r.2.2
  | none => 0

/-! ### Syllables of Hangul -/

def syllableStart : Nat := 0xAC00

def syllableParts (n : Nat) : List Nat :=
  let k := n - syllableStart
  let front := [0x1100 + k / 588, 0x1161 + k / 28 % 21]
  if k % 28 = 0 then front else front ++ [0x11A7 + k % 28]

/-- The syllable that two parts make up. -/
def syllable? (a b : Nat) : Option Nat :=
  if 0x1100 ≤ a && a < 0x1113 && 0x1161 ≤ b && b < 0x1176 then
    some (syllableStart + ((a - 0x1100) * 21 + (b - 0x1161)) * 28)
  else if syllableStart ≤ a && a < 0xD7A4 && (a - syllableStart) % 28 = 0 && 0x11A8 ≤ b
      && b < 0x11C3 then
    some (a + (b - 0x11A7))
  else none

/-! ### Taking characters apart -/

/-- The parts of a character, in at most `n` steps. -/
def decomposeFrom : Nat → Nat → List Nat
  | 0, c => [c]
  | n + 1, c =>
    if syllableStart ≤ c && c < 0xD7A4 then syllableParts c
    else
      match composites.lookup c with
      | some (a :: bs) => decomposeFrom n a ++ bs
      | _ => (substitutes.lookup c).getD [c]

def decompose (c : Nat) : List Nat := if c < 0xC0 then [c] else decomposeFrom 4 c

/-- A character put behind a text that is given in reverse; a mark goes in front of marks of higher
classes. -/
def place (c : Nat) : List Nat → List Nat
  | [] => [c]
  | d :: ds =>
    if markClass c ≠ 0 && markClass c < markClass d then d :: place c ds else c :: d :: ds

/-- A text with its marks in the order of their classes. -/
def arrange (cs : List Nat) : List Nat := (cs.foldl (fun back c => place c back) []).reverse

/-! ### Putting characters together -/

def join? (a b : Nat) : Option Nat :=
  (syllable? a b).or ((composites.find? fun e => e.2 = [a, b]).map (·.1))

/-- What is known while characters are put together: those that are done, in reverse, the last
character that marks can be joined to, and the marks behind it that were not, in reverse. -/
structure Joining where
  done : List Nat := []
  letter : Option Nat := none
  marks : List Nat := []

namespace Joining

/-- All characters so far, in reverse. -/
def all (j : Joining) : List Nat := j.marks ++ j.letter.toList ++ j.done

def push (j : Joining) (c : Nat) : Joining :=
  let isLetter := markClass c = 0
  let isReachable := match j.marks with
    | [] => true
    | m :: _ => markClass m < markClass c
  match if isReachable then j.letter.bind fun a => join? a c else none with
  | some x => { j with letter := some x }
  | none =>
    if isLetter then ⟨j.all, some c, []⟩
    else if j.letter.isSome then { j with marks := c :: j.marks }
    else { j with done := c :: j.done }

end Joining

def joinAll (cs : List Nat) : List Nat := (cs.foldl Joining.push {}).all.reverse

def composeCodes (cs : List Nat) : List Nat := joinAll (arrange (cs.flatMap decompose))

def compose (s : List Char) : List Char :=
  if s.all fun c => c.toNat < 0x300 then s
  else (composeCodes (s.map Char.toNat)).map Char.ofNat

end RepoBrowser.Text.Composition
