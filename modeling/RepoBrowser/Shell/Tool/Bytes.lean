import RepoBrowser.Number.Total
import RepoBrowser.Shell.Format
import RepoBrowser.Shell.Pattern
import RepoBrowser.Shell.Tool.Basic
import RepoBrowser.Text.Base64

/-!
# Tools for bytes and fields

* `Span` — the places that a list such as `1,3-5` asks for;
* `cut` — parts of each line, by places of bytes or of fields;
* `ByteSet`, `tr` — bytes replaced, deleted, or written once where they are repeated;
* `base64` — bytes written in symbols, and read back.
-/

namespace RepoBrowser.Shell.Tool

open Text

/-! ### Places -/

/-- Places from `first` on, counted from one, up to `last` if there is one. -/
structure Span where
  first : Nat
  last : Option Nat
  deriving DecidableEq, Repr

namespace Span

def contains (s : Span) (k : Nat) : Bool := s.first ≤ k && s.last.all (k ≤ ·)

def read? (s : List Char) : Option Span :=
  let first := s.takeWhile Char.isDigit
  match natural? first, s.drop first.length with
  | some n, [] => if n = 0 then none else some ⟨n, some n⟩
  | some n, ['-'] => if n = 0 then none else some ⟨n, none⟩
  | lo, '-' :: r =>
    let n := lo.getD 1
    match natural? r with
    | some m => if n = 0 || m < n then none else some ⟨n, some m⟩
    | none => none
  | none, _ => none
  | some _, _ => none

def ordered (ss : List Span) : List Span := ss.mergeSort fun a b => a.first ≤ b.first

/-- Spans in order, those that have places in common made one. -/
def merge : List Span → List Span
  | [] => []
  | s :: ss =>
    match merge ss with
    | [] => [s]
    | t :: ts =>
      if s.last.all (t.first ≤ ·) then
        ⟨s.first, match s.last, t.last with
          | some a, some b => some (max a b)
          | _, _ => none⟩ :: ts
      else s :: t :: ts

/-- The places from `k` on that are not meant by spans in order. -/
def others (k : Nat) : List Span → List Span
  | [] => [⟨k, none⟩]
  | s :: ss =>
    let gap : List Span := if k < s.first then [⟨k, some (s.first - 1)⟩] else []
    match s.last with
    | some n => gap ++ others (n + 1) ss
    | none => gap

def readAll? (s : List Char) : Option (List Span) :=
  ((pieces ',' (s.map fun c => if c = ' ' then ',' else c)).mapM read?).map fun ss =>
    merge (ordered ss)

/-- The things at places, in groups by the spans they are in; the first is at place `k`. -/
def pick {α : Type} (ss : List Span) (xs : List α) : List (List α) :=
  (ss.map fun s =>
    let upper := s.last.getD xs.length
    (xs.take upper).drop (s.first - 1)).filter (!·.isEmpty)

end Span

/-! ### Parts of lines -/

def cutOptions : Options.Known :=
  { flags := "sn".toList ++ ['κ']
    valued := "dfcb".toList ++ ['δ']
    long := [("delimiter", 'd'), ("fields", 'f'), ("characters", 'c'), ("bytes", 'b'),
      ("only-delimited", 's'), ("complement", 'κ'), ("output-delimiter", 'δ')] }

def cut : Tool := fun t =>
  match Options.parse? cutOptions t.arguments with
  | none => .failing "cut: invalid option" 1
  | some o =>
    let complete (ss : List Span) : List Span := if o.has 'κ' then Span.others 1 ss else ss
    let bytes? := (o.value? 'b').or (o.value? 'c')
    match bytes?, o.value? 'f' with
    | some list, none =>
      match o.value? 'd', Span.readAll? list with
      | none, some ss =>
        let separator := (o.value? 'δ').getD []
        t.onTexts "cut" o.operands fun s =>
          lineEnded ((linesOf s).map fun l => joinWith separator (Span.pick (complete ss) l))
      | _, _ => .failing "cut: invalid byte or field list" 1
    | none, some list =>
      match (o.value? 'd').getD ['\t'], Span.readAll? list with
      | [d], some ss =>
        let separator := (o.value? 'δ').getD [d]
        t.onTexts "cut" o.operands fun s =>
          lineEnded ((linesOf s).filterMap fun l =>
            if l.contains d then
              some (joinWith separator (Span.pick (complete ss) (pieces d l)).flatten)
            else if o.has 's' then none
            else some l)
      | _, _ => .failing "cut: invalid byte or field list" 1
    | _, _ => .failing "cut: you must specify one list of bytes, characters, or fields" 1

/-! ### Sets of bytes -/

def allBytes : List Char := (List.range 256).map Char.ofNat

/-- A part of a set: bytes in order, or the last byte again as often as it takes to be as long as
another set, or as often as is said. -/
inductive SetPart where
  | bytes (cs : List Char)
  | fill (c : Char) (count : Option Nat)

namespace SetPart

/-- The byte at the start of a text, which may be written as an escape, and the text behind it. -/
def readByte? : List Char → Option (Char × List Char)
  | [] => none
  | '\\' :: s => some (escape s)
  | c :: s => some (c, s)

/-- A class, an equivalence or a repetition behind an opening bracket. -/
def bracketed? (s : List Char) : Option (SetPart × List Char) :=
  match s with
  | ':' :: r =>
    (Member.readClass? r).map fun (m, r) => (.bytes (allBytes.filter (m.holds ·)), r)
  | '=' :: c :: '=' :: ']' :: r => some (.bytes [c], r)
  | s =>
    match readByte? s with
    | some (c, '*' :: r) =>
      let ds := r.takeWhile Char.isDigit
      match r.drop ds.length with
      | ']' :: r =>
        let count := Integer.ofDigits (if ds.head? = some '0' then 8 else 10) ds
        some (.fill c (if count = 0 then none else some count), r)
      | _ => none
    | _ => none

/-- The parts of a set, read in at most `n` steps; there are none if a range runs downwards. -/
def readAll? : Nat → List Char → Option (List SetPart)
  | 0, _ => none
  | _, [] => some []
  | n + 1, c :: s =>
    match if c = '[' then bracketed? s else none with
    | some (p, r) => (readAll? n r).map (p :: ·)
    | none =>
      match readByte? (c :: s) with
      | none => some []
      | some (a, '-' :: r) =>
        match readByte? r with
        | some (b, r) =>
          if a ≤ b then
            (readAll? n r).map (.bytes (allBytes.filter fun x => a ≤ x && x ≤ b) :: ·)
          else none
        | none => some [.bytes [a, '-']]
      | some (a, r) => (readAll? n r).map (.bytes [a] :: ·)

/-- The bytes of a set that is to be as long as `length`. -/
def expand (length : Nat) (ps : List SetPart) : List Char :=
  let fixed := Number.total (ps.map fun
    | .bytes cs => cs.length
    | .fill _ count => count.getD 0)
  ps.flatMap fun
    | .bytes cs => cs
    | .fill c count => List.replicate (count.getD (length - fixed)) c

end SetPart

def setOf? (length : Nat) (s : List Char) : Option (List Char) :=
  (SetPart.readAll? (s.length + 1) s).map (SetPart.expand length)

/-- A text without repetitions of bytes that satisfy a condition, behind a byte. -/
def squeeze (p : Char → Bool) : Option Char → List Char → List Char
  | _, [] => []
  | previous, c :: s =>
    if p c && previous = some c then squeeze p previous s else c :: squeeze p (some c) s

/-- The byte that stands for another: the one at the last place where the first set has it. -/
def substitute (a b : List Char) (x : Char) : Char :=
  match (List.zip a b).reverse.lookup x with
  | some y => y
  | none => x

def trOptions : Options.Known :=
  { flags := "cCdst".toList
    long := [("complement", 'c'), ("delete", 'd'), ("squeeze-repeats", 's'),
      ("truncate-set1", 't')] }

/-- Bytes replaced, deleted or squeezed. -/
def tr : Tool := fun t =>
  match Options.parse? trOptions t.arguments with
  | none => .failing "tr: invalid option" 1
  | some o =>
    let negated := o.has 'c' || o.has 'C'
    let first? (s : List Char) : Option (List Char) :=
      (setOf? 0 s).map fun a => if negated then allBytes.filter (!a.contains ·) else a
    match o.has 'd', o.has 's', o.operands with
    | true, false, [a] =>
      match first? a with
      | some a => { output := t.input.filter (!a.contains ·) }
      | none => .failing "tr: invalid set" 1
    | true, true, [a, b] =>
      match first? a, setOf? 0 b with
      | some a, some b =>
        { output := squeeze b.contains none (t.input.filter (!a.contains ·)) }
      | _, _ => .failing "tr: invalid set" 1
    | false, true, [a] =>
      match first? a with
      | some a => { output := squeeze a.contains none t.input }
      | none => .failing "tr: invalid set" 1
    | false, squeezes, [a, b] =>
      match first? a, (first? a).bind fun a => setOf? a.length b with
      | some a, some b =>
        match b.getLast? with
        | none => if o.has 't' then { output := t.input } else .failing "tr: empty set" 1
        | some z =>
          let padded := if o.has 't' then b else b ++ List.replicate (a.length - b.length) z
          let out := t.input.map (substitute a padded)
          { output := if squeezes then squeeze b.contains none out else out }
      | _, _ => .failing "tr: invalid set" 1
    | _, _, _ => .failing "tr: missing or extra operand" 1

/-! ### Symbols for bytes -/

/-- The bytes that two to four symbols at the start of a text stand for. -/
def decodeStart (s : List Char) : List Char :=
  match (s.take 4).mapM fun c => Base64.value? (UInt8.ofNat c.toNat) with
  | some (a :: b :: more) =>
    let first := Char.ofNat (a * 4 + b / 16)
    match more with
    | [c] => [first, Char.ofNat (b % 16 * 16 + c / 4)]
    | [c, d] => [first, Char.ofNat (b % 16 * 16 + c / 4), Char.ofNat (c % 4 * 64 + d)]
    | _ => [first]
  | _ => []

/-- The bytes that symbols stand for, four at a time, and whether all of them are well formed; what
stands in front of a wrong symbol is read. -/
def decodeQuads : List Char → List Char × Bool
  | [] => ([], true)
  | a :: b :: c :: d :: r =>
    let quad := [a, b, c, d]
    let symbols := quad.takeWhile fun x => (Base64.value? (UInt8.ofNat x.toNat)).isSome
    let padded := quad.drop symbols.length
    if padded.isEmpty || (2 ≤ symbols.length && padded.all (· = '=')) then
      let (t, fine) := decodeQuads r
      (decodeStart symbols ++ t, fine)
    else (decodeStart symbols, false)
  | s => (decodeStart (s.takeWhile fun x => (Base64.value? (UInt8.ofNat x.toNat)).isSome), false)

def isSymbol (c : Char) : Bool := c.isAlphanum || c = '+' || c = '/' || c = '='

/-- Bytes in symbols, or symbols read as bytes. -/
def base64 : Tool := fun t =>
  let long := [("decode", 'd'), ("wrap", 'w'), ("ignore-garbage", 'i')]
  match Options.parse? { flags := "di".toList, valued := ['w'], long } t.arguments with
  | none => .failing "base64: invalid option" 1
  | some o =>
    match natural? ((o.value? 'w').getD "76".toList) with
    | none => .failing "base64: invalid wrap size" 1
    | some w =>
      if o.has 'd' then
        let (texts, missing) := t.texts o.operands
        let s := texts.flatten.filter fun c => if o.has 'i' then isSymbol c else c ≠ '\n'
        let (out, fine) := decodeQuads s
        if missing.isEmpty then
          { output := out
            status := if fine then 0 else 1
            complaint := if fine then [] else "base64: invalid input\n".toList }
        else .failing "base64: No such file or directory" 1
      else
        t.onTexts "base64" o.operands fun s =>
          let code := (Base64.encode (s.map fun c => UInt8.ofNat c.toNat)).map fun b =>
            Char.ofNat b.toNat
          if w = 0 then code else wrapped w (code.length + 1) code
where
  /-- A text in lines of at most `w` bytes, in at most `n` steps. -/
  wrapped (w : Nat) : Nat → List Char → List Char
    | 0, _ => []
    | _, [] => []
    | n + 1, s => s.take w ++ '\n' :: wrapped w n (s.drop w)

end RepoBrowser.Shell.Tool
