import RepoBrowser.Shell.Pattern

/-!
# Regular expressions

The expressions of `grep`, `sed` and their like, in three notations.

* `Regex` — an expression;
* `Regex.endings` — where a match of an expression can end;
* `Manner`, `Regex.find?` — the first match in a text, and which of those that start there counts;
* `Spelling`, `Regex.parse?` — the expression that a text spells.
-/

namespace RepoBrowser.Shell

/-- A place in a text that takes no byte. -/
inductive Edge where
  | start | finish | wordStart | wordEnd | wordEdge | noWordEdge | behindNoWord | beforeNoWord
  deriving DecidableEq, Repr

/-- A regular expression.  Groups are numbered from one by where they open; `look` asks for what
stands behind or, with `backwards`, before a place, and `keep` starts the match anew. -/
inductive Regex where
  | empty
  | byte (c : Char)
  | anyByte
  | oneOf (negated : Bool) (members : List Member)
  | edge (e : Edge)
  | append (a b : Regex)
  | either (a b : Regex)
  | repeated (least : Nat) (most : Option Nat) (lazy : Bool) (a : Regex)
  | group (number : Nat) (a : Regex)
  | again (number : Nat)
  | look (backwards negated : Bool) (a : Regex)
  | keep

/-- A place in a text: the text before it in reverse, the text behind it, what the groups matched,
and how long the text behind the place was where the match was started anew. -/
structure Spot where
  before : List Char
  rest : List Char
  groups : List (Nat × List Char) := []
  kept : Option Nat := none

/-- How a match is chosen: whether capitals count as small letters, and whether the first of all
possible ends counts and not the farthest. -/
structure Manner where
  folds : Bool := false
  takesFirst : Bool := false

namespace Regex

/-! ### Matching -/

def isWordByte (c : Char) : Bool := c.isAlphanum || c = '_'

/-- The place behind the next byte, if there is one and it satisfies a condition. -/
def advance (p : Char → Bool) (s : Spot) : List Spot :=
  match s.rest with
  | c :: r => if p c then [{ s with before := c :: s.before, rest := r }] else []
  | [] => []

def isEdge (s : Spot) (e : Edge) : Bool :=
  let before := s.before.head?.any isWordByte
  let after := s.rest.head?.any isWordByte
  match e with
  | .start => s.before.isEmpty
  | .finish => s.rest.isEmpty
  | .wordStart => !before && after
  | .wordEnd => before && !after
  | .wordEdge => before != after
  | .noWordEdge => before == after
  | .behindNoWord => !before
  | .beforeNoWord => !after

/-- The bytes as they are compared: with `folds`, capitals count as small letters. -/
def fold (folds : Bool) (c : Char) : Char := if folds then c.toLower else c

def isMember (folds : Bool) (negated : Bool) (ms : List Member) (c : Char) : Bool :=
  (ms.any (·.holds c) || (folds && (ms.any (·.holds c.toLower) || ms.any (·.holds c.toUpper))))
    != negated

/-- The places behind repetitions of a matcher, at most `k` of them, the longer ones first unless
it is `lazy`; at least `least` are asked for, at most `most` taken. -/
def repetitions (m : Spot → List Spot) (lazy : Bool) :
    Nat → Nat → Option Nat → Spot → List Spot
  | 0, _, _, s => [s]
  | k + 1, least, most, s =>
    let further :=
      if most = some 0 then []
      else
        (m s).flatMap fun t =>
          if t.rest.length < s.rest.length || least ≠ 0 then
            repetitions m lazy k (least - 1) (most.map (· - 1)) t
          else []
    if least ≠ 0 then further else if lazy then s :: further else further ++ [s]

/-- The places where a match that starts at a place can end, the preferred ones first. -/
def endings (folds : Bool) : Regex → Spot → List Spot
  | .empty, s => [s]
  | .byte c, s => advance (fun d => fold folds c = fold folds d) s
  | .anyByte, s => advance (fun _ => true) s
  | .oneOf negated ms, s => advance (isMember folds negated ms) s
  | .edge e, s => if isEdge s e then [s] else []
  | .append a b, s => (endings folds a s).flatMap (endings folds b)
  | .either a b, s => endings folds a s ++ endings folds b s
  | .repeated least most lazy a, s =>
    repetitions (endings folds a) lazy (least + s.rest.length + 1) least most s
  | .group n a, s =>
    (endings folds a s).map fun t =>
      { t with groups := (n, s.rest.take (s.rest.length - t.rest.length)) :: t.groups }
  | .again n, s =>
    let text := (s.groups.lookup n).getD []
    if (s.rest.take text.length).map (fold folds) = text.map (fold folds) then
      [{ s with
        rest := s.rest.drop text.length
        before := (s.rest.take text.length).reverse ++ s.before }]
    else []
  | .look false negated a, s => if (endings folds a s).isEmpty == negated then [s] else []
  | .look true negated a, s =>
    let isBefore := (List.range (s.before.length + 1)).any fun k =>
      let t : Spot := ⟨s.before.drop k, (s.before.take k).reverse ++ s.rest, [], none⟩
      (endings folds a t).any fun u => u.rest.length = s.rest.length
    if isBefore == negated then [] else [s]
  | .keep, s => [{ s with kept := some s.rest.length }]

/-- The farthest of some places, the first of those that are as far. -/
def farthest : List Spot → Option Spot
  | [] => none
  | s :: ss =>
    match farthest ss with
    | none => some s
    | some t => if t.rest.length < s.rest.length then some t else some s

/-- A match: the text before it in reverse, the text of it, and the place behind it. -/
structure Found where
  before : List Char
  text : List Char
  spot : Spot

/-- The match that starts at a place, if there is one. -/
def matchAt (m : Manner) (r : Regex) (back s : List Char) : Option Found :=
  let ends := endings m.folds r ⟨back, s, [], none⟩
  (if m.takesFirst then ends.head? else farthest ends).map fun t =>
    let start := s.length - t.kept.getD s.length
    ⟨(s.take start).reverse ++ back, (s.drop start).take (s.length - start - t.rest.length), t⟩

/-- The first match at or behind a place; the text in front of the place is given in reverse. -/
def findFrom (m : Manner) (r : Regex) (back : List Char) : List Char → Option Found
  | [] => matchAt m r back []
  | c :: s => (matchAt m r back (c :: s)).or (findFrom m r (c :: back) s)

def find? (m : Manner) (r : Regex) (s : List Char) : Option Found := findFrom m r [] s

def isIn (m : Manner) (r : Regex) (s : List Char) : Bool := (find? m r s).isSome

/-- The expression that matches a text only. -/
def literal (s : List Char) : Regex := s.foldr (fun c r => .append (.byte c) r) .empty

end Regex

/-! ### Reading -/

/-- How expressions are written: with backslashes before most signs, without, or without and with
more signs. -/
inductive Spelling where
  | basic | extended | rich
  deriving DecidableEq, Repr

namespace Regex

/-- What a backslash and a letter stand for. -/
def escaped? (sp : Spelling) (c : Char) : Option Regex :=
  match c with
  | 'n' => if sp = .rich then some (.byte '\n') else none
  | 't' => if sp = .rich then some (.byte '\t') else none
  | 'w' => some (.oneOf false [.named isWordByte])
  | 'W' => some (.oneOf true [.named isWordByte])
  | 's' => some (.oneOf false [.named Integer.isSpace])
  | 'S' => some (.oneOf true [.named Integer.isSpace])
  | 'b' => some (.edge .wordEdge)
  | 'B' => some (.edge .noWordEdge)
  | '<' => some (.edge .wordStart)
  | '>' => some (.edge .wordEnd)
  | 'd' => if sp = .rich then some (.oneOf false [.named Char.isDigit]) else none
  | 'D' => if sp = .rich then some (.oneOf true [.named Char.isDigit]) else none
  | 'K' => if sp = .rich then some .keep else none
  | _ => none

/-- What is left of a text, and the number of groups opened so far. -/
structure Draft where
  rest : List Char
  groups : Nat := 0

/-- The bounds of a repetition in braces up to their end, which has a backslash in the basic
notation. -/
def readBounds? (sp : Spelling) (s : List Char) : Option (Nat × Option Nat × List Char) :=
  let lo := s.takeWhile Char.isDigit
  let s := s.drop lo.length
  let (hi, s) := match s with
    | ',' :: r =>
      let ds := r.takeWhile Char.isDigit
      (if ds.isEmpty then none else some (Integer.ofDigits 10 ds), r.drop ds.length)
    | r => (some (Integer.ofDigits 10 lo), r)
  match decide (sp = .basic), s with
  | false, '\x7d' :: r => some (Integer.ofDigits 10 lo, hi, r)
  | true, '\\' :: '\x7d' :: r => some (Integer.ofDigits 10 lo, hi, r)
  | _, _ => none

/-- The sign of a repetition at the start of a text, and the text behind it. -/
def repetition? (sp : Spelling) (s : List Char) : Option (Nat × Option Nat × List Char) :=
  match decide (sp = .basic), s with
  | _, '*' :: r => some (0, none, r)
  | false, '+' :: r => some (1, none, r)
  | false, '?' :: r => some (0, some 1, r)
  | false, '\x7b' :: r => readBounds? sp r
  | true, '\\' :: '+' :: r => some (1, none, r)
  | true, '\\' :: '?' :: r => some (0, some 1, r)
  | true, '\\' :: '\x7b' :: r => readBounds? sp r
  | _, _ => none

/-- Whether alternatives end at the start of a text: at its end, at a bar, or where a group
closes. -/
def endsBranch (sp : Spelling) (s : List Char) : Bool :=
  match decide (sp = .basic), s with
  | _, [] => true
  | false, c :: _ => c = '|' || c = ')'
  | true, '\\' :: c :: _ => c = '|' || c = ')'
  | _, _ => false

/-- An expression with the repetitions behind it, in at most `n` steps. -/
def withRepetitions (sp : Spelling) : Nat → Regex → Draft → Regex × Draft
  | 0, r, d => (r, d)
  | n + 1, r, d =>
    match repetition? sp d.rest with
    | some (lo, hi, rest) =>
      match decide (sp = .rich), rest with
      | true, '?' :: rest => withRepetitions sp n (.repeated lo hi true r) { d with rest }
      | _, rest => withRepetitions sp n (.repeated lo hi false r) { d with rest }
    | none => (r, d)

/-- The members of a list in brackets up to the closing one, escapes read, in at most `n` steps;
those before are given in reverse. -/
def readRichMembers? : Nat → List Member → List Char → Option (List Member × List Char)
  | 0, _, _ => none
  | _, _, [] => none
  | n + 1, back, c :: s =>
    if c = ']' && !back.isEmpty then some (back.reverse, s)
    else
      match c, s with
      | '\\', d :: r =>
        match escaped? .rich d with
        | some (.oneOf negated ms) =>
          readRichMembers? n (.named (fun x => ms.any (·.holds x) != negated) :: back) r
        | some (.byte x) => readRichMembers? n (.range x x :: back) r
        | _ => readRichMembers? n (.range d d :: back) r
      | '[', ':' :: r =>
        match Member.readClass? r with
        | some (m, r) => readRichMembers? n (m :: back) r
        | none => none
      | c, '-' :: ']' :: _ => readRichMembers? n (.range c c :: back) s
      | c, '-' :: d :: r => readRichMembers? n (.range c d :: back) r
      | c, s => readRichMembers? n (.range c c :: back) s

def readSet? (sp : Spelling) (s : List Char) : Option (Regex × List Char) :=
  let (negated, t) := match s with
    | '^' :: t => (true, t)
    | t => (false, t)
  let members :=
    if sp = .rich then readRichMembers? (t.length + 1) [] t
    else
      (Pattern.readMembers? (t.length + 1) [] (t.map fun c => (c, false))).map fun (ms, r) =>
        (ms, r.map Prod.fst)
  members.map fun (ms, r) => (.oneOf negated ms, r)

/-- What is asked for by the signs behind the opening of a group: a group without a number, or a
look behind or before a place. -/
def asked? (s : List Char) : Option ((Regex → Regex) × List Char) :=
  match s with
  | '?' :: ':' :: r => some (id, r)
  | '?' :: '=' :: r => some (.look false false, r)
  | '?' :: '!' :: r => some (.look false true, r)
  | '?' :: '<' :: '=' :: r => some (.look true false, r)
  | '?' :: '<' :: '!' :: r => some (.look true true, r)
  | _ => none

mutual

def readEither (sp : Spelling) : Nat → Draft → Option (Regex × Draft)
  | 0, _ => none
  | n + 1, d => do
    let (a, d) ← readBranch sp n true d
    match decide (sp = .basic), d.rest with
    | false, '|' :: r => do
      let (b, d) ← readEither sp n { d with rest := r }
      some (.either a b, d)
    | true, '\\' :: '|' :: r => do
      let (b, d) ← readEither sp n { d with rest := r }
      some (.either a b, d)
    | _, _ => some (a, d)

/-- Reads items one behind the other; `first` tells whether none was read before. -/
def readBranch (sp : Spelling) : Nat → Bool → Draft → Option (Regex × Draft)
  | 0, _, _ => none
  | n + 1, first, d =>
    if endsBranch sp d.rest then some (.empty, d)
    else do
      let (a, d) ← readItem sp n first d
      let isStart := match a with
        | .edge .start => true
        | _ => false
      let (a, d) := if isStart && sp = .basic then (a, d)
        else withRepetitions sp (d.rest.length + 1) a d
      let (b, d) ← readBranch sp n (first && isStart) d
      some (.append a b, d)

def readItem (sp : Spelling) : Nat → Bool → Draft → Option (Regex × Draft)
  | 0, _, _ => none
  | n + 1, first, d =>
    match d.rest with
    | [] => none
    | '\\' :: c :: r =>
      if sp = .basic && c = '(' then readGroup sp n { d with rest := r }
      else if c.isDigit && c ≠ '0' then some (.again (c.toNat - 0x30), { d with rest := r })
      else some ((escaped? sp c).getD (.byte c), { d with rest := r })
    | ['\\'] => none
    | '.' :: r => some (.anyByte, { d with rest := r })
    | '[' :: r => (readSet? sp r).map fun (a, r) => (a, { d with rest := r })
    | c :: r =>
      if sp ≠ .basic && c = '(' then readGroup sp n { d with rest := r }
      else if c = '^' && (sp ≠ .basic || first) then some (.edge .start, { d with rest := r })
      else if c = '$' && (sp ≠ .basic || endsBranch sp r) then
        some (.edge .finish, { d with rest := r })
      else if sp ≠ .basic && (c = '*' || c = '+' || c = '?') && first then
        some (.empty, { d with rest := r })
      else some (.byte c, { d with rest := r })

def readGroup (sp : Spelling) : Nat → Draft → Option (Regex × Draft)
  | 0, _ => none
  | n + 1, d => do
    let number := d.groups + 1
    let (wrap, d) := match if sp = .rich then asked? d.rest else none with
      | some (f, r) => (f, { d with rest := r })
      | none => (.group number, { d with groups := number })
    let (a, d) ← readEither sp n d
    match decide (sp = .basic), d.rest with
    | false, ')' :: r => some (wrap a, { d with rest := r })
    | true, '\\' :: ')' :: r => some (wrap a, { d with rest := r })
    | _, _ => none

end

/-- A text of an expression with the escapes for control characters read. -/
def readEscapes : List Char → List Char
  | '\\' :: c :: s =>
    if c = 'n' then '\n' :: readEscapes s
    else if c = 't' then '\t' :: readEscapes s
    else if c = 'r' then '\r' :: readEscapes s
    else if c = 'f' then '\x0c' :: readEscapes s
    else if c = 'v' then '\x0b' :: readEscapes s
    else if c = 'a' then '\x07' :: readEscapes s
    else '\\' :: c :: readEscapes s
  | c :: s => c :: readEscapes s
  | [] => []

def parse? (sp : Spelling) (s : List Char) : Option Regex := do
  let (r, d) ← readEither sp (8 * s.length + 16) ⟨s, 0⟩
  if d.rest.isEmpty then some r else none

end Regex

end RepoBrowser.Shell
