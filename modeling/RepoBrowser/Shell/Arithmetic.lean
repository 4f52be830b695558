import RepoBrowser.Shell.Integer
import RepoBrowser.Shell.Syntax

/-!
# Sums

The expressions of `$((…))`: integers of 64 bits with the operators of the C language, and variables
that can be assigned to.

* `Sum` — an expression;
* `Sum.parse?` — the expression that a text spells;
* `Sum.eval?` — its value, with what it assigns.

There is no value where a number is not well formed or something is divided by zero.
-/

namespace RepoBrowser.Shell

/-- The operators that take the values of both sides. -/
inductive Operator where
  | times | divide | modulo | plus | minus | shiftLeft | shiftRight
  | less | lessEqual | greater | greaterEqual | equal | unequal | bitAnd | bitXor | bitOr
  deriving DecidableEq, Repr

inductive Sum where
  | number (n : Int)
  | name (x : List Char)
  | negative (e : Sum)
  | complement (e : Sum)
  | not (e : Sum)
  | binary (op : Operator) (a b : Sum)
  | both (a b : Sum)
  | either (a b : Sum)
  | choice (c a b : Sum)
  | assign (x : List Char) (op : Option Operator) (e : Sum)

namespace Operator

def strength : Operator → Nat
  | .times | .divide | .modulo => 10
  | .plus | .minus => 9
  | .shiftLeft | .shiftRight => 8
  | .less | .lessEqual | .greater | .greaterEqual => 7
  | .equal | .unequal => 6
  | .bitAnd => 5
  | .bitXor => 4
  | .bitOr => 3

def ofSign? (s : String) : Option Operator :=
  match s with
  | "*" => some .times
  | "/" => some .divide
  | "%" => some .modulo
  | "+" => some .plus
  | "-" => some .minus
  | "<<" => some .shiftLeft
  | ">>" => some .shiftRight
  | "<" => some .less
  | "<=" => some .lessEqual
  | ">" => some .greater
  | ">=" => some .greaterEqual
  | "==" => some .equal
  | "!=" => some .unequal
  | "&" => some .bitAnd
  | "^" => some .bitXor
  | "|" => some .bitOr
  | _ => none

def truth (b : Bool) : Int := if b then 1 else 0

/-- The bits of an integer of 64 bits. -/
def bits (n : Int) : Nat := (n % 18446744073709551616).toNat

/-- The value of an operator, if it has one. -/
def result? (op : Operator) (a b : Int) : Option Int :=
  match op with
  | .times => some (Integer.wrap (a * b))
  | .divide => if b = 0 then none else some (Integer.wrap (a.tdiv b))
  | .modulo => if b = 0 then none else some (a.tmod b)
  | .plus => some (Integer.wrap (a + b))
  | .minus => some (Integer.wrap (a - b))
  | .shiftLeft => some (Integer.wrap (a * (Nat.pow 2 (bits b % 64) : Nat)))
  | .shiftRight => some (a / (Nat.pow 2 (bits b % 64) : Nat))
  | .less => some (truth (a < b))
  | .lessEqual => some (truth (a ≤ b))
  | .greater => some (truth (b < a))
  | .greaterEqual => some (truth (b ≤ a))
  | .equal => some (truth (a = b))
  | .unequal => some (truth (a ≠ b))
  | .bitAnd => some (Integer.wrap (bits a &&& bits b : Nat))
  | .bitXor => some (Integer.wrap (bits a ^^^ bits b : Nat))
  | .bitOr => some (Integer.wrap (bits a ||| bits b : Nat))

end Operator

namespace Sum

/-! ### Reading -/

/-- The signs of the language, the longer ones first. -/
def signs : List String :=
  ["<<=", ">>=", "<<", ">>", "<=", ">=", "==", "!=", "&&", "||", "+=", "-=", "*=", "/=", "%=",
    "&=", "^=", "|=", "+", "-", "*", "/", "%", "<", ">", "!", "~", "&", "^", "|", "(", ")", "?",
    ":", "="]

inductive Token where
  | number (n : Int)
  | name (x : List Char)
  | sign (s : String)
  deriving DecidableEq

/-- The tokens of a text, in at most `n` steps. -/
def tokensFrom? : Nat → List Char → Option (List Token)
  | 0, _ => none
  | _, [] => some []
  | n + 1, c :: s =>
    if Integer.isSpace c then tokensFrom? n s
    else if c.isDigit then
      let (k, r) := Integer.read true (c :: s)
      (tokensFrom? n r).map (.number (Integer.clamp k) :: ·)
    else if isNameStart c then
      let x := (c :: s).takeWhile isNameChar
      (tokensFrom? n ((c :: s).drop x.length)).map (.name x :: ·)
    else
      match signs.find? fun t => t.toList.isPrefixOf (c :: s) with
      | some t => (tokensFrom? n ((c :: s).drop t.length)).map (.sign t :: ·)
      | none => none

mutual

/-- Reads an assignment or what binds tighter. -/
def readAssign : Nat → List Token → Option (Sum × List Token)
  | 0, _ => none
  | n + 1, ts =>
    match ts with
    | .name x :: .sign s :: r =>
      if s = "=" then (readAssign n r).map fun p => (.assign x none p.1, p.2)
      else
        match s.toList.reverse with
        | '=' :: back =>
          match Operator.ofSign? (String.ofList back.reverse) with
          | some op =>
            if op.strength ∈ [10, 9, 8, 5, 4, 3] then
              (readAssign n r).map fun p => (.assign x (some op) p.1, p.2)
            else readChoice n ts
          | none => readChoice n ts
        | _ => readChoice n ts
    | _ => readChoice n ts

def readChoice : Nat → List Token → Option (Sum × List Token)
  | 0, _ => none
  | n + 1, ts => do
    let (c, r) ← readEither n ts
    match r with
    | .sign "?" :: r => do
      let (a, r) ← readAssign n r
      match r with
      | .sign ":" :: r => do
        let (b, r) ← readChoice n r
        some (.choice c a b, r)
      | _ => none
    | r => some (c, r)

def readEither : Nat → List Token → Option (Sum × List Token)
  | 0, _ => none
  | n + 1, ts => do
    let (a, r) ← readBoth n ts
    match r with
    | .sign "||" :: r => do
      let (b, r) ← readEither n r
      some (.either a b, r)
    | r => some (a, r)

def readBoth : Nat → List Token → Option (Sum × List Token)
  | 0, _ => none
  | n + 1, ts => do
    let (a, r) ← readUnary n ts
    let (a, r) ← readBinary n 3 a r
    match r with
    | .sign "&&" :: r => do
      let (b, r) ← readBoth n r
      some (.both a b, r)
    | r => some (a, r)

/-- Reads operators that bind at least as tightly as `k`, and their right sides. -/
def readBinary : Nat → Nat → Sum → List Token → Option (Sum × List Token)
  | 0, _, _, _ => none
  | n + 1, k, a, ts =>
    match ts with
    | .sign s :: r =>
      match Operator.ofSign? s with
      | some op =>
        if op.strength < k then some (a, ts)
        else do
          let (b, r) ← readUnary n r
          let (b, r) ← readBinary n (op.strength + 1) b r
          readBinary n k (.binary op a b) r
      | none => some (a, ts)
    | _ => some (a, ts)

/-- Reads a number, a name, a sum in parentheses, or one of them with a sign. -/
def readUnary : Nat → List Token → Option (Sum × List Token)
  | 0, _ => none
  | n + 1, ts =>
    match ts with
    | .number k :: r => some (.number k, r)
    | .name x :: r => some (.name x, r)
    | .sign "-" :: r => (readUnary n r).map fun p => (.negative p.1, p.2)
    | .sign "+" :: r => readUnary n r
    | .sign "!" :: r => (readUnary n r).map fun p => (.not p.1, p.2)
    | .sign "~" :: r => (readUnary n r).map fun p => (.complement p.1, p.2)
    | .sign "(" :: r =>
      match readAssign n r with
      | some (e, .sign ")" :: r) => some (e, r)
      | _ => none
    | _ => none

end

def parse? (s : List Char) : Option Sum := do
  let ts ← tokensFrom? (s.length + 1) s
  let (e, r) ← readAssign (16 * ts.length + 16) ts
  if r.isEmpty then some e else none

/-! ### Values -/

abbrev Valuation := List (List Char × List Char)

def number? (s : List Char) : Option Int :=
  let (n, r) := Integer.read true s
  if r.all Integer.isSpace then some (Integer.clamp n) else none

/-- The value of an expression and the variables after it; what is assigned comes first. -/
def eval? (vs : Valuation) : Sum → Option (Int × Valuation)
  | .number n => some (n, vs)
  | .name x => (number? ((vs.lookup x).getD [])).map fun n => (n, vs)
  | .negative e => (eval? vs e).map fun r => (Integer.wrap (-r.1), r.2)
  | .complement e => (eval? vs e).map fun r => (-r.1 - 1, r.2)
  | .not e => (eval? vs e).map fun r => (Operator.truth (r.1 = 0), r.2)
  | .binary op a b => do
    let (m, vs) ← eval? vs a
    let (n, vs) ← eval? vs b
    (op.result? m n).map fun k => (k, vs)
  | .both a b => do
    let (m, vs) ← eval? vs a
    if m = 0 then some (0, vs) else (eval? vs b).map fun r => (Operator.truth (r.1 ≠ 0), r.2)
  | .either a b => do
    let (m, vs) ← eval? vs a
    if m ≠ 0 then some (1, vs) else (eval? vs b).map fun r => (Operator.truth (r.1 ≠ 0), r.2)
  | .choice c a b => do
    let (m, vs) ← eval? vs c
    if m ≠ 0 then eval? vs a else eval? vs b
  | .assign x op e => do
    let (n, vs) ← eval? vs e
    let k ← match op with
      | none => some n
      | some op => (number? ((vs.lookup x).getD [])).bind fun m => op.result? m n
    some (k, (x, Integer.text k) :: vs)

end Sum

end RepoBrowser.Shell
