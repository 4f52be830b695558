import RepoBrowser.Shell.Tool.Awk.Syntax

/-!
# Reading programs of fields

* `readExpr?` — an expression, by how tightly its operators bind;
* `readStmt?` — a statement;
* `readProgram?` — the items of a program.

Readers take symbols and leave those behind what they read; each carries a bound on its steps.
-/

namespace RepoBrowser.Shell.Tool.Awk

def skipLines (s : List Symbol) : List Symbol := s.dropWhile (· = .newline)

def skipEnds (s : List Symbol) : List Symbol :=
  s.dropWhile fun y => y = .newline || y = .sign ";"

/-- Whether something can be assigned to an expression. -/
def isTarget : Expr → Bool
  | .name _ | .field _ | .item _ _ => true
  | _ => false

def functions : List String :=
  ["length", "substr", "index", "split", "sub", "gsub", "match", "sprintf", "toupper", "tolower",
    "int"]

def reserved : List String :=
  ["BEGIN", "END", "if", "else", "while", "for", "do", "in", "break", "continue", "next", "exit",
    "delete", "print", "printf", "function", "getline", "return"]

def isVariable (x : List Char) : Bool :=
  !reserved.contains (String.ofList x) && !functions.contains (String.ofList x)

/-- Whether an expression that is put behind another without a sign starts with a symbol. -/
def startsJoined : Symbol → Bool
  | .number _ | .text _ => true
  | .name x => isVariable x || x = "length".toList
  | .call x => functions.contains (String.ofList x) || isVariable x
  | .sign s => s = "$" || s = "(" || s = "++" || s = "--"
  | _ => false

def assigning? (s : String) : Option (Option Char) :=
  match s with
  | "=" => some none
  | "+=" => some (some '+')
  | "-=" => some (some '-')
  | "*=" => some (some '*')
  | "/=" => some (some '/')
  | "%=" => some (some '%')
  | "^=" => some (some '^')
  | _ => none

mutual

/-- Reads an expression.  With `bare`, a sign `>` sends output elsewhere and compares nothing. -/
def readExpr? : Nat → Bool → List Symbol → Option (Expr × List Symbol)
  | 0, _, _ => none
  | n + 1, bare, s => do
    let (c, s) ← readEither? n bare s
    match s with
    | .sign "?" :: s => do
      let (a, s) ← readExpr? n bare (skipLines s)
      match skipLines s with
      | .sign ":" :: s => do
        let (b, s) ← readExpr? n bare (skipLines s)
        some (.choice c a b, s)
      | _ => none
    | .sign g :: r =>
      match assigning? g, isTarget c with
      | some op, true => do
        let (e, s) ← readExpr? n bare (skipLines r)
        some (.assign c op e, s)
      | _, _ => some (c, s)
    | s => some (c, s)

def readEither? : Nat → Bool → List Symbol → Option (Expr × List Symbol)
  | 0, _, _ => none
  | n + 1, bare, s => do
    let (a, s) ← readBoth? n bare s
    readEitherMore? n bare a s

def readEitherMore? : Nat → Bool → Expr → List Symbol → Option (Expr × List Symbol)
  | 0, _, _, _ => none
  | n + 1, bare, a, s =>
    match s with
    | .sign "||" :: s => do
      let (b, s) ← readBoth? n bare (skipLines s)
      readEitherMore? n bare (.either a b) s
    | s => some (a, s)

def readBoth? : Nat → Bool → List Symbol → Option (Expr × List Symbol)
  | 0, _, _ => none
  | n + 1, bare, s => do
    let (a, s) ← readKey? n bare s
    readBothMore? n bare a s

def readBothMore? : Nat → Bool → Expr → List Symbol → Option (Expr × List Symbol)
  | 0, _, _, _ => none
  | n + 1, bare, a, s =>
    match s with
    | .sign "&&" :: s => do
      let (b, s) ← readKey? n bare (skipLines s)
      readBothMore? n bare (.both a b) s
    | s => some (a, s)

/-- Reads a value, or whether it is a key of an array. -/
def readKey? : Nat → Bool → List Symbol → Option (Expr × List Symbol)
  | 0, _, _ => none
  | n + 1, bare, s => do
    let (a, s) ← readMatch? n bare s
    match s with
    | .name ['i', 'n'] :: .name x :: s =>
      match a with
      | .group es => some (.isKey es x, s)
      | a => some (.isKey [a] x, s)
    | s => some (a, s)

/-- Reads a value, or whether it is matched. -/
def readMatch? : Nat → Bool → List Symbol → Option (Expr × List Symbol)
  | 0, _, _ => none
  | n + 1, bare, s => do
    let (a, s) ← readCompare? n bare s
    match s with
    | .sign "~" :: s => do
      let (b, s) ← readCompare? n bare s
      some (.isMatch false a b, s)
    | .sign "!~" :: s => do
      let (b, s) ← readCompare? n bare s
      some (.isMatch true a b, s)
    | s => some (a, s)

def readCompare? : Nat → Bool → List Symbol → Option (Expr × List Symbol)
  | 0, _, _ => none
  | n + 1, bare, s => do
    let (a, s) ← readJoin? n s
    match s with
    | .sign g :: r =>
      if ["<", "<=", "==", "!=", ">=", ">"].contains g && !(bare && g = ">") then do
        let (b, s) ← readJoin? n r
        some (.compare g a b, s)
      else some (a, s)
    | s => some (a, s)

def readJoin? : Nat → List Symbol → Option (Expr × List Symbol)
  | 0, _ => none
  | n + 1, s => do
    let (a, s) ← readSum? n s
    readJoinMore? n a s

def readJoinMore? : Nat → Expr → List Symbol → Option (Expr × List Symbol)
  | 0, _, _ => none
  | n + 1, a, s =>
    match s with
    | y :: _ =>
      if startsJoined y then do
        let (b, s) ← readSum? n s
        readJoinMore? n (.join a b) s
      else some (a, s)
    | [] => some (a, [])

def readSum? : Nat → List Symbol → Option (Expr × List Symbol)
  | 0, _ => none
  | n + 1, s => do
    let (a, s) ← readProduct? n s
    readSumMore? n a s

def readSumMore? : Nat → Expr → List Symbol → Option (Expr × List Symbol)
  | 0, _, _ => none
  | n + 1, a, s =>
    match s with
    | .sign "+" :: s => do
      let (b, s) ← readProduct? n s
      readSumMore? n (.binary '+' a b) s
    | .sign "-" :: s => do
      let (b, s) ← readProduct? n s
      readSumMore? n (.binary '-' a b) s
    | s => some (a, s)

def readProduct? : Nat → List Symbol → Option (Expr × List Symbol)
  | 0, _ => none
  | n + 1, s => do
    let (a, s) ← readUnary? n s
    readProductMore? n a s

def readProductMore? : Nat → Expr → List Symbol → Option (Expr × List Symbol)
  | 0, _, _ => none
  | n + 1, a, s =>
    match s with
    | .sign g :: r =>
      match g with
      | "*" | "/" | "%" => do
        let (b, s) ← readUnary? n r
        readProductMore? n (.binary (g.toList.headD '*') a b) s
      | _ => some (a, s)
    | s => some (a, s)

def readUnary? : Nat → List Symbol → Option (Expr × List Symbol)
  | 0, _ => none
  | n + 1, s =>
    match s with
    | .sign "!" :: s => do
      let (e, s) ← readUnary? n s
      some (.unary '!' e, s)
    | .sign "-" :: s => do
      let (e, s) ← readUnary? n s
      some (.unary '-' e, s)
    | .sign "+" :: s => do
      let (e, s) ← readUnary? n s
      some (.unary '+' e, s)
    | s => readPower? n s

def readPower? : Nat → List Symbol → Option (Expr × List Symbol)
  | 0, _ => none
  | n + 1, s => do
    let (a, s) ← readStepped? n s
    match s with
    | .sign g :: r =>
      if g = "^" then do
        let (b, s) ← match r with
          | .sign "-" :: _ | .sign "+" :: _ => readUnary? n r
          | r => readPower? n r
        some (.binary '^' a b, s)
      else some (a, s)
    | s => some (a, s)

/-- Reads a value that may be stepped up or down. -/
def readStepped? : Nat → List Symbol → Option (Expr × List Symbol)
  | 0, _ => none
  | n + 1, s =>
    match s with
    | .sign "++" :: s => do
      let (e, s) ← readValue? n s
      if isTarget e then some (.step e true true, s) else none
    | .sign "--" :: s => do
      let (e, s) ← readValue? n s
      if isTarget e then some (.step e true false, s) else none
    | s => do
      let (e, s) ← readValue? n s
      match s, isTarget e with
      | .sign "++" :: s, true => some (.step e false true, s)
      | .sign "--" :: s, true => some (.step e false false, s)
      | s, _ => some (e, s)

def readValue? : Nat → List Symbol → Option (Expr × List Symbol)
  | 0, _ => none
  | n + 1, s =>
    match s with
    | .number q :: s => some (.number q, s)
    | .text t :: s => some (.text t, s)
    | .regex r :: s => some (.regex r, s)
    | .sign "$" :: s => do
      let (e, s) ← match s with
        | .sign "-" :: _ | .sign "!" :: _ => readUnary? n s
        | .sign "++" :: _ | .sign "--" :: _ => readStepped? n s
        | s => readValue? n s
      some (.field e, s)
    | .sign "(" :: s => do
      let (es, s) ← readList? n s
      match es with
      | [e] => some (.group [e], s)
      | es => some (.group es, s)
    | .call x :: .sign "(" :: s =>
      if functions.contains (String.ofList x) then
        match skipLines s with
        | .sign ")" :: s => some (.call x [], s)
        | s => do
          let (es, s) ← readList? n s
          some (.call x es, s)
      else if isVariable x then
        none
      else none
    | .name x :: s =>
      if x = "length".toList then some (.call x [], s)
      else if !isVariable x then none
      else
        match s with
        | .sign "[" :: s => do
          let (keys, s) ← readKeys? n s
          some (.item x keys, s)
        | s => some (.name x, s)
    | _ => none

def readList? : Nat → List Symbol → Option (List Expr × List Symbol)
  | 0, _ => none
  | n + 1, s => do
    let (e, s) ← readExpr? n false (skipLines s)
    match skipLines s with
    | .sign "," :: s => do
      let (es, s) ← readList? n s
      some (e :: es, s)
    | .sign ")" :: s => some ([e], s)
    | _ => none

def readKeys? : Nat → List Symbol → Option (List Expr × List Symbol)
  | 0, _ => none
  | n + 1, s => do
    let (e, s) ← readExpr? n false s
    match s with
    | .sign "," :: s => do
      let (es, s) ← readKeys? n s
      some (e :: es, s)
    | .sign "]" :: s => some ([e], s)
    | _ => none

end

/-! ### Statements -/

def endsStmt : List Symbol → Bool
  | [] => true
  | y :: _ => y = .newline || y = .sign ";" || y = .sign "\x7d"

def readPrinted? : Nat → List Symbol → Option (List Expr × List Symbol)
  | 0, _ => none
  | n + 1, s =>
    if endsStmt s || s.head? = some (.sign ">") || s.head? = some (.sign ">>") then some ([], s)
    else do
      let (e, s) ← readExpr? n true s
      match s with
      | .sign "," :: s => do
        let (es, s) ← readPrinted? n (skipLines s)
        if es.isEmpty then none else some (e :: es, s)
      | s => some ([e], s)

def readSink? (n : Nat) (s : List Symbol) : Option (Sink × List Symbol) :=
  match s with
  | .sign ">" :: s => (readJoin? n s).map fun (e, s) => (.file false e, s)
  | .sign ">>" :: s => (readJoin? n s).map fun (e, s) => (.file true e, s)
  | s => some (.on, s)

/-- The arguments of a printing statement, which may stand in parentheses. -/
def printedArguments : List Expr → List Expr
  | [.group es] => es
  | es => es

def readSimple? (n : Nat) (s : List Symbol) : Option (Stmt × List Symbol) :=
  match s with
  | .name x :: r | .call x :: r =>
    match String.ofList x with
    | "print" => do
      let (es, s) ← readPrinted? n r
      let (k, s) ← readSink? n s
      some (.print (printedArguments es) k, s)
    | "printf" => do
      let (es, s) ← readPrinted? n r
      let (k, s) ← readSink? n s
      if es.isEmpty then none else some (.printf (printedArguments es) k, s)
    | "next" => some (.next, r)
    | "break" => some (.break_, r)
    | "continue" => some (.continue_, r)
    | "exit" =>
      if endsStmt r then some (.exit none, r)
      else (readExpr? n false r).map fun (e, s) => (.exit (some e), s)
    | "delete" =>
      match r with
      | .name a :: .sign "[" :: s => (readKeys? n s).map fun (ks, s) => (.delete a (some ks), s)
      | .name a :: s => some (.delete a none, s)
      | _ => none
    | _ => (readExpr? n false s).map fun (e, s) => (.expression e, s)
  | s => (readExpr? n false s).map fun (e, s) => (.expression e, s)

def behindStmt? (s : List Symbol) : Option (List Symbol) :=
  if endsStmt s then
    match s with
    | .sign "\x7d" :: _ => some s
    | s => some s.tail
  else none

mutual

def readStmt? : Nat → List Symbol → Option (Stmt × List Symbol)
  | 0, _ => none
  | n + 1, s =>
    match s with
    | .sign ";" :: s => some (.block [], s)
    | .sign "\x7b" :: s => do
      let (body, s) ← readStmts? n s
      some (.block body, s)
    | .call ['i', 'f'] :: .sign "(" :: s | .name ['i', 'f'] :: .sign "(" :: s => do
      let (c, s) ← readCondition? n s
      let (a, s) ← readStmt? n (skipLines s)
      match skipEnds s with
      | .name ['e', 'l', 's', 'e'] :: s => do
        let (b, s) ← readStmt? n (skipLines s)
        some (.branch c a (some b), s)
      | _ => some (.branch c a none, s)
    | .call ['w', 'h', 'i', 'l', 'e'] :: .sign "(" :: s
    | .name ['w', 'h', 'i', 'l', 'e'] :: .sign "(" :: s => do
      let (c, s) ← readCondition? n s
      match s with
      | .sign ";" :: s => some (.whileDo c (.block []), s)
      | s => do
        let (body, s) ← readStmt? n (skipLines s)
        some (.whileDo c body, s)
    | .name ['d', 'o'] :: s => do
      let (body, s) ← readStmt? n (skipLines s)
      match skipEnds s with
      | .call ['w', 'h', 'i', 'l', 'e'] :: .sign "(" :: s
      | .name ['w', 'h', 'i', 'l', 'e'] :: .sign "(" :: s => do
        let (c, s) ← readCondition? n s
        some (.doWhile body c, (behindStmt? s).getD s)
      | _ => none
    | .call ['f', 'o', 'r'] :: .sign "(" :: s | .name ['f', 'o', 'r'] :: .sign "(" :: s =>
      readFor? n s
    | s => do
      let (t, s) ← readSimple? n s
      let s ← behindStmt? s
      some (t, s)

def readCondition? : Nat → List Symbol → Option (Expr × List Symbol)
  | 0, _ => none
  | n + 1, s => do
    let (c, s) ← readExpr? n false s
    match s with
    | .sign ")" :: s => some (c, s)
    | _ => none

def readFor? : Nat → List Symbol → Option (Stmt × List Symbol)
  | 0, _ => none
  | n + 1, s =>
    match s with
    | .name x :: .name ['i', 'n'] :: .name a :: .sign ")" :: s => do
      let (body, s) ← readStmt? n (skipLines s)
      some (.each x a body, s)
    | s => do
      let (start, s) ← match s with
        | .sign ";" :: _ => some (none, s)
        | s => (readSimple? n s).map fun (t, s) => (some t, s)
      let s ← expect ";" s
      let (c, s) ← match skipLines s with
        | .sign ";" :: s => some (none, .sign ";" :: s)
        | s => (readExpr? n false s).map fun (e, s) => (some e, s)
      let s ← expect ";" s
      let (next, s) ← match skipLines s with
        | .sign ")" :: s => some (none, .sign ")" :: s)
        | s => (readSimple? n s).map fun (t, s) => (some t, s)
      let s ← expect ")" s
      let (body, s) ← readStmt? n (skipLines s)
      some (.loop start c next body, s)
where
  /-- The symbols behind a sign that has to come next. -/
  expect (g : String) : List Symbol → Option (List Symbol)
    | .sign h :: s => if g = h then some s else none
    | _ => none

def readStmts? : Nat → List Symbol → Option (List Stmt × List Symbol)
  | 0, _ => none
  | n + 1, s =>
    match skipEnds s with
    | .sign "\x7d" :: s => some ([], s)
    | [] => none
    | s => do
      let (t, s) ← readStmt? n s
      let (ts, s) ← readStmts? n s
      some (t :: ts, s)

end

/-! ### Programs -/

/-- Reads the body of an item, if there is one. -/
def readBody? (n : Nat) (s : List Symbol) : Option (Option Stmt × List Symbol) :=
  match s with
  | .sign "\x7b" :: s => (readStmts? n s).map fun (ts, s) => (some (.block ts), s)
  | s => if s.isEmpty || s.head? = some .newline || s.head? = some (.sign ";") then some (none, s)
    else none

/-- Reads the items of a program, in at most `n` steps. -/
def readItems? : Nat → List Symbol → Option (List Item)
  | 0, _ => none
  | n + 1, s =>
    match skipEnds s with
    | [] => some []
    | .name ['B', 'E', 'G', 'I', 'N'] :: s => do
      let (b, s) ← readBody? n s
      if b.isNone then none else (readItems? n s).map (⟨.begin_, b⟩ :: ·)
    | .name ['E', 'N', 'D'] :: s => do
      let (b, s) ← readBody? n s
      if b.isNone then none else (readItems? n s).map (⟨.end_, b⟩ :: ·)
    | .sign "\x7b" :: s => do
      let (b, s) ← readBody? n (.sign "\x7b" :: s)
      (readItems? n s).map (⟨.always, b⟩ :: ·)
    | s => do
      let (a, s) ← readExpr? n false s
      let (g, s) ← match s with
        | .sign "," :: s => (readExpr? n false (skipLines s)).map fun (b, s) => (.between a b, s)
        | s => some (.when a, s)
      let (b, s) ← readBody? n s
      (readItems? n s).map (⟨g, b⟩ :: ·)

def readProgram? (s : List Char) : Option (List Item) :=
  (Symbol.readAll? s).bind fun ys => readItems? (16 * ys.length + 64) ys

end RepoBrowser.Shell.Tool.Awk
