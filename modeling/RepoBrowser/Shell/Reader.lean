import RepoBrowser.Shell.Syntax

/-!
# Reading scripts

A script is read line by line, each into the commands on it; what is wrong in a line does not
concern the lines before it.

* `Source` — what is left of a text, and the documents that stand behind the lines with `<<`;
* `Reader` — a reader of some part of a script;
* `readParts` — the parts of a word up to its end, which depends on the `Place` it stands in;
* `readCommand`, `readList`, `readLine` — commands, lists of them, and a line;
* `Reading.of` — the lines of a script.

Readers carry a bound on their nesting, which `Reading.of` computes from the length of the text.
-/

namespace RepoBrowser.Shell

/-- A document that is still to be read: the line that ends it, whether leading tabs are dropped,
and whether expansions count in it. -/
structure Awaited where
  delimiter : List Char
  dropsTabs : Bool
  expands : Bool

/-- What is left of a text, the number of its first line, the documents that its next lines hold,
and those read before, in reverse. -/
structure Source where
  rest : List Char
  line : Nat := 1
  awaited : List Awaited := []
  documents : List Word := []

/-- A reader of some part of a script; it fails where the part is not well formed. -/
abbrev Reader := StateT Source Option

namespace Reader

def peek : Reader (Option Char) := return (← get).rest.head?

def comesNext (t : List Char) : Reader Bool := return (← get).rest.take t.length = t

/-- Passes over the next `n` characters. -/
def skip (n : Nat) : Reader Unit :=
  modify fun s =>
    { s with rest := s.rest.drop n, line := s.line + (s.rest.take n).count '\n' }

def takeWhile (p : Char → Bool) : Reader (List Char) := do
  let cs := (← get).rest.takeWhile p
  skip cs.length
  return cs

def expect (t : List Char) : Reader Unit := do
  if ← comesNext t then skip t.length else failure

end Reader

open Reader

/-! ### Blanks and line ends -/

/-- Passes over blanks, joined lines and a comment, in at most `n` steps. -/
def skipBlanks : Nat → Reader Unit
  | 0 => return
  | n + 1 => do
    match (← get).rest with
    | ' ' :: _ | '\t' :: _ => skip 1; skipBlanks n
    | '\\' :: '\n' :: _ => skip 2; skipBlanks n
    | '#' :: _ => discard <| takeWhile (· ≠ '\n')
    | _ => return

def blanks : Reader Unit := do skipBlanks ((← get).rest.length + 1)

def endsWord (c : Char) : Bool :=
  c = ' ' || c = '\t' || c = '\n' || c = ';' || c = '&' || c = '|' || c = '<' || c = '>' || c = '('
    || c = ')'

/-- The words that have a meaning where a command is due. -/
def keywords : List String :=
  ["if", "then", "else", "elif", "fi", "while", "until", "for", "in", "do", "done", "case", "esac",
    "\x7b", "\x7d", "!"]

/-- The keywords that can only follow a list of commands. -/
def closers : List String :=
  ["then", "else", "elif", "fi", "do", "done", "esac", "\x7d", "in"]

/-- The keyword that comes next, if there is one. -/
def keyword? : Reader (Option String) := do
  let s := (← get).rest
  let w := s.takeWhile fun c =>
    !endsWord c && c ≠ '\'' && c ≠ '"' && c ≠ '\\' && c ≠ '$' && c ≠ '\x60'
  let ends := match s.drop w.length with
    | [] => true
    | c :: _ => endsWord c
  return if ends && keywords.contains (String.ofList w) then some (String.ofList w) else none

def expectKeyword (k : String) : Reader Unit := do
  if (← keyword?) = some k then skip k.length else failure

/-! ### Words -/

/-- Where a word stands: by itself, in double quotes, in the braces of a parameter, in a document,
or in a sum, with the number of open parentheses. -/
inductive Place where
  | bare | double | braces (quoted : Bool) | document | sum (depth : Nat)
  deriving DecidableEq

def Place.isQuoted : Place → Bool
  | .bare => false
  | .braces quoted => quoted
  | _ => true

def Place.opensQuotes : Place → Bool
  | .bare | .braces false => true
  | _ => false

/-- Whether a backslash at a place in quotes takes the meaning off a character. -/
def Place.escapes (p : Place) (c : Char) : Bool :=
  c = '$' || c = '\x60' || c = '\\' || (c = '"' && p ≠ .document)
    || (c = '\x7d' && p = .braces true)

/-- The text up to a single quote, quoted. -/
def readSingle : Reader Word := do
  let cs ← takeWhile (· ≠ '\'')
  expect ['\'']
  return .quotes :: cs.map (.char true)

/-- The text up to a backquote, its backslashes read, in at most `n` steps. -/
def readBackquoted (quoted : Bool) : Nat → Reader (List Char)
  | 0 => failure
  | n + 1 => do
    match (← get).rest with
    | [] => failure
    | '\x60' :: _ => skip 1; return []
    | '\\' :: c :: _ =>
      skip 2
      let cs ← readBackquoted quoted n
      if c = '\\' || c = '\x60' || c = '$' || (quoted && c = '"') then return c :: cs
      else if c = '\n' then return cs
      else return '\\' :: c :: cs
    | c :: _ =>
      skip 1
      return c :: (← readBackquoted quoted n)

/-- The use that stands behind a parameter's name in braces, and whether a word follows it. -/
def readUse : Reader (Use × Bool) := do
  match (← get).rest with
  | '\x7d' :: _ => skip 1; return (.value, false)
  | ':' :: c :: _ =>
    match missing? true c with
    | some use => skip 2; return (use, true)
    | none => return (.wrong, true)
  | '%' :: '%' :: _ => skip 2; return (.without .back true, true)
  | '%' :: _ => skip 1; return (.without .back false, true)
  | '#' :: '#' :: _ => skip 2; return (.without .front true, true)
  | '#' :: _ => skip 1; return (.without .front false, true)
  | c :: _ =>
    match missing? false c with
    | some use => skip 1; return (use, true)
    | none => return (.wrong, true)
  | [] => failure
where
  /-- The use for a missing value that a sign stands for. -/
  missing? (orNull : Bool) (c : Char) : Option Use :=
    if c = '-' then some (.orElse orNull)
    else if c = '=' then some (.orAssign orNull)
    else if c = '?' then some (.orFail orNull)
    else if c = '+' then some (.instead orNull)
    else none

def isSpecial (c : Char) : Bool := "@*#?-$!".toList.contains c

/-- The name of a parameter in braces, and whether its length is asked for. -/
def readBracedName : Reader (List Char × Bool) := do
  match (← get).rest with
  | '#' :: c :: d :: _ =>
    if isNameChar c then
      skip 1
      return (← readName, true)
    else if c ≠ '\x7d' && isSpecial c && d = '\x7d' then
      skip 2
      return ([c], true)
    else
      skip 1
      return (['#'], false)
  | _ => return (← readName, false)
where
  /-- The name of a parameter. -/
  readName : Reader (List Char) := do
    match (← get).rest with
    | [] => failure
    | c :: _ =>
      if isNameStart c then takeWhile isNameChar
      else if c.isDigit then takeWhile Char.isDigit
      else if isSpecial c then
        skip 1
        return [c]
      else return []

/-- The parts in double quotes as they stand in a word.  Quotes around nothing but all arguments
stand for as many words as there are arguments, even none. -/
def quotedParts (ps : Word) : Word :=
  match ps with
  | [.parameter _ ['@'] .value _] => ps
  | ps => .quotes :: ps

/-- What a file is opened for by the sign of a redirection, and how long the sign is. -/
def fileMode? : List Char → Option (Mode × Nat)
  | '>' :: '>' :: _ => some (.append, 2)
  | '>' :: '|' :: _ => some (.overwrite, 2)
  | '>' :: _ => some (.write, 1)
  | '<' :: '>' :: _ => some (.read, 2)
  | '<' :: _ => some (.read, 1)
  | _ => none

/-- The text of the next document up to its last line, which is passed over, in at most `n`
lines. -/
def documentText (a : Awaited) : Nat → Reader (List Char)
  | 0 => return []
  | n + 1 => do
    if (← get).rest.isEmpty then return []
    else
      let line ← takeWhile (· ≠ '\n')
      let line := if a.dropsTabs then line.dropWhile (· = '\t') else line
      let ended := (← get).rest.isEmpty
      skip 1
      if line = a.delimiter then return []
      else
        let text ← documentText a n
        return line ++ (if ended then [] else '\n' :: text)

mutual

/-- Reads the parts of a word up to its end, with those before it given in reverse. -/
def readParts : Nat → Place → Word → Reader Word
  | 0, _, _ => failure
  | n + 1, place, back => do
    match (← get).rest with
    | [] => if place = .bare || place = .document then return back.reverse else failure
    | c :: s =>
      if place = .bare && endsWord c then return back.reverse
      else if c = '\\' then
        match s with
        | [] => skip 1; readParts n place (.char true c :: back)
        | d :: _ =>
          if d = '\n' then
            skip 2
            readParts n place back
          else if place.opensQuotes || place.escapes d then
            skip 2
            readParts n place (.char true d :: back)
          else
            skip 1
            readParts n place (.char true c :: back)
      else if c = '$' then
        skip 1
        let ps ← readDollar n place.isQuoted
        readParts n place (ps.reverse ++ back)
      else if c = '\x60' then
        skip 1
        let text ← readBackquoted place.isQuoted (s.length + 1)
        let script ← readNested n text
        readParts n place (.substitution place.isQuoted script :: back)
      else if c = '"' && place ≠ .document then
        skip 1
        match place with
        | .double => return back.reverse
        | .braces true | .sum _ => readParts n place back
        | _ =>
          let ps ← readParts n .double []
          readParts n place ((quotedParts ps).reverse ++ back)
      else if c = '\'' && place.opensQuotes then
        skip 1
        let ps ← readSingle
        readParts n place (ps.reverse ++ back)
      else
        match place, c with
        | .braces _, '\x7d' => skip 1; return back.reverse
        | .sum d, '(' => skip 1; readParts n (.sum (d + 1)) (.char true c :: back)
        | .sum (d + 1), ')' => skip 1; readParts n (.sum d) (.char true c :: back)
        | .sum 0, ')' =>
          if s.head? = some ')' then
            skip 2
            return back.reverse
          else
            skip 1
            readParts n place (.char true c :: back)
        | _, _ => skip 1; readParts n place (.char place.isQuoted c :: back)

/-- Reads what stands behind a dollar sign. -/
def readDollar : Nat → Bool → Reader Word
  | 0, _ => failure
  | n + 1, quoted => do
    match (← get).rest with
    | '(' :: '(' :: _ =>
      skip 2
      return [.arithmetic quoted (← readParts n (.sum 0) [])]
    | '(' :: _ =>
      skip 1
      let cs ← readList n []
      expect [')']
      return [.substitution quoted cs]
    | '\x7b' :: _ =>
      skip 1
      let (name, length) ← readBracedName
      let (use, more) ← readUse
      let inner := match use with
        | .without _ _ => false
        | _ => quoted
      let word ← if more then readParts n (.braces inner) [] else pure []
      let use := if name.isEmpty then .wrong
        else if length then (if use = .value then .length else .wrong)
        else use
      return [.parameter quoted name use word]
    | c :: _ =>
      if isNameStart c then return [.valueOf quoted (← takeWhile isNameChar)]
      else if c.isDigit || isSpecial c then
        skip 1
        return [.valueOf quoted [c]]
      else return [.char quoted '$']
    | [] => return [.char quoted '$']

/-- Reads a script from another text, which has to be well formed to its end. -/
def readNested : Nat → List Char → Reader (List Command)
  | 0, _ => failure
  | n + 1, text => do
    let outer ← get
    set { outer with rest := text }
    let cs ← readList n []
    if (← get).rest.isEmpty then
      modify fun s => { s with rest := outer.rest, line := outer.line }
      return cs
    else failure

def readDocuments : Nat → Reader Unit
  | 0 => failure
  | n + 1 => do
    match (← get).awaited with
    | [] => return
    | a :: more =>
      let text ← documentText a (((← get).rest.count '\n') + 1)
      let s ← get
      set { s with rest := text, awaited := [] }
      let ps ← if a.expands then readParts n .document [] else pure (text.map (.char true))
      modify fun t => { s with awaited := more, documents := ps :: t.documents }
      readDocuments n

/-- Passes over a line end, and over the documents behind it. -/
def readLineEnd : Nat → Reader Unit
  | 0 => failure
  | n + 1 => do expect ['\n']; readDocuments n

def readSpace : Nat → Reader Unit
  | 0 => failure
  | n + 1 => do
    blanks
    if (← peek) = some '\n' then readLineEnd n; readSpace n

/-- Reads a word, if one comes next. -/
def readWord? : Nat → Reader (Option Word)
  | 0 => failure
  | n + 1 => do
    blanks
    match ← peek with
    | none => return none
    | some c =>
      if endsWord c then return none
      else return some (← readParts n .bare [])

/-- Reads a redirection, if one comes next. -/
def readRedirect? : Nat → Reader (Option Redirect)
  | 0 => failure
  | n + 1 => do
    blanks
    let s := (← get).rest
    let (number, s) := match s with
      | c :: d :: r => if c.isDigit && (d = '<' || d = '>') then (some (c.toNat - 0x30), d :: r)
        else (none, s)
      | _ => (none, s)
    match s with
    | '<' :: '<' :: r =>
      skip (if number.isSome then 1 else 0)
      let dropsTabs := r.head? = some '-'
      skip (if dropsTabs then 3 else 2)
      match (← readWord? n).bind literal? with
      | some (delimiter, quoted) =>
        let state ← get
        let a : Awaited := ⟨delimiter, dropsTabs, !quoted⟩
        set { state with awaited := state.awaited ++ [a] }
        return some (.document (number.getD 0) (state.documents.length + state.awaited.length))
      | none => failure
    | '<' :: '&' :: _ | '>' :: '&' :: _ =>
      skip (if number.isSome then 3 else 2)
      match ← readWord? n with
      | some w => return some (.copy (number.getD (if s.head? = some '<' then 0 else 1)) w)
      | none => failure
    | _ =>
      match fileMode? s with
      | some (mode, k) =>
        skip (if number.isSome then k + 1 else k)
        match ← readWord? n with
        | some w => return some (.file (number.getD (if mode = .read then 0 else 1)) mode w)
        | none => failure
      | none => return none

def readRedirects : Nat → Reader (List Redirect)
  | 0 => failure
  | n + 1 => do
    match ← readRedirect? n with
    | some r => return r :: (← readRedirects n)
    | none => return []

/-- Reads the assignments, words and redirections of a simple command; those before are given in
reverse.  A name with an empty pair of parentheses behind it starts the definition of a
function. -/
def readSimple :
    Nat → Nat → List (List Char × Word) → List Word → List Redirect → Reader Command
  | 0, _, _, _, _ => failure
  | n + 1, line, as, ws, rs => do
    match ← readRedirect? n with
    | some r => readSimple n line as ws (r :: rs)
    | none =>
      match ← readWord? n with
      | some w =>
        match assignment? w with
        | some a =>
          if ws.isEmpty then readSimple n line (a :: as) ws rs
          else readSimple n line as (w :: ws) rs
        | none => readSimple n line as (w :: ws) rs
      | none =>
        if (← peek) = some '(' then
          match as, ws.map literal?, rs with
          | [], [some (name, false)], [] =>
            skip 1
            blanks
            expect [')']
            readSpace n
            if isName name then
              return .function name (← readCommand n)
            else failure
          | _, _, _ => failure
        else if as.isEmpty && ws.isEmpty && rs.isEmpty then failure
        else return .simple line as.reverse ws.reverse rs.reverse

/-- Reads a list of at least one command. -/
def readBody : Nat → Reader Command
  | 0 => failure
  | n + 1 => do
    match ← readList n [] with
    | [] => failure
    | cs => return .sequence cs

def readBranch : Nat → Reader Command
  | 0 => failure
  | n + 1 => do
    let condition ← readBody n
    expectKeyword "then"
    let body ← readBody n
    match ← keyword? with
    | some "elif" => skip 4; return .branch condition body (← readBranch n)
    | some "else" =>
      skip 4
      let otherwise ← readBody n
      expectKeyword "fi"
      return .branch condition body otherwise
    | _ => expectKeyword "fi"; return .branch condition body (.sequence [])

def readWords : Nat → Reader (List Word)
  | 0 => failure
  | n + 1 => do
    match ← readWord? n with
    | some w => return w :: (← readWords n)
    | none => return []

/-- Reads the body of a loop, between its keywords. -/
def readLoopBody : Nat → Reader Command
  | 0 => failure
  | n + 1 => do
    expectKeyword "do"
    let body ← readBody n
    expectKeyword "done"
    return body

def readEach : Nat → Reader Command
  | 0 => failure
  | n + 1 => do
    match (← readWord? n).bind literal? with
    | some (name, false) =>
      if !isName name then failure
      else
        readSpace n
        if (← keyword?) = some "in" then
          skip 2
          let ws ← readWords n
          blanks
          if (← peek) = some ';' then
            skip 1
          else
            readLineEnd n
          readSpace n
          return .each name (some ws) (← readLoopBody n)
        else
          if (← peek) = some ';' then
            skip 1
            readSpace n
          return .each name none (← readLoopBody n)
    | _ => failure

def readPatterns : Nat → Reader (List Word)
  | 0 => failure
  | n + 1 => do
    match ← readWord? n with
    | some w =>
      blanks
      if (← peek) = some '|' then
        skip 1
        return w :: (← readPatterns n)
      else
        expect [')']
        return [w]
    | none => failure

def readArms : Nat → Reader (List (List Word × Command))
  | 0 => failure
  | n + 1 => do
    readSpace n
    if (← keyword?) = some "esac" then
      skip 4
      return []
    else
      if (← peek) = some '(' then skip 1
      let ps ← readPatterns n
      let body ← readList n []
      if ← comesNext [';', ';'] then
        skip 2
        return (ps, .sequence body) :: (← readArms n)
      else
        expectKeyword "esac"
        return [(ps, .sequence body)]

/-- Reads a command, its redirections included. -/
def readCommand : Nat → Reader Command
  | 0 => failure
  | n + 1 => do
    blanks
    let line := (← get).line
    let compound (c : Command) : Reader Command := do
      match ← readRedirects n with
      | [] => return c
      | rs => return .redirected c rs
    match ← keyword? with
    | some "if" => skip 2; compound (← readBranch n)
    | some "while" =>
      skip 5
      let condition ← readBody n
      compound (.loop true condition (← readLoopBody n))
    | some "until" =>
      skip 5
      let condition ← readBody n
      compound (.loop false condition (← readLoopBody n))
    | some "for" => skip 3; compound (← readEach n)
    | some "case" =>
      skip 4
      match ← readWord? n with
      | some w =>
        readSpace n
        expectKeyword "in"
        compound (.choice w (← readArms n))
      | none => failure
    | some "\x7b" =>
      skip 1
      let body ← readBody n
      expectKeyword "\x7d"
      compound body
    | some _ => failure
    | none =>
      if (← peek) = some '(' then
        skip 1
        let body ← readBody n
        expect [')']
        compound (.subshell body)
      else readSimple n line [] [] []

def readStages : Nat → Reader (List Command)
  | 0 => failure
  | n + 1 => do
    let c ← readCommand n
    blanks
    if (← comesNext ['|']) && !(← comesNext ['|', '|']) then
      skip 1
      readSpace n
      return c :: (← readStages n)
    else return [c]

def readPipeline : Nat → Reader Command
  | 0 => failure
  | n + 1 => do
    blanks
    if (← keyword?) = some "!" then
      skip 1
      return .negation (← readPipeline n)
    else
      match ← readStages n with
      | [c] => return c
      | cs => return .pipeline cs

/-- Reads pipelines that run on success or failure of the one before, which is given. -/
def readConditional : Nat → Command → Reader Command
  | 0, _ => failure
  | n + 1, a => do
    blanks
    if ← comesNext ['&', '&'] then
      skip 2
      readSpace n
      readConditional n (.and a (← readPipeline n))
    else if ← comesNext ['|', '|'] then
      skip 2
      readSpace n
      readConditional n (.or a (← readPipeline n))
    else return a

/-- Reads a list of commands up to what cannot belong to it; those before are given in reverse. -/
def readList : Nat → List Command → Reader (List Command)
  | 0, _ => failure
  | n + 1, back => do
    readSpace n
    match ← peek with
    | none => return back.reverse
    | some c =>
      if c = ')' || (← comesNext [';', ';']) then return back.reverse
      else if ((← keyword?).map closers.contains).getD false then return back.reverse
      else
        let a ← readConditional n (← readPipeline n)
        if ← comesNext [';', ';'] then return (a :: back).reverse
        else if ← comesNext [';'] then
          skip 1
          readList n (a :: back)
        else if ← comesNext ['&'] then
          skip 1
          readList n (.background a :: back)
        else if ← comesNext ['\n'] then readList n (a :: back)
        else return (a :: back).reverse

end

/-! ### Scripts -/

/-- Reads the commands up to the end of a line; those before are given in reverse. -/
def readLine : Nat → List Command → Reader (List Command)
  | 0, _ => failure
  | n + 1, back => do
    blanks
    match ← peek with
    | none => return back.reverse
    | some '\n' => readLineEnd n; return back.reverse
    | some _ =>
      let a ← readConditional n (← readPipeline n)
      if ← comesNext [';', ';'] then failure
      else if ← comesNext [';'] then
        skip 1
        readLine n (a :: back)
      else if ← comesNext ['&'] then
        skip 1
        readLine n (.background a :: back)
      else
        match ← peek with
        | none => readDocuments n; return (a :: back).reverse
        | some '\n' => readLineEnd n; return (a :: back).reverse
        | some _ => failure

/-- A script as it was read: its lines up to the first that is wrong, whether there is one, and the
documents in it. -/
structure Reading where
  lines : List (List Command)
  broken : Bool
  documents : List Word

/-- Reads lines to the end of a text, at most `k` of them; those before are given in reverse. -/
def readLines (n : Nat) : Nat → List (List Command) → Source → Reading
  | 0, back, s => ⟨back.reverse, true, s.documents.reverse⟩
  | k + 1, back, s =>
    if s.rest.isEmpty then ⟨back.reverse, false, s.documents.reverse⟩
    else
      match (readLine n []).run s with
      | some (cs, s) => readLines n k (cs :: back) s
      | none => ⟨back.reverse, true, s.documents.reverse⟩

/-- The lines of a script; its documents come behind those of scripts read before. -/
def Reading.of (documents : List Word) (script : List Char) : Reading :=
  readLines (8 * script.length + 64) (script.length + 1) []
    { rest := script, documents := documents.reverse }

end RepoBrowser.Shell
