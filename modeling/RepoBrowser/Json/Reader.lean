import RepoBrowser.Json.Value

/-!
# Reading JSON

A text is cut into tokens and the tokens are put together with a stack of open arrays and objects,
both in one pass over their input.

* `Token`, `tokens?` — the tokens of a text; a word that is no JSON number or literal, an unknown
  escape, an unpaired surrogate and a bare control character are refused;
* `Frame`, `Due` — an array or object that is still open, and what may come next;
* `build?` — the value that tokens spell;
* `Json.parse?` — the value of a text, which holds nothing else.

Arrays and objects nest at most 127 deep.
-/

namespace RepoBrowser.Json

inductive Token where
  | openArray | closeArray | openObject | closeObject | comma | colon
  | string (value : String)
  | number (spelling : String)
  | null
  | bool (value : Bool)

def isSpace (c : Char) : Bool := c = ' ' || c = '\t' || c = '\n' || c = '\r'

def isWordChar (c : Char) : Bool := c.isAlphanum || c = '-' || c = '+' || c = '.'

/-- What digits leave, if there is one at all. -/
def afterDigits? : List Char → Option (List Char)
  | [] => none
  | c :: s => if c.isDigit then some (s.dropWhile Char.isDigit) else none

/-- What the whole part of a number leaves: a zero, or digits without a leading zero. -/
def afterWhole? : List Char → Option (List Char)
  | '0' :: s => some s
  | s => afterDigits? s

def afterFraction? : List Char → Option (List Char)
  | '.' :: s => afterDigits? s
  | s => some s

def afterExponent? : List Char → Option (List Char)
  | c :: '+' :: s => if c = 'e' || c = 'E' then afterDigits? s else some (c :: '+' :: s)
  | c :: '-' :: s => if c = 'e' || c = 'E' then afterDigits? s else some (c :: '-' :: s)
  | c :: s => if c = 'e' || c = 'E' then afterDigits? s else some (c :: s)
  | [] => some []

def isNumber (s : List Char) : Bool :=
  let unsigned := match s with
    | '-' :: r => r
    | r => r
  ((afterWhole? unsigned).bind afterFraction?).bind afterExponent? = some []

def wordToken? (w : List Char) : Option Token :=
  if w = ['n', 'u', 'l', 'l'] then some .null
  else if w = ['t', 'r', 'u', 'e'] then some (.bool true)
  else if w = ['f', 'a', 'l', 's', 'e'] then some (.bool false)
  else if isNumber w then some (.number (String.ofList w))
  else none

def markToken? (c : Char) : Option Token :=
  match c with
  | '[' => some .openArray
  | ']' => some .closeArray
  | '{' => some .openObject
  | '}' => some .closeObject
  | ',' => some .comma
  | ':' => some .colon
  | _ => none

/-- Where the reader of tokens stands.  Texts and words are collected in reverse. -/
inductive Mode where
  /-- Between tokens. -/
  | between
  /-- In a number or literal. -/
  | word (back : List Char)
  /-- In a string. -/
  | text (back : List Char)
  /-- Behind the backslash of an escape. -/
  | escape (back : List Char)
  /-- In a `\u` escape with `left` digits to come; `high` is the first half of a pair. -/
  | hex (back : List Char) (left value : Nat) (high : Option Nat)
  /-- Behind the first half of a pair. -/
  | pair (back : List Char) (high : Nat)
  /-- Behind the backslash of a second half. -/
  | pairEscape (back : List Char) (high : Nat)

/-- The character that an escape of one letter stands for. -/
def escaped? (c : Char) : Option Char :=
  match c with
  | '"' => some '"'
  | '\\' => some '\\'
  | '/' => some '/'
  | 'b' => some '\x08'
  | 'f' => some '\x0c'
  | 'n' => some '\n'
  | 'r' => some '\r'
  | 't' => some '\t'
  | _ => none

def hexValue? (c : Char) : Option Nat :=
  if '0' ≤ c && c ≤ '9' then some (c.toNat - 0x30)
  else if 'a' ≤ c && c ≤ 'f' then some (c.toNat - 0x57)
  else if 'A' ≤ c && c ≤ 'F' then some (c.toNat - 0x37)
  else none

/-- Where a complete `\u` escape of value `n` leads to. -/
def afterHex? (back : List Char) (n : Nat) : Option Nat → Option Mode
  | some high =>
    if 0xDC00 ≤ n && n ≤ 0xDFFF then
      some (.text (Char.ofNat (0x10000 + (high - 0xD800) * 0x400 + (n - 0xDC00)) :: back))
    else none
  | none =>
    if 0xD800 ≤ n && n ≤ 0xDBFF then some (.pair back n)
    else if 0xDC00 ≤ n && n ≤ 0xDFFF then none
    else some (.text (Char.ofNat n :: back))

/-- One character between tokens: the mode after it and the tokens with the one it completes. -/
def between? (ts : List Token) (c : Char) : Option (Mode × List Token) :=
  if isSpace c then some (.between, ts)
  else if c = '"' then some (.text [], ts)
  else if isWordChar c then some (.word [c], ts)
  else (markToken? c).map fun t => (.between, t :: ts)

/-- One character: the mode after it and the tokens so far, in reverse. -/
def step? (m : Mode) (ts : List Token) (c : Char) : Option (Mode × List Token) :=
  match m with
  | .between => between? ts c
  | .word w =>
    if isWordChar c then some (.word (c :: w), ts)
    else (wordToken? w.reverse).bind fun t => between? (t :: ts) c
  | .text w =>
    if c = '"' then some (.between, .string (String.ofList w.reverse) :: ts)
    else if c = '\\' then some (.escape w, ts)
    else if c.toNat < 0x20 then none
    else some (.text (c :: w), ts)
  | .escape w =>
    if c = 'u' then some (.hex w 4 0 none, ts)
    else (escaped? c).map fun d => (.text (d :: w), ts)
  | .hex w left n high =>
    (hexValue? c).bind fun d =>
      if left ≤ 1 then (afterHex? w (n * 16 + d) high).map fun m => (m, ts)
      else some (.hex w (left - 1) (n * 16 + d) high, ts)
  | .pair w high => if c = '\\' then some (.pairEscape w high, ts) else none
  | .pairEscape w high => if c = 'u' then some (.hex w 4 0 (some high), ts) else none

/-- The tokens of a text, those read before given in reverse. -/
def tokensFrom? : Mode → List Token → List Char → Option (List Token)
  | .between, ts, [] => some ts.reverse
  | .word w, ts, [] => (wordToken? w.reverse).map fun t => (t :: ts).reverse
  | _, _, [] => none
  | m, ts, c :: s =>
    match step? m ts c with
    | some (m, ts) => tokensFrom? m ts s
    | none => none

def tokens? (s : List Char) : Option (List Token) := tokensFrom? .between [] s

/-! ### Putting tokens together -/

/-- An array or object that is still open, its parts in reverse. -/
inductive Frame where
  | items (back : List Json)
  | members (back : List (String × Json))
  | member (back : List (String × Json)) (key : String)

inductive Due where
  /-- A value. -/
  | value
  /-- The first item of an array, or its end. -/
  | firstItem
  /-- The first key of an object, or its end. -/
  | firstKey
  /-- Another key. -/
  | key
  /-- The colon behind a key. -/
  | colon (key : String)
  /-- A comma or the end of what is open. -/
  | separator
  /-- Nothing: the value is complete. -/
  | nothing (value : Json)

/-- How deep arrays and objects may nest. -/
def maxDepth : Nat := 127

/-- A complete value put into what is open. -/
def place (v : Json) : List Frame → Option (Due × List Frame)
  | [] => some (.nothing v, [])
  | .items xs :: fs => some (.separator, .items (v :: xs) :: fs)
  | .member ms k :: fs => some (.separator, .members ((k, v) :: ms) :: fs)
  | .members _ :: _ => none

/-- A token where a value may start. -/
def startValue? (fs : List Frame) : Token → Option (Due × List Frame)
  | .openArray => if fs.length < maxDepth then some (.firstItem, .items [] :: fs) else none
  | .openObject => if fs.length < maxDepth then some (.firstKey, .members [] :: fs) else none
  | .string s => place (.string s) fs
  | .number s => place (.number s) fs
  | .null => place .null fs
  | .bool b => place (.bool b) fs
  | _ => none

/-- A token that closes the array or object opened last. -/
def close? : List Frame → Token → Option (Due × List Frame)
  | .items xs :: fs, .closeArray => place (.array xs.reverse) fs
  | .members ms :: fs, .closeObject => place (.object ms.reverse) fs
  | _, _ => none

/-- One token: what may come next and what is open after it. -/
def accept? (d : Due) (fs : List Frame) (t : Token) : Option (Due × List Frame) :=
  match d, t with
  | .value, t => startValue? fs t
  | .firstItem, .closeArray => close? fs .closeArray
  | .firstItem, t => startValue? fs t
  | .firstKey, .closeObject => close? fs .closeObject
  | .firstKey, .string k | .key, .string k => some (.colon k, fs)
  | .colon k, .colon =>
    match fs with
    | .members ms :: fs => some (.value, .member ms k :: fs)
    | _ => none
  | .separator, .comma =>
    match fs with
    | .items _ :: _ => some (.value, fs)
    | .members _ :: _ => some (.key, fs)
    | _ => none
  | .separator, t => close? fs t
  | _, _ => none

def buildFrom? : Due → List Frame → List Token → Option Json
  | .nothing v, _, [] => some v
  | _, _, [] => none
  | d, fs, t :: ts =>
    match accept? d fs t with
    | some (d, fs) => buildFrom? d fs ts
    | none => none

def build? (ts : List Token) : Option Json := buildFrom? .value [] ts

/-- The value of a text that holds one value and nothing else. -/
def parse? (s : List Char) : Option Json := (tokens? s).bind build?

end RepoBrowser.Json
