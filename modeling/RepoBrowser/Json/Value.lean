/-!
# JSON values

* `Json` — a value; objects keep their members in order and with repetitions, numbers keep their
  spelling;
* `get?` — the value of an object's member, the last one of that name;
* `text?`, `at?`, `textAt?` — the text of a string, and values reached through nested members;
* `natural?` — the value of a number written without sign, fraction and exponent that fits in 64
  bits; `integer?` allows a sign.
-/

namespace RepoBrowser

/-- A JSON value.  A number is kept as it is spelled. -/
inductive Json where
  | null
  | bool (value : Bool)
  | number (spelling : String)
  | string (value : String)
  | array (items : List Json)
  | object (members : List (String × Json))
  deriving Inhabited

namespace Json

def members? : Json → Option (List (String × Json))
  | .object ms => some ms
  | _ => none

def items? : Json → Option (List Json)
  | .array xs => some xs
  | _ => none

/-- The last of the members with a name. -/
def lastMember? (key : String) : List (String × Json) → Option Json
  | [] => none
  | (k, v) :: ms => (lastMember? key ms).or (if k = key then some v else none)

def get? (v : Json) (key : String) : Option Json := v.members?.bind (lastMember? key)

def text? : Json → Option String
  | .string s => some s
  | _ => none

/-- The value reached through members of nested objects. -/
def at? (v : Json) : List String → Option Json
  | [] => some v
  | k :: ks => (v.get? k).bind fun w => w.at? ks

def textAt? (v : Json) (keys : List String) : Option String := (v.at? keys).bind text?

/-- The value of a spelling that has digits only. -/
def naturalOfSpelling? (s : List Char) : Option Nat :=
  if s.all (fun c => '0' ≤ c && c ≤ '9') && !s.isEmpty then
    let n := s.foldl (fun n c => n * 10 + (c.toNat - 0x30)) 0
    if n < Nat.pow 2 64 then some n else none
  else none

/-- The value of a number that is a whole number of 64 bits and written as one. -/
def natural? : Json → Option Nat
  | .number s => naturalOfSpelling? s.toList
  | _ => none

/-- The value of a number that is written as a whole number, with a sign or without. -/
def integer? : Json → Option Int
  | .number s =>
    match s.toList with
    | '-' :: ds => (naturalOfSpelling? ds).map fun n => -(n : Int)
    | ds => (naturalOfSpelling? ds).map fun n => (n : Int)
  | _ => none

def naturalAt (v : Json) (key : String) : Nat := ((v.get? key).bind natural?).getD 0

end Json

end RepoBrowser
