/-!
# TOML values and documents

* `Toml` — a value.  Of dates, times and fractions only the kind is kept, since no setting is one;
* `Statement` — a line of a document: a table header, a header of an array of tables, or an
  assignment to a key;
* `Origin`, `Node` — a document under construction, which remembers how each table came about;
* `Node.define?`, `Node.append?`, `Node.assign?` — the effect of each kind of line, refused where
  it would define something twice;
* `Toml.ofStatements?` — the table that the lines of a document describe.

A table named only in a longer header may still get a header of its own; one built by dotted keys
may not, and only dotted keys may add to it.
-/

namespace RepoBrowser

inductive Toml where
  | string (value : String)
  | integer (value : Int)
  | float
  | boolean (value : Bool)
  | dateTime
  | array (items : List Toml)
  | table (entries : List (String × Toml))
  deriving Inhabited

namespace Toml

def get? (v : Toml) (key : String) : Option Toml :=
  match v with
  | .table es => es.lookup key
  | _ => none

/-- A line of a document. -/
inductive Statement where
  | header (path : List String)
  | arrayHeader (path : List String)
  | assign (path : List String) (value : Toml)

/-- How a table came about: named in a longer header, by a header of its own, or by dotted keys. -/
inductive Origin where
  | implied | header | dotted
  deriving DecidableEq

/-- A document under construction: a value, a table, or an array of tables with the last one
first. -/
inductive Node where
  | value (v : Toml)
  | table (origin : Origin) (entries : List (String × Node))
  | tables (back : List (List (String × Node)))

abbrev Entries := List (String × Node)

/-- The entries with the node of one key replaced, or added at the end. -/
def Entries.set (key : String) (n : Node) : Entries → Entries
  | [] => [(key, n)]
  | (k, m) :: es => if k = key then (k, n) :: es else (k, m) :: Entries.set key n es

/-- Goes down a path of tables, making those that are missing, and changes the entries at its end.
`dotted` tells a path of dotted keys from the path of a header. -/
def Entries.update? (dotted : Bool) (f : Bool → Entries → Option Entries) :
    Bool → List String → Entries → Option Entries
  | isDotted, [], es => f isDotted es
  | _, k :: ks, es =>
    match es.lookup k with
    | none => do
      let inner ← Entries.update? dotted f dotted ks []
      some (Entries.set k (.table (if dotted then .dotted else .implied) inner) es)
    | some (.table origin inner) => do
      if dotted && origin = .header then none
      else
        let inner ← Entries.update? dotted f (origin = .dotted) ks inner
        some (Entries.set k (.table origin inner) es)
    | some (.tables (last :: rest)) => do
      let last ← Entries.update? dotted f false ks last
      some (Entries.set k (.tables (last :: rest)) es)
    | some _ => none

/-- The path without its last part, and that part. -/
def splitPath? (path : List String) : Option (List String × String) :=
  path.getLast?.map fun k => (path.dropLast, k)

/-- The document after a table header. -/
def Entries.define? (path : List String) (root : Entries) : Option Entries := do
  let (front, key) ← splitPath? path
  Entries.update? false (fun _ es =>
    match es.lookup key with
    | none => some (Entries.set key (.table .header []) es)
    | some (.table .implied inner) => some (Entries.set key (.table .header inner) es)
    | some _ => none) false front root

def Entries.append? (path : List String) (root : Entries) : Option Entries := do
  let (front, key) ← splitPath? path
  Entries.update? false (fun _ es =>
    match es.lookup key with
    | none => some (Entries.set key (.tables [[]]) es)
    | some (.tables back) => some (Entries.set key (.tables ([] :: back)) es)
    | some _ => none) false front root

/-- The entries of a table after an assignment to a key in it, which may be dotted. -/
def Entries.assign? (path : List String) (v : Toml) (es : Entries) : Option Entries := do
  let (front, key) ← splitPath? path
  Entries.update? true (fun isDotted es =>
    if isDotted = front.isEmpty then none
    else
      match es.lookup key with
      | none => some (Entries.set key (.value v) es)
      | some _ => none) false front es

mutual

def Node.toToml : Node → Toml
  | .value v => v
  | .table _ es => .table (entriesToToml es)
  | .tables back => .array (tablesToToml back [])

def entriesToToml : List (String × Node) → List (String × Toml)
  | [] => []
  | (k, n) :: es => (k, n.toToml) :: entriesToToml es

/-- The tables of an array, given in reverse, in front of `done`. -/
def tablesToToml : List (List (String × Node)) → List Toml → List Toml
  | [], done => done
  | t :: ts, done => tablesToToml ts (.table (entriesToToml t) :: done)

end

/-- A document under construction and the path of the table that assignments go to. -/
structure Draft where
  root : Entries
  current : List String

def Draft.add? (d : Draft) : Statement → Option Draft
  | .header path => (Entries.define? path d.root).map fun root => ⟨root, path⟩
  | .arrayHeader path => (Entries.append? path d.root).map fun root => ⟨root, path⟩
  | .assign path v =>
    (Entries.update? false (fun _ es => Entries.assign? path v es) false d.current d.root).map
      fun root => { d with root }

def ofStatements? (lines : List Statement) : Option Toml :=
  (lines.foldlM Draft.add? ⟨[], []⟩).map fun d => .table (entriesToToml d.root)

/-- The table of an inline table's assignments. -/
def ofAssignments? (pairs : List (List String × Toml)) : Option Toml :=
  (pairs.foldlM (fun es p => Entries.assign? p.1 p.2 es) ([] : Entries)).map
    fun es => .table (entriesToToml es)

end Toml

end RepoBrowser
