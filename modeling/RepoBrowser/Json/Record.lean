import RepoBrowser.Json.Value

/-!
# Strict records in JSON

A record is read from an object in which none of its own keys is repeated, or from an array that
gives its values in order; keys with no meaning are passed over.

* `Fields`, `fields?` — the values that an object or array gives to the keys of a record;
* `required?`, `optional?` — a value that has to be there, and one that may be missing or null;
* `word?`, `natural?`, `list?` — texts, whole numbers of 64 bits and lists.
-/

namespace RepoBrowser.Json.Record

abbrev Fields := String → Option Json

/-- The values that a JSON value gives to the keys of a record. -/
def fields? (keys : List String) : Json → Option Fields
  | .object ms =>
    if keys.all fun k => (ms.countP fun m => m.1 == k) ≤ 1 then some fun k => ms.lookup k else none
  | .array xs => if xs.length = keys.length then some fun k => (keys.zip xs).lookup k else none
  | _ => none

def required? {α : Type} (read : Json → Option α) (fs : Fields) (key : String) : Option α :=
  (fs key).bind read

/-- A value that may be missing or null, but not wrong. -/
def optional? {α : Type} (read : Json → Option α) (fs : Fields) (key : String) :
    Option (Option α) :=
  match fs key with
  | none | some .null => some none
  | some v => (read v).map some

def word? (v : Json) : Option String := v.text?

/-- A whole number of 64 bits. -/
def natural? (v : Json) : Option Nat := v.natural?

def list? {α : Type} (read : Json → Option α) (v : Json) : Option (List α) :=
  v.items?.bind fun xs => xs.mapM read

end RepoBrowser.Json.Record
