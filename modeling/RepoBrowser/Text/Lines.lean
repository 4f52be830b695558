/-!
# Cutting text: pieces, lines, prefixes and suffixes

* `pieces sep s` — the parts of `s` between the separators, at least one;
* `lines s` — the lines of `s`: a line ends at a line feed, or at a carriage return and a line
  feed, and what follows the last line end is a line only when it is not empty;
* `cut?`, `cutLast?` — a text divided at the first or the last occurrence of a character;
* `cutLastAt?` — a text divided at the last occurrence of another text;
* `afterPrefix?`, `beforeSuffix?` — what a prefix or a suffix leaves;
* `joinWith` — parts put together with a separator between them.

`joinWith_pieces` says that cutting loses nothing.
-/

namespace RepoBrowser.Text

/-- Puts a character in front of the first part. -/
def consHead (c : Char) : List (List Char) → List (List Char)
  | [] => [[c]]
  | p :: ps => (c :: p) :: ps

/-- The parts of a text between the separators. -/
def pieces (sep : Char) (s : List Char) : List (List Char) :=
  s.foldr (fun c ps => if c = sep then [] :: ps else consHead c ps) [[]]

@[simp] theorem pieces_nil (sep : Char) : pieces sep [] = [[]] := rfl

theorem pieces_cons (sep c : Char) (s : List Char) :
    pieces sep (c :: s) = if c = sep then [] :: pieces sep s else consHead c (pieces sep s) := rfl

theorem pieces_ne_nil (sep : Char) (s : List Char) : pieces sep s ≠ [] := by
  cases s with
  | nil => simp
  | cons c s =>
    rw [pieces_cons]
    split
    · simp
    · cases pieces sep s <;> simp [consHead]

/-- The parts put together with `sep` between them. -/
def joinWith (sep : List Char) : List (List Char) → List Char
  | [] => []
  | [p] => p
  | p :: q :: ps => p ++ sep ++ joinWith sep (q :: ps)

theorem joinWith_consHead (sep : List Char) (c : Char) {ps : List (List Char)} (h : ps ≠ []) :
    joinWith sep (consHead c ps) = c :: joinWith sep ps := by
  match ps with
  | [] => exact absurd rfl h
  | [p] => rfl
  | p :: q :: ps => rfl

theorem joinWith_nil_cons (sep : List Char) {ps : List (List Char)} (h : ps ≠ []) :
    joinWith sep ([] :: ps) = sep ++ joinWith sep ps := by
  match ps with
  | [] => exact absurd rfl h
  | q :: ps => rfl

theorem pieces_append_cons (sep : Char) (s t : List Char) :
    pieces sep (s ++ sep :: t) = pieces sep s ++ pieces sep t := by
  induction s with
  | nil => simp [pieces_cons]
  | cons c s ih =>
    obtain ⟨p, ps, hp⟩ := List.exists_cons_of_ne_nil (pieces_ne_nil sep s)
    rw [List.cons_append, pieces_cons, pieces_cons, ih, hp]
    split <;> rfl

theorem pieces_of_notMem {sep : Char} {s : List Char} (h : sep ∉ s) : pieces sep s = [s] := by
  induction s with
  | nil => rfl
  | cons c s ih =>
    have hc : c ≠ sep := fun e => h (e ▸ List.mem_cons_self)
    rw [pieces_cons, if_neg hc, ih fun m => h (List.mem_cons_of_mem c m)]
    rfl

/-- Cutting at a separator loses nothing. -/
theorem joinWith_pieces (sep : Char) (s : List Char) : joinWith [sep] (pieces sep s) = s := by
  induction s with
  | nil => rfl
  | cons c s ih =>
    rw [pieces_cons]
    split
    · next h => rw [joinWith_nil_cons _ (pieces_ne_nil sep s), ih, h]; rfl
    · next h => rw [joinWith_consHead _ _ (pieces_ne_nil sep s), ih]

/-! ### Lines -/

/-- A line without the carriage return that belonged to its line feed. -/
def dropReturn (s : List Char) : List Char :=
  match s.getLast? with
  | some '\r' => s.dropLast
  | _ => s

/-- The lines that the parts between line feeds stand for: each part but the last was ended by a
line feed, and the last is a line only when it is not empty. -/
def linesOfPieces : List (List Char) → List (List Char)
  | [] => []
  | [p] => if p.isEmpty then [] else [p]
  | p :: q :: ps => dropReturn p :: linesOfPieces (q :: ps)

/-- The lines of a text, without their line ends. -/
def lines (s : List Char) : List (List Char) := linesOfPieces (pieces '\n' s)

@[simp] theorem lines_nil : lines [] = [] := rfl

/-- The first line of a text, empty when there is none. -/
def firstLine (s : List Char) : List Char := (lines s).headD []

/-! ### Cutting in two -/

/-- A text divided at the first occurrence of a character, which is dropped. -/
def cut? (c : Char) : List Char → Option (List Char × List Char)
  | [] => none
  | d :: s => if d = c then some ([], s) else (cut? c s).map fun r => (d :: r.1, r.2)

/-- A text divided at the last occurrence of a character, which is dropped. -/
def cutLast? (c : Char) : List Char → Option (List Char × List Char)
  | [] => none
  | d :: s =>
    match cutLast? c s with
    | some r => some (d :: r.1, r.2)
    | none => if d = c then some ([], s) else none

theorem eq_of_cut? {c : Char} {s a b : List Char} (h : cut? c s = some (a, b)) :
    s = a ++ c :: b ∧ c ∉ a := by
  induction s generalizing a with
  | nil => simp [cut?] at h
  | cons d s ih =>
    rw [cut?] at h
    split at h
    · next hd => cases h; simp [hd]
    · next hd =>
      obtain ⟨⟨x, y⟩, hxy, he⟩ := Option.map_eq_some_iff.1 h
      cases he
      obtain ⟨rfl, hx⟩ := ih hxy
      exact ⟨rfl, by simpa [Ne.symm hd] using hx⟩

def afterPrefix? : List Char → List Char → Option (List Char)
  | [], s => some s
  | _ :: _, [] => none
  | p :: ps, c :: s => if p = c then afterPrefix? ps s else none

theorem afterPrefix?_eq_some_iff {p s r : List Char} :
    afterPrefix? p s = some r ↔ s = p ++ r := by
  induction p generalizing s with
  | nil => simp [afterPrefix?, eq_comm]
  | cons c p ih =>
    cases s with
    | nil => simp [afterPrefix?]
    | cons d s =>
      rw [afterPrefix?]
      split
      · next h => simp [h, ih]
      · next h => simpa using fun h' => absurd h'.symm h

def startsWith (s p : List Char) : Bool := (afterPrefix? p s).isSome

def beforeSuffix? (p s : List Char) : Option (List Char) :=
  (afterPrefix? p.reverse s.reverse).map List.reverse

theorem beforeSuffix?_eq_some_iff {p s r : List Char} :
    beforeSuffix? p s = some r ↔ s = r ++ p := by
  simp only [beforeSuffix?, Option.map_eq_some_iff, afterPrefix?_eq_some_iff]
  constructor
  · rintro ⟨t, h, rfl⟩
    have := congrArg List.reverse h
    simpa using this
  · rintro rfl
    exact ⟨r.reverse, by simp, by simp⟩

/-- A text divided at the last occurrence of another, which is dropped. -/
def cutLastAt? (p : List Char) : List Char → Option (List Char × List Char)
  | [] => if p.isEmpty then some ([], []) else none
  | c :: s =>
    match cutLastAt? p s with
    | some r => some (c :: r.1, r.2)
    | none => (afterPrefix? p (c :: s)).map fun r => ([], r)

/-- A text divided at the first occurrence of another, which is dropped. -/
def cutAt? (p : List Char) : List Char → Option (List Char × List Char)
  | [] => if p.isEmpty then some ([], []) else none
  | c :: s =>
    match afterPrefix? p (c :: s) with
    | some r => some ([], r)
    | none => (cutAt? p s).map fun r => (c :: r.1, r.2)

/-- The text without any of the characters `c` it ends with. -/
def dropTrailing (c : Char) (s : List Char) : List Char :=
  (s.reverse.dropWhile (· == c)).reverse

end RepoBrowser.Text
