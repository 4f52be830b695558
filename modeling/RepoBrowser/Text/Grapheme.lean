import RepoBrowser.Text.Grapheme.Table

/-!
# Grapheme clusters

A cluster is what a reader takes for one character: a letter with its marks, a Hangul syllable, an
emoji sequence, a flag.  This file provides:

* `Class`, `classOf` — the classes that the boundary rules of UAX #29 speak of;
* `Context` — what the rules remember of the characters since the cluster began;
* `joins` — whether a character belongs to the cluster before it;
* `clusters` — the clusters of a text, in order.

`clusters_flatten` says that the clusters make up the text, `ne_nil_of_mem_clusters` that none of
them is empty.
-/

namespace RepoBrowser.Text.Grapheme

inductive Class where
  | other | carriageReturn | lineFeed | control | extend | joiner | regional | prepend | spacing
  | leading | vowel | trailing | syllable | closedSyllable | pictograph
  deriving DecidableEq, Repr

def classOfCode (n : Nat) : Class :=
  if 0xAC00 ≤ n && n ≤ 0xD7A3 then
    if (n - 0xAC00) % 28 == 0 then .syllable else .closedSyllable
  else if member leadingConsonants n then .leading
  else if member vowels n then .vowel
  else if member trailingConsonants n then .trailing
  else if n == 0x200D then .joiner
  else if 0x1F1E6 ≤ n && n ≤ 0x1F1FF then .regional
  else if member extenders n then .extend
  else if member controls n then .control
  else if member spacingMarks n then .spacing
  else if member prepended n then .prepend
  else if member pictographs n then .pictograph
  else .other

def classOf (c : Char) : Class :=
  let n := c.toNat
  if 0x20 ≤ n && n < 0x7F then .other
  else if n == 0x0A then .lineFeed
  else if n == 0x0D then .carriageReturn
  else if n < 0xA0 then .control
  else classOfCode n

/-- How far an emoji sequence has come: nowhere, at a pictograph with its marks, or at a joiner
behind one. -/
inductive EmojiPart where
  | none | pictograph | joiner
  deriving DecidableEq, Repr

/-- How far an Indic conjunct has come: nowhere, at a consonant with its marks, or past a virama. -/
inductive ConjunctPart where
  | none | consonant | virama
  deriving DecidableEq, Repr

/-- What the rules remember of a cluster: the class of its last character, how far an emoji
sequence and a conjunct have come, and whether its regional indicators are odd in number. -/
structure Context where
  last : Class
  emoji : EmojiPart
  conjunct : ConjunctPart
  oddRegional : Bool

/-- Whether a character is a consonant of a script with conjuncts. -/
def isConsonant (c : Char) : Bool := 0x900 ≤ c.toNat && member consonants c.toNat

/-- Whether a character can stand inside a conjunct.  The non-joiner U+200C keeps consonants
apart. -/
def isConjunctMark (c : Char) : Bool :=
  (classOf c = .extend && c ≠ '\u200C') || classOf c = .joiner

/-- The context at the first character of a cluster. -/
def Context.first (c : Char) : Context where
  last := classOf c
  emoji := if classOf c = .pictograph then .pictograph else .none
  conjunct := if isConsonant c then .consonant else .none
  oddRegional := classOf c = .regional

/-- The context after one more character of the same cluster. -/
def Context.next (x : Context) (c : Char) : Context where
  last := classOf c
  emoji :=
    match classOf c, x.emoji with
    | .pictograph, _ => .pictograph
    | .extend, .pictograph => .pictograph
    | .joiner, .pictograph => .joiner
    | _, _ => .none
  conjunct :=
    if isConsonant c then .consonant
    else if x.conjunct = .none then .none
    else if member viramas c.toNat then .virama
    else if isConjunctMark c then x.conjunct
    else .none
  oddRegional := classOf c = .regional && !x.oddRegional

def joins (x : Context) (c : Char) : Bool :=
  match x.last, classOf c with
  | .carriageReturn, .lineFeed => true
  | .carriageReturn, _ | .lineFeed, _ | .control, _ => false
  | _, .carriageReturn | _, .lineFeed | _, .control => false
  | _, .extend | _, .joiner | _, .spacing => true
  | .prepend, _ => true
  | .leading, .leading | .leading, .vowel | .leading, .syllable | .leading, .closedSyllable => true
  | .syllable, .vowel | .syllable, .trailing | .vowel, .vowel | .vowel, .trailing => true
  | .closedSyllable, .trailing | .trailing, .trailing => true
  | .joiner, .pictograph => x.emoji = .joiner
  | .regional, .regional => x.oddRegional
  | _, _ => x.conjunct = .virama && isConsonant c

/-- The clusters of a text behind an open cluster, whose characters are given in reverse. -/
def clustersFrom (x : Context) (open_ : List Char) : List Char → List (List Char)
  | [] => [open_.reverse]
  | c :: s =>
    if joins x c then clustersFrom (x.next c) (c :: open_) s
    else open_.reverse :: clustersFrom (.first c) [c] s

def clusters : List Char → List (List Char)
  | [] => []
  | c :: s => clustersFrom (.first c) [c] s

theorem clustersFrom_flatten (x : Context) (o s : List Char) :
    (clustersFrom x o s).flatten = o.reverse ++ s := by
  induction s generalizing x o with
  | nil => simp [clustersFrom]
  | cons c s ih =>
    rw [clustersFrom]
    split
    · rw [ih]; simp
    · rw [List.flatten_cons, ih]; simp

/-- The clusters make up the text. -/
theorem clusters_flatten (s : List Char) : (clusters s).flatten = s := by
  cases s with
  | nil => rfl
  | cons c s => simp [clusters, clustersFrom_flatten]

theorem ne_nil_of_mem_clustersFrom {x : Context} {o s g : List Char} (ho : o ≠ [])
    (h : g ∈ clustersFrom x o s) : g ≠ [] := by
  induction s generalizing x o with
  | nil => simp [clustersFrom] at h; simp [h, ho]
  | cons c s ih =>
    rw [clustersFrom] at h
    split at h
    · exact ih (List.cons_ne_nil c o) h
    · rcases List.mem_cons.1 h with rfl | h
      · simpa using ho
      · exact ih (List.cons_ne_nil c []) h

/-- No cluster is empty. -/
theorem ne_nil_of_mem_clusters {s g : List Char} (h : g ∈ clusters s) : g ≠ [] := by
  cases s with
  | nil => simp [clusters] at h
  | cons c s => exact ne_nil_of_mem_clustersFrom (List.cons_ne_nil c []) h

end RepoBrowser.Text.Grapheme
