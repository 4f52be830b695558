import RepoBrowser.Forge.Diff
import RepoBrowser.Proofs.Text.Lines

/-!
# Every text falls into the sections of files

A diff is read in one pass, with a section that is open and is closed by the next header line or by
the end.  That is the same as cutting the lines at the header lines first: some lines in front of
the first one, and a part for each header line with what stands behind it up to the next one.

* `newPath`, `Names`, `headerPath?_eq_some_iff` — the path that a header line names;
* `Part`, `Cut`, `cut` — lines cut at the header lines; all lines can be cut;
* `Cut.sections_eq`, `Cut.patches_eq` — one pass finds the parts and the hunks of each;
* `patches_partition` — the patch of a path is made of the hunks of the last part that names it.
-/

namespace RepoBrowser.Diff

open Text

variable {line : List Char} {ls : List (List Char)}

/-! ### Header lines -/

/-- A line that begins the section of a file. -/
def IsHeader (line : List Char) : Prop := headerMark <+: line

instance : DecidablePred IsHeader := fun _ => inferInstanceAs (Decidable (_ <+: _))

/-- A header line names the path behind its last ` b/`, or all that stands behind its mark if there
is none. -/
def Names (line path : List Char) : Prop :=
  ¬ newPathMark <:+: path ∧
    ∃ rest, line = headerMark ++ rest ∧ (rest = path ∨ newPathMark ++ path <:+ rest)

/-- No two marks of a new path overlap. -/
theorem newPathMark_infix_tail_iff {path : List Char} :
    newPathMark <:+: (newPathMark ++ path).tail ↔ newPathMark <:+: path := by
  show [' ', 'b', '/'] <:+: 'b' :: '/' :: path ↔ [' ', 'b', '/'] <:+: path
  simp [List.infix_cons_iff]

/-- What stands behind the last mark of a new path, or else all of a text. -/
def newPath (rest : List Char) : List Char :=
  match cutLastAt? newPathMark rest with
  | some (_, path) => path
  | none => rest

theorem newPath_of_unmarked {rest : List Char} (unmarked : ¬ newPathMark <:+: rest) :
    newPath rest = rest := by
  unfold newPath
  rw [cutLastAt?_eq_none_iff.mpr unmarked]

theorem newPath_of_last {path : List Char} (unmarked : ¬ newPathMark <:+: path)
    (front : List Char) : newPath (front ++ (newPathMark ++ path)) = path := by
  unfold newPath
  rw [cutLastAt?_of_last (mt newPathMark_infix_tail_iff.mp unmarked)]

theorem newPath_eq_iff {rest path : List Char} :
    newPath rest = path ↔
      ¬ newPathMark <:+: path ∧ (rest = path ∨ newPathMark ++ path <:+ rest) := by
  constructor
  · rintro rfl
    unfold newPath
    cases divided : cutLastAt? newPathMark rest with
    | none => exact ⟨cutLastAt?_eq_none_iff.mp divided, .inl rfl⟩
    | some r =>
      obtain ⟨same, last⟩ := eq_of_cutLastAt? (List.cons_ne_nil ' ' ['b', '/']) divided
      exact ⟨mt newPathMark_infix_tail_iff.mpr last, .inr ⟨r.1, same.symm⟩⟩
  · rintro ⟨unmarked, rfl | ⟨front, rfl⟩⟩
    · exact newPath_of_unmarked unmarked
    · exact newPath_of_last unmarked front

/-- A mark in front adds nothing to what stands behind the last one. -/
theorem newPath_append (front path : List Char) :
    newPath (front ++ (newPathMark ++ path)) = newPath path := by
  obtain ⟨unmarked, same | ⟨before, same⟩⟩ := newPath_eq_iff.mp (Eq.refl (newPath path))
  · rw [← same] at unmarked
    rw [newPath_of_last unmarked, newPath_of_unmarked unmarked]
  · have longer : front ++ (newPathMark ++ path)
        = front ++ newPathMark ++ before ++ (newPathMark ++ newPath path) := by
      simp only [List.append_assoc, same]
    rw [longer, newPath_of_last unmarked]

theorem headerPath?_eq_some_iff {path : List Char} :
    headerPath? line = some path ↔ Names line path := by
  have found : headerPath? line = (afterPrefix? headerMark line).map newPath := rfl
  unfold Names
  rw [found, Option.map_eq_some_iff]
  simp only [afterPrefix?_eq_some_iff, newPath_eq_iff]
  constructor
  · rintro ⟨rest, whole, unmarked, behind⟩
    exact ⟨unmarked, rest, whole, behind⟩
  · rintro ⟨unmarked, rest, whole, behind⟩
    exact ⟨rest, whole, unmarked, behind⟩

theorem headerPath?_eq_none_iff : headerPath? line = none ↔ ¬ IsHeader line := by
  unfold headerPath? IsHeader
  rw [Option.map_eq_none_iff, ← Option.not_isSome_iff_eq_none]
  exact not_congr startsWith_iff

theorem exists_headerPath? (header : IsHeader line) : ∃ path, headerPath? line = some path :=
  Option.ne_none_iff_exists'.mp (mt headerPath?_eq_none_iff.mp (not_not_intro header))

/-! ### Parts -/

/-- A header line with the lines behind it. -/
structure Part where
  header : List Char
  body : List (List Char)
  deriving DecidableEq, Repr

namespace Part

/-- All lines of a part. -/
def lines (p : Part) : List (List Char) := p.header :: p.body

/-- The lines from the first hunk on. -/
def hunks (p : Part) : List (List Char) := p.body.dropWhile fun l => ¬ hunkMark <+: l

/-- The path that the header line names. -/
def path (p : Part) : List Char := (headerPath? p.header).getD []

/-- The part as a section. -/
def toSection (p : Part) : Section := ⟨p.path, p.hunks.reverse⟩

theorem toSection_patch (p : Part) : p.toSection.patch = joinWith ['\n'] p.hunks := by
  simp [toSection, Section.patch]

end Part

/-- Lines cut at the header lines. -/
structure Cut (ls : List (List Char)) where
  front : List (List Char)
  parts : List Part
  whole : ls = front ++ parts.flatMap Part.lines
  front_headerless : ∀ l ∈ front, ¬ IsHeader l
  headers : ∀ p ∈ parts, IsHeader p.header
  bodies_headerless : ∀ p ∈ parts, ∀ l ∈ p.body, ¬ IsHeader l

theorem headerless_nil : ∀ l ∈ ([] : List (List Char)), ¬ IsHeader l :=
  fun _ hl => absurd hl List.not_mem_nil

/-- All lines can be cut. -/
def cut : (ls : List (List Char)) → Cut ls
  | [] => ⟨[], [], rfl, headerless_nil, by simp, by simp⟩
  | l :: ls =>
    let c := cut ls
    if h : IsHeader l then
      { front := []
        parts := ⟨l, c.front⟩ :: c.parts
        whole := by simp [Part.lines, ← c.whole]
        front_headerless := headerless_nil
        headers := List.forall_mem_cons.mpr ⟨h, c.headers⟩
        bodies_headerless := List.forall_mem_cons.mpr ⟨c.front_headerless, c.bodies_headerless⟩ }
    else
      { front := l :: c.front
        parts := c.parts
        whole := by simp [← c.whole]
        front_headerless := List.forall_mem_cons.mpr ⟨h, c.front_headerless⟩
        headers := c.headers
        bodies_headerless := c.bodies_headerless }

/-! ### One pass over the lines -/

/-- Once a hunk has begun, every line counts. -/
theorem foldl_add_of_begun {back : List (List Char)} (begun : back ≠ [])
    (path : List Char) (ls : List (List Char)) :
    ls.foldl Section.add ⟨path, back⟩ = ⟨path, ls.reverse ++ back⟩ := by
  induction ls generalizing back with
  | nil => rfl
  | cons l ls ih =>
    have taken : Section.add ⟨path, back⟩ l = ⟨path, l :: back⟩ := by simp [Section.add, begun]
    rw [List.foldl_cons, taken, ih (List.cons_ne_nil l back)]
    simp

theorem foldl_add (path : List Char) (ls : List (List Char)) :
    ls.foldl Section.add ⟨path, []⟩
      = ⟨path, (ls.dropWhile fun l => ¬ hunkMark <+: l).reverse⟩ := by
  induction ls with
  | nil => rfl
  | cons l ls ih =>
    by_cases hunk : hunkMark <+: l
    · have taken : Section.add ⟨path, []⟩ l = ⟨path, [l]⟩ := by
        simp [Section.add, startsWith_iff.mpr hunk]
      rw [List.foldl_cons, taken, foldl_add_of_begun (List.cons_ne_nil l [])]
      simp [hunk]
    · have passed : Section.add ⟨path, []⟩ l = ⟨path, []⟩ := by
        simp [Section.add, mt startsWith_iff.mp hunk]
      rw [List.foldl_cons, passed, ih]
      simp [hunk]

/-- A header line closes the section that is open and opens its own. -/
theorem sectionsFrom_header {path : List Char} (header : headerPath? line = some path)
    (current : Option Section) (ls : List (List Char)) :
    sectionsFrom current (line :: ls)
      = current.toList ++ sectionsFrom (some ⟨path, []⟩) ls := by
  cases current <;> simp [sectionsFrom, header]

theorem sectionsFrom_none_append (headerless : ∀ l ∈ ls, ¬ IsHeader l) (more : List (List Char)) :
    sectionsFrom none (ls ++ more) = sectionsFrom none more := by
  induction ls with
  | nil => rfl
  | cons l ls ih =>
    have unnamed := headerPath?_eq_none_iff.mpr (headerless l List.mem_cons_self)
    have passed : sectionsFrom none (l :: (ls ++ more)) = sectionsFrom none (ls ++ more) := by
      simp [sectionsFrom, unnamed]
    rw [List.cons_append, passed, ih fun m hm => headerless m (List.mem_cons_of_mem l hm)]

theorem sectionsFrom_some_append (headerless : ∀ l ∈ ls, ¬ IsHeader l) (s : Section)
    (more : List (List Char)) :
    sectionsFrom (some s) (ls ++ more) = sectionsFrom (some (ls.foldl Section.add s)) more := by
  induction ls generalizing s with
  | nil => rfl
  | cons l ls ih =>
    have unnamed := headerPath?_eq_none_iff.mpr (headerless l List.mem_cons_self)
    have taken : sectionsFrom (some s) (l :: (ls ++ more))
        = sectionsFrom (some (s.add l)) (ls ++ more) := by
      simp [sectionsFrom, unnamed]
    rw [List.cons_append, taken, ih (fun m hm => headerless m (List.mem_cons_of_mem l hm)),
      List.foldl_cons]

/-- **One pass finds the parts**, behind the section that is open. -/
theorem sectionsFrom_parts {parts : List Part} (headers : ∀ p ∈ parts, IsHeader p.header)
    (headerless : ∀ p ∈ parts, ∀ l ∈ p.body, ¬ IsHeader l) (current : Option Section) :
    sectionsFrom current (parts.flatMap Part.lines)
      = current.toList ++ parts.map Part.toSection := by
  induction parts generalizing current with
  | nil => cases current <;> rfl
  | cons p parts ih =>
    obtain ⟨path, named⟩ := exists_headerPath? (headers p List.mem_cons_self)
    have taken : p.body.foldl Section.add ⟨path, []⟩ = p.toSection := by
      rw [foldl_add, Part.toSection, Part.path, named]
      rfl
    rw [List.flatMap_cons, Part.lines, List.cons_append, sectionsFrom_header named,
      sectionsFrom_some_append (headerless p List.mem_cons_self), taken,
      ih (fun q hq => headers q (List.mem_cons_of_mem p hq))
        fun q hq => headerless q (List.mem_cons_of_mem p hq)]
    rfl

/-- **One pass finds the parts of a cut.** -/
theorem Cut.sections_eq (c : Cut ls) : sectionsFrom none ls = c.parts.map Part.toSection := by
  obtain ⟨front, parts, rfl, front_headerless, headers, bodies_headerless⟩ := c
  rw [sectionsFrom_none_append front_headerless, sectionsFrom_parts headers bodies_headerless]
  rfl

/-- The paths and patches of a diff are those of its parts. -/
theorem Cut.patches_eq {diff : List Char} (c : Cut (Text.lines diff)) :
    patches diff = c.parts.map fun p => (p.path, joinWith ['\n'] p.hunks) := by
  unfold patches sections
  rw [c.sections_eq, List.map_map]
  exact List.map_congr_left fun p _ => Prod.ext rfl p.toSection_patch

/-- Without a header line there are no patches. -/
theorem patches_of_headerless {diff : List Char} (h : ∀ l ∈ Text.lines diff, ¬ IsHeader l) :
    patches diff = [] := by
  have passed := sectionsFrom_none_append h []
  rw [List.append_nil] at passed
  unfold patches sections
  rw [passed]
  rfl

/-! ### The patch of a path -/

/-- The patch of a path is the last one that there is. -/
theorem patchOf?_eq_some_iff {ps : List (List Char × List Char)} {path patch : List Char} :
    patchOf? path ps = some patch ↔
      ∃ before after, ps = before ++ (path, patch) :: after ∧ ∀ p ∈ after, p.1 ≠ path := by
  unfold patchOf?
  rw [List.lookup_eq_some_iff]
  constructor
  · rintro ⟨after, before, same, others⟩
    refine ⟨before.reverse, after.reverse, ?_, fun p hp => ?_⟩
    · rw [← List.reverse_reverse ps, same]
      simp
    · exact (bne_iff_ne.mp (others p (List.mem_reverse.mp hp))).symm
  · rintro ⟨before, after, rfl, others⟩
    refine ⟨after.reverse, before.reverse, by simp, fun p hp => ?_⟩
    exact bne_iff_ne.mpr (others p (List.mem_reverse.mp hp)).symm

theorem Part.path_eq_iff {p : Part} {path : List Char} (header : IsHeader p.header) :
    p.path = path ↔ Names p.header path := by
  obtain ⟨named, found⟩ := exists_headerPath? header
  rw [← headerPath?_eq_some_iff, Part.path, found, Option.getD_some, Option.some_inj]

/-- **Every text falls into the sections of files.**  Its lines can be cut at the header lines, and
whichever way they are cut, the paths that have a patch are those that some header line names.  The
patch of a path is made of the lines of the last part that names it, from the first hunk to the end
of the part. -/
theorem patches_partition (diff : List Char) :
    Nonempty (Cut (lines diff)) ∧ ∀ c : Cut (lines diff), ∀ path patch,
      patchOf? path (patches diff) = some patch ↔
        ∃ before part after, c.parts = before ++ part :: after ∧ Names part.header path ∧
          (∀ p ∈ after, ¬ Names p.header path) ∧ patch = joinWith ['\n'] part.hunks := by
  refine ⟨⟨cut (lines diff)⟩, fun c path patch => ?_⟩
  rw [c.patches_eq, patchOf?_eq_some_iff]
  constructor
  · rintro ⟨front, back, same, others⟩
    obtain ⟨before, behind, whole, rfl, ends⟩ := List.map_eq_append_iff.mp same
    obtain ⟨part, after, rfl, pair, rfl⟩ := List.map_eq_cons_iff.mp ends
    obtain ⟨named, rfl⟩ := Prod.mk.inj pair
    have header : ∀ p ∈ part :: after, IsHeader p.header := fun p hp =>
      c.headers p (whole ▸ List.mem_append_right before hp)
    refine ⟨before, part, after, whole, ?_, fun p hp => ?_, rfl⟩
    · exact (Part.path_eq_iff (header part List.mem_cons_self)).mp named
    · have other := others _ (List.mem_map_of_mem hp)
      exact mt (Part.path_eq_iff (header p (List.mem_cons_of_mem part hp))).mpr other
  · rintro ⟨before, part, after, whole, named, others, rfl⟩
    have header : ∀ p ∈ part :: after, IsHeader p.header := fun p hp =>
      c.headers p (whole ▸ List.mem_append_right before hp)
    let pair (p : Part) := (p.path, joinWith ['\n'] p.hunks)
    refine ⟨before.map pair, after.map pair, ?_, fun q hq => ?_⟩
    · rw [whole, List.map_append, List.map_cons,
        (Part.path_eq_iff (header part List.mem_cons_self)).mpr named]
    · obtain ⟨p, hp, rfl⟩ := List.mem_map.mp hq
      exact mt (Part.path_eq_iff (header p (List.mem_cons_of_mem part hp))).mp (others p hp)

/-- A part for a path. -/
def olderPart : Part := ⟨"diff --git a/lib b/lib".toList, ["@@ 1".toList, "-old".toList]⟩

/-- Another part for the same path. -/
def newerPart : Part :=
  ⟨"diff --git a/x b/lib".toList, ["index".toList, "@@ 2".toList, "+new".toList]⟩

/-- A part that is a header line only. -/
def emptyPart : Part := ⟨"diff --git end".toList, []⟩

/-- A diff of the three parts behind a line of its own, without a line feed at its end. -/
def sampleDiff : List Char :=
  joinWith ['\n'] ("note".toList :: [olderPart, newerPart, emptyPart].flatMap Part.lines)

/-- Of two parts for one path the later one counts, and without hunks a patch is empty. -/
theorem patches_partition_sample :
    patchOf? "lib".toList (patches sampleDiff) = some "@@ 2\n+new".toList ∧
    patchOf? "end".toList (patches sampleDiff) = some [] := by
  obtain ⟨-, found⟩ := patches_partition sampleDiff
  have unnamed : ¬ Names emptyPart.header "lib".toList := mt headerPath?_eq_some_iff.mpr (by decide)
  constructor
  · refine (found (cut _) _ _).mpr ⟨[olderPart], newerPart, [emptyPart], by decide,
      headerPath?_eq_some_iff.mp (by decide), ?_, by decide⟩
    intro p hp
    rw [List.mem_singleton.mp hp]
    exact unnamed
  · refine (found (cut _) _ _).mpr ⟨[olderPart, newerPart], emptyPart, [], by decide,
      headerPath?_eq_some_iff.mp (by decide), ?_, by decide⟩
    intro p hp
    exact absurd hp List.not_mem_nil

end RepoBrowser.Diff
