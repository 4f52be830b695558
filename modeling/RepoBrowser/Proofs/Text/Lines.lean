import RepoBrowser.Text.Lines

/-!
# Lines and occurrences

* `startsWith_iff` — a text starts with another one exactly if that is a prefix of it;
* `lines_append_feed` — a line feed divides the lines of a text;
* `IsLine`, `Spells`, `Spells.lines_eq` — texts of given lines, the last line end of which may be
  missing, have these lines;
* `Divided`, `divided_iff` — the lines of a text as they stand between their line ends;
* `cutLastAt?_eq_none_iff`, `cutLastAt?_of_last`, `eq_of_cutLastAt?` — a text is divided where a
  pattern occurs behind which there is no other occurrence.
-/

namespace RepoBrowser.Text

variable {s t p l : List Char} {ls : List (List Char)}

theorem startsWith_iff : startsWith s p = true ↔ p <+: s := by
  unfold startsWith
  rw [Option.isSome_iff_exists]
  constructor
  · rintro ⟨r, hr⟩
    exact ⟨r, (afterPrefix?_eq_some_iff.mp hr).symm⟩
  · rintro ⟨r, hr⟩
    exact ⟨r, afterPrefix?_eq_some_iff.mpr hr.symm⟩

/-! ### Carriage returns -/

theorem dropReturn_prefix_self (s : List Char) : dropReturn s <+: s := by
  unfold dropReturn
  split
  · exact List.dropLast_prefix s
  · exact List.prefix_rfl

theorem dropReturn_concat (s : List Char) : dropReturn (s ++ ['\r']) = s := by
  unfold dropReturn
  rw [List.getLast?_concat]
  exact List.dropLast_concat

theorem dropReturn_of_getLast? (h : s.getLast? ≠ some '\r') : dropReturn s = s := by
  unfold dropReturn
  split
  · next last => exact absurd last h
  · rfl

theorem dropReturn_of_notMem (h : '\r' ∉ s) : dropReturn s = s :=
  dropReturn_of_getLast? fun last => h (List.mem_of_getLast? last)

/-- The start of a line stays, as long as no carriage return belongs to it. -/
theorem prefix_dropReturn_iff (h : '\r' ∉ p) : p <+: dropReturn s ↔ p <+: s := by
  constructor
  · exact fun start => start.trans (dropReturn_prefix_self s)
  · rintro ⟨r, rfl⟩
    unfold dropReturn
    split
    · next last =>
      have some_behind : r ≠ [] := by
        rintro rfl
        rw [List.append_nil] at last
        exact h (List.mem_of_getLast? last)
      rw [List.dropLast_append_of_ne_nil some_behind]
      exact List.prefix_append p _
    · exact List.prefix_append p r

/-! ### Lines -/

theorem linesOfPieces_append {qs : List (List Char)} (some_behind : qs ≠ [])
    (ps : List (List Char)) :
    linesOfPieces (ps ++ qs) = ps.map dropReturn ++ linesOfPieces qs := by
  induction ps with
  | nil => rfl
  | cons p ps ih =>
    have more : ps ++ qs ≠ [] := List.append_ne_nil_of_right_ne_nil ps some_behind
    obtain ⟨q, rest, hrest⟩ := List.exists_cons_of_ne_nil more
    rw [List.cons_append, hrest, linesOfPieces, ← hrest, ih]
    rfl

/-- **A line feed divides the lines.** -/
theorem lines_append_feed (s t : List Char) :
    lines (s ++ '\n' :: t) = (pieces '\n' s).map dropReturn ++ lines t := by
  unfold lines
  rw [pieces_append_cons, linesOfPieces_append (pieces_ne_nil '\n' t)]

theorem notMem_of_mem_pieces {sep : Char} (hl : l ∈ pieces sep s) : sep ∉ l := by
  induction s generalizing l with
  | nil =>
    rw [pieces_nil, List.mem_singleton] at hl
    simp [hl]
  | cons c s ih =>
    rw [pieces_cons] at hl
    split at hl
    · rcases List.mem_cons.mp hl with rfl | hl
      · exact List.not_mem_nil
      · exact ih hl
    · next other =>
      obtain ⟨p, ps, hp⟩ := List.exists_cons_of_ne_nil (pieces_ne_nil sep s)
      rw [hp] at hl ih
      rcases List.mem_cons.mp hl with rfl | hl
      · have behind := ih List.mem_cons_self
        simp [behind, Ne.symm other]
      · exact ih (List.mem_cons_of_mem p hl)

/-- No line has a line feed. -/
theorem notMem_of_mem_lines (hl : l ∈ lines s) : '\n' ∉ l := by
  have part : ∀ ps : List (List Char), l ∈ linesOfPieces ps → ∃ p ∈ ps, l <+: p := by
    intro ps
    fun_induction linesOfPieces ps with
    | case1 => simp
    | case2 p empty => simp
    | case3 p some_left =>
      intro h
      exact ⟨p, List.mem_singleton_self p, List.mem_singleton.mp h ▸ List.prefix_rfl⟩
    | case4 p q ps ih =>
      intro h
      rcases List.mem_cons.mp h with rfl | h
      · exact ⟨p, List.mem_cons_self, dropReturn_prefix_self p⟩
      · obtain ⟨r, hr, start⟩ := ih h
        exact ⟨r, List.mem_cons_of_mem p hr, start⟩
  obtain ⟨p, hp, start⟩ := part _ hl
  exact fun feed => notMem_of_mem_pieces hp (start.subset feed)

/-- A line ended by a line feed. -/
theorem lines_cons_feed (h : '\n' ∉ l) (t : List Char) :
    lines (l ++ '\n' :: t) = dropReturn l :: lines t := by
  rw [lines_append_feed, pieces_of_notMem h]
  rfl

/-- Parts of which each is ended by a line feed do not share a line. -/
theorem lines_append_of_ended (ended : s = [] ∨ s.getLast? = some '\n') (t : List Char) :
    lines (s ++ t) = lines s ++ lines t := by
  rcases ended with rfl | last
  · rfl
  · obtain ⟨front, rfl⟩ := List.getLast?_eq_some_iff.mp last
    rw [List.append_assoc, List.singleton_append, lines_append_feed, lines_append_feed, lines_nil,
      List.append_nil]

/-- The lines of parts of which each is ended by a line feed. -/
theorem lines_flatten (ended : ∀ s ∈ ls, s = [] ∨ s.getLast? = some '\n') :
    lines ls.flatten = ls.flatMap lines := by
  induction ls with
  | nil => rfl
  | cons s ls ih =>
    rw [List.flatten_cons, lines_append_of_ended (ended s List.mem_cons_self),
      ih fun t ht => ended t (List.mem_cons_of_mem s ht), List.flatMap_cons]

/-- Lines that are ended by line feeds. -/
theorem lines_ended (h : ∀ l ∈ ls, '\n' ∉ l) :
    lines (ls.flatMap (· ++ ['\n'])) = ls.map dropReturn := by
  induction ls with
  | nil => rfl
  | cons l ls ih =>
    rw [List.flatMap_cons, List.append_assoc, List.singleton_append,
      lines_cons_feed (h l List.mem_cons_self), ih fun m hm => h m (List.mem_cons_of_mem l hm),
      List.map_cons]

/-- A text without line ends. -/
def IsLine (l : List Char) : Prop := '\n' ∉ l ∧ '\r' ∉ l

instance : DecidablePred IsLine := fun _ => inferInstanceAs (Decidable (_ ∧ _))

theorem IsLine.append (hs : IsLine s) (ht : IsLine t) : IsLine (s ++ t) :=
  ⟨fun feed => (List.mem_append.mp feed).elim hs.1 ht.1,
    fun ret => (List.mem_append.mp ret).elim hs.2 ht.2⟩

/-- Texts of given lines: each line is ended by a line feed, or each but the last, which then is
not empty. -/
inductive Spells (ls : List (List Char)) : List Char → Prop
  | ended : Spells ls (ls.flatMap (· ++ ['\n']))
  | unended (last : ls.getLast? ≠ some []) : Spells ls (joinWith ['\n'] ls)

/-- A text without line feeds is one line. -/
theorem lines_of_notMem (single : '\n' ∉ l) (some_left : l ≠ []) : lines l = [l] := by
  unfold lines
  rw [pieces_of_notMem single, linesOfPieces]
  simp [some_left]

/-- A text without line ends is one line. -/
theorem IsLine.lines_eq (line : IsLine l) (some_left : l ≠ []) : lines l = [l] :=
  lines_of_notMem line.1 some_left

theorem lines_joinWith (h : ∀ l ∈ ls, IsLine l) (last : ls.getLast? ≠ some []) :
    lines (joinWith ['\n'] ls) = ls := by
  fun_induction joinWith ['\n'] ls with
  | case1 => rfl
  | case2 l =>
    exact (h l List.mem_cons_self).lines_eq fun empty => last (by simp [empty])
  | case3 l m ls ih =>
    have line := h l List.mem_cons_self
    rw [List.append_assoc, List.singleton_append, lines_cons_feed line.1,
      dropReturn_of_notMem line.2,
      ih (fun n hn => h n (List.mem_cons_of_mem l hn)) (by simpa using last)]

/-- **Such a text has these lines.** -/
theorem Spells.lines_eq (spells : Spells ls s) (h : ∀ l ∈ ls, IsLine l) : lines s = ls := by
  cases spells with
  | ended =>
    rw [lines_ended fun l hl => (h l hl).1,
      List.map_congr_left fun l hl => dropReturn_of_notMem (h l hl).2, List.map_id']
  | unended last => exact lines_joinWith h last

/-- A text is divided into lines.  A line is ended by a line feed, to which a carriage return in
front of it belongs; the last line may go without, if it is not empty. -/
inductive Divided : List Char → List (List Char) → Prop
  | nil : Divided [] []
  | feed {l s : List Char} {ls : List (List Char)} (single : '\n' ∉ l)
      (bare : l.getLast? ≠ some '\r') (rest : Divided s ls) :
      Divided (l ++ '\n' :: s) (l :: ls)
  | returnFeed {l s : List Char} {ls : List (List Char)} (single : '\n' ∉ l)
      (rest : Divided s ls) : Divided (l ++ '\r' :: '\n' :: s) (l :: ls)
  | unended {l : List Char} (single : '\n' ∉ l) (some_left : l ≠ []) : Divided l [l]

theorem Divided.lines_eq (divided : Divided s ls) : lines s = ls := by
  induction divided with
  | nil => rfl
  | feed single bare _ ih =>
    rw [lines_cons_feed single, dropReturn_of_getLast? bare, ih]
  | @returnFeed l s ls single _ ih =>
    have feedless : '\n' ∉ l ++ ['\r'] := by simp [single]
    rw [List.append_cons, lines_cons_feed feedless, dropReturn_concat, ih]
  | unended single some_left => exact lines_of_notMem single some_left

/-- What stands between line feeds makes up divided lines. -/
theorem divided_joinWith (h : ∀ p ∈ ls, '\n' ∉ p) :
    Divided (joinWith ['\n'] ls) (linesOfPieces ls) := by
  fun_induction linesOfPieces ls with
  | case1 => exact .nil
  | case2 p empty =>
    rw [List.isEmpty_iff.mp empty]
    exact .nil
  | case3 p some_left =>
    exact .unended (h p List.mem_cons_self) (mt List.isEmpty_iff.mpr some_left)
  | case4 p q ps ih =>
    have single := h p List.mem_cons_self
    have rest := ih fun r hr => h r (List.mem_cons_of_mem p hr)
    rw [joinWith, List.append_assoc, List.singleton_append]
    by_cases last : p.getLast? = some '\r'
    · obtain ⟨front, rfl⟩ := List.getLast?_eq_some_iff.mp last
      rw [dropReturn_concat, List.append_assoc, List.singleton_append]
      exact .returnFeed (fun feed => single (List.mem_append_left _ feed)) rest
    · rw [dropReturn_of_getLast? last]
      exact .feed single last rest

/-- **A text is divided into its lines**, and in no other way. -/
theorem divided_iff : Divided s ls ↔ lines s = ls := by
  constructor
  · exact Divided.lines_eq
  · rintro rfl
    have divided := divided_joinWith fun p (hp : p ∈ pieces '\n' s) => notMem_of_mem_pieces hp
    rwa [joinWith_pieces] at divided

/-! ### The last occurrence of a pattern -/

theorem cutLastAt?_eq_none_iff : cutLastAt? p s = none ↔ ¬ p <:+: s := by
  induction s with
  | nil => cases p <;> simp [cutLastAt?]
  | cons c s ih =>
    rw [cutLastAt?, List.infix_cons_iff, not_or, ← ih]
    cases cutLastAt? p s with
    | some r => simp
    | none =>
      have start : (afterPrefix? p (c :: s)).isSome = true ↔ p <+: c :: s := startsWith_iff
      simp [← start]

/-- Where the last occurrence is, the text is divided. -/
theorem cutLastAt?_of_last {a b : List Char} (last : ¬ p <:+: (p ++ b).tail) :
    cutLastAt? p (a ++ (p ++ b)) = some (a, b) := by
  induction a with
  | nil =>
    have some_pattern : p ≠ [] := by
      rintro rfl
      exact last List.nil_infix
    obtain ⟨c, q, rfl⟩ := List.exists_cons_of_ne_nil some_pattern
    have behind : cutLastAt? (c :: q) (q ++ b) = none := cutLastAt?_eq_none_iff.mpr last
    have whole : afterPrefix? (c :: q) (c :: (q ++ b)) = some b := afterPrefix?_eq_some_iff.mpr rfl
    rw [List.nil_append, List.cons_append, cutLastAt?, behind, whole]
    rfl
  | cons c a ih => rw [List.cons_append, cutLastAt?, ih]

/-- What is divided is put together by the pattern, and behind it there is no other one. -/
theorem eq_of_cutLastAt? {a b : List Char} (some_pattern : p ≠ [])
    (h : cutLastAt? p s = some (a, b)) : s = a ++ (p ++ b) ∧ ¬ p <:+: (p ++ b).tail := by
  induction s generalizing a with
  | nil => simp [cutLastAt?, some_pattern] at h
  | cons c s ih =>
    rw [cutLastAt?] at h
    cases behind : cutLastAt? p s with
    | some r =>
      rw [behind] at h
      cases h
      obtain ⟨rfl, last⟩ := ih behind
      exact ⟨rfl, last⟩
    | none =>
      rw [behind] at h
      obtain ⟨r, start, same⟩ := Option.map_eq_some_iff.mp h
      cases same
      have whole := afterPrefix?_eq_some_iff.mp start
      rw [← whole]
      exact ⟨rfl, cutLastAt?_eq_none_iff.mp behind⟩

end RepoBrowser.Text
