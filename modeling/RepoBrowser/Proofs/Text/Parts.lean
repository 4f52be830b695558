import RepoBrowser.Proofs.Text.Lines
import RepoBrowser.Text.Blank

/-!
# Parts of a text

* `pieces_joinWith` — parts that are put together are found again;
* `cut?_append`, `cutLast?_append`, `cutAt?_append` — where a text is divided;
* `cutLast?_eq_none_iff`, `cutAt?_eq_none_iff` — when it is not;
* `cut?_append_of_notMem`, `cutAt?_append_cons` — what stands in front of where it is divided;
* `append_cons_inj` — a text divided at a last occurrence;
* `dropTrailing_append_replicate` — characters of one kind at the end of a text;
* `prefix_of_append_cons`, `suffix_of_append_cons` — a start or an end of a text that does not reach
  beyond a separator;
* `trimStart_eq_self_iff`, `trimEnd_eq_self_iff`, `trim_append_cons` — blanks at the ends.
-/

namespace RepoBrowser.Text

variable {s a b p : List Char} {c : Char} {ps : List (List Char)}

/-! ### Parts put together -/

/-- **Parts without the separator are found again** when they were put together with it. -/
theorem pieces_joinWith (h : ∀ p ∈ ps, c ∉ p) (some_part : ps ≠ []) :
    pieces c (joinWith [c] ps) = ps := by
  fun_induction joinWith [c] ps with
  | case1 => exact absurd rfl some_part
  | case2 p => exact pieces_of_notMem (h p List.mem_cons_self)
  | case3 p q ps ih =>
    rw [List.append_assoc, List.singleton_append, pieces_append_cons,
      pieces_of_notMem (h p List.mem_cons_self),
      ih (fun r hr => h r (List.mem_cons_of_mem p hr)) (List.cons_ne_nil q ps),
      List.singleton_append]

theorem mem_joinWith {sep : List Char} (hc : c ∈ joinWith sep ps) :
    c ∈ sep ∨ ∃ p ∈ ps, c ∈ p := by
  fun_induction joinWith sep ps with
  | case1 => exact absurd hc List.not_mem_nil
  | case2 p => exact .inr ⟨p, List.mem_cons_self, hc⟩
  | case3 p q ps ih =>
    rcases List.mem_append.mp hc with front | behind
    · rcases List.mem_append.mp front with own | between
      · exact .inr ⟨p, List.mem_cons_self, own⟩
      · exact .inl between
    · rcases ih behind with between | ⟨r, hr, other⟩
      · exact .inl between
      · exact .inr ⟨r, List.mem_cons_of_mem p hr, other⟩

/-- Parts that are not empty do not make up an empty text. -/
theorem joinWith_eq_nil_iff {sep : List Char} (h : ∀ p ∈ ps, p ≠ []) :
    joinWith sep ps = [] ↔ ps = [] := by
  cases ps with
  | nil => exact iff_of_true rfl rfl
  | cons p ps =>
    have some_left : p ≠ [] := h p List.mem_cons_self
    cases ps with
    | nil => exact iff_of_false some_left (List.cons_ne_nil p [])
    | cons q ps =>
      refine iff_of_false ?_ (List.cons_ne_nil p _)
      rw [joinWith, List.append_assoc]
      exact List.append_ne_nil_of_left_ne_nil some_left _

/-! ### The first and the last occurrence of a character -/

theorem cut?_append (h : c ∉ a) (b : List Char) : cut? c (a ++ c :: b) = some (a, b) := by
  induction a with
  | nil => rw [List.nil_append, cut?, if_pos rfl]
  | cons d a ih =>
    rw [List.mem_cons, not_or] at h
    rw [List.cons_append, cut?, if_neg (Ne.symm h.1), ih h.2]
    rfl

/-- A text without the character in front moves with the first part. -/
theorem cut?_append_of_notMem (h : c ∉ a) (b : List Char) :
    cut? c (a ++ b) = (cut? c b).map fun r => (a ++ r.1, r.2) := by
  induction a with
  | nil => simp
  | cons d a ih =>
    rw [List.mem_cons, not_or] at h
    rw [List.cons_append, cut?, if_neg (Ne.symm h.1), ih h.2, Option.map_map]
    rfl

theorem cutLast?_eq_none_iff : cutLast? c s = none ↔ c ∉ s := by
  induction s with
  | nil => exact iff_of_true rfl List.not_mem_nil
  | cons d s ih =>
    rw [cutLast?, List.mem_cons, not_or, ← ih]
    cases cutLast? c s with
    | some r => simp
    | none => simp [eq_comm]

theorem cutLast?_append (h : c ∉ b) (a : List Char) : cutLast? c (a ++ c :: b) = some (a, b) := by
  induction a with
  | nil => rw [List.nil_append, cutLast?, cutLast?_eq_none_iff.mpr h, if_pos rfl]
  | cons d a ih => rw [List.cons_append, cutLast?, ih]

theorem eq_of_cutLast? (h : cutLast? c s = some (a, b)) : s = a ++ c :: b ∧ c ∉ b := by
  induction s generalizing a with
  | nil => exact absurd h (by simp [cutLast?])
  | cons d s ih =>
    rw [cutLast?] at h
    cases later : cutLast? c s with
    | some r =>
      rw [later] at h
      cases h
      obtain ⟨rfl, last⟩ := ih later
      exact ⟨rfl, last⟩
    | none =>
      rw [later] at h
      obtain ⟨rfl, same⟩ := Option.ite_none_right_eq_some.mp h
      cases same
      exact ⟨rfl, cutLast?_eq_none_iff.mp later⟩

/-- Texts that are divided at the last occurrence are put together in one way. -/
theorem append_cons_inj {a' b' : List Char} (h : c ∉ b) (h' : c ∉ b')
    (same : a ++ c :: b = a' ++ c :: b') : a = a' ∧ b = b' := by
  have parts := cutLast?_append h a
  rw [same, cutLast?_append h' a', Option.some.injEq, Prod.mk.injEq] at parts
  exact ⟨parts.1.symm, parts.2.symm⟩

/-! ### The first occurrence of a text -/

/-- A text is divided at the first place where the pattern can start. -/
theorem cutAt?_append {q : List Char} (h : c ∉ a) (b : List Char) :
    cutAt? (c :: q) (a ++ (c :: q ++ b)) = some (a, b) := by
  induction a with
  | nil =>
    have whole : afterPrefix? (c :: q) (c :: (q ++ b)) = some b := afterPrefix?_eq_some_iff.mpr rfl
    rw [List.nil_append, List.cons_append, cutAt?, whole]
  | cons d a ih =>
    rw [List.mem_cons, not_or] at h
    have other : afterPrefix? (c :: q) (d :: (a ++ (c :: q ++ b))) = none := by
      rw [afterPrefix?, if_neg h.1]
    rw [List.cons_append, cutAt?, other]
    simp only []
    rw [ih h.2]
    rfl

theorem cutAt?_eq_none_iff : cutAt? p s = none ↔ ¬ p <:+: s := by
  induction s with
  | nil => cases p <;> simp [cutAt?]
  | cons d s ih =>
    have start : (afterPrefix? p (d :: s)).isSome = true ↔ p <+: d :: s := startsWith_iff
    rw [cutAt?, List.infix_cons_iff, not_or, ← ih, ← start]
    cases afterPrefix? p (d :: s) with
    | some r => simp
    | none => simp

theorem eq_of_cutAt? (h : cutAt? p s = some (a, b)) : s = a ++ (p ++ b) := by
  induction s generalizing a with
  | nil =>
    obtain ⟨empty, same⟩ := Option.ite_none_right_eq_some.mp h
    cases same
    rw [List.isEmpty_iff.mp empty]
    rfl
  | cons d s ih =>
    rw [cutAt?] at h
    split at h
    · next start =>
      cases h
      show d :: s = p ++ b
      exact afterPrefix?_eq_some_iff.mp start
    · obtain ⟨r, later, same⟩ := Option.map_eq_some_iff.mp h
      cases same
      rw [ih later]
      rfl

/-- A start of a text that has no separator stands in front of the separator. -/
theorem prefix_of_append_cons (h : c ∉ p) (start : p <+: a ++ c :: b) : p <+: a := by
  rcases List.prefix_or_prefix_of_prefix start (List.prefix_append a (c :: b)) with short | long
  · exact short
  · obtain ⟨q, rfl⟩ := long
    have rest : q <+: c :: b := (List.prefix_append_right_inj a).mp start
    cases q with
    | nil => simp
    | cons d q =>
      obtain rfl := (List.cons_prefix_cons.mp rest).1
      exact absurd (List.mem_append_right a List.mem_cons_self) h

/-- A text is divided behind a character that the pattern does not have, if it is divided at all,
when there is no pattern in front of the character. -/
theorem cutAt?_append_cons (some_text : p ≠ []) (h : c ∉ p) (free : ¬ p <:+: a) (b : List Char) :
    cutAt? p (a ++ c :: b) = (cutAt? p b).map fun r => (a ++ c :: r.1, r.2) := by
  have later : ∀ {s : List Char}, ¬ p <+: s → afterPrefix? p s = none := by
    intro s other
    rw [Option.eq_none_iff_forall_ne_some]
    exact fun r found => other ⟨r, (afterPrefix?_eq_some_iff.mp found).symm⟩
  induction a with
  | nil =>
    have other : ¬ p <+: c :: b := by
      intro start
      exact some_text (List.prefix_nil.mp (prefix_of_append_cons h start))
    rw [List.nil_append, cutAt?, later other]
    rfl
  | cons d a ih =>
    rw [List.infix_cons_iff, not_or] at free
    have other : ¬ p <+: d :: (a ++ c :: b) := by
      intro start
      rw [← List.cons_append] at start
      exact free.1 (prefix_of_append_cons h start)
    rw [List.cons_append, cutAt?, later other]
    simp only []
    rw [ih free.2, Option.map_map]
    rfl

/-! ### The ends of a text -/

theorem dropTrailing_append_replicate (s : List Char) (c : Char) (n : Nat) :
    dropTrailing c (s ++ List.replicate n c) = dropTrailing c s := by
  unfold dropTrailing
  rw [List.reverse_append, List.reverse_replicate, List.dropWhile_append_of_pos]
  intro d hd
  simp [List.eq_of_mem_replicate hd]

theorem dropTrailing_of_getLast? (h : s.getLast? ≠ some c) : dropTrailing c s = s := by
  unfold dropTrailing
  rw [← List.head?_reverse] at h
  cases reversed : s.reverse with
  | nil => simpa using reversed.symm
  | cons d r =>
    rw [reversed] at h
    rw [List.dropWhile_cons_of_neg (by simpa using h), ← reversed, List.reverse_reverse]

/-- What stands behind the last separator is the end of a text. -/
theorem getLast?_append_cons_ne (h : c ∉ b) (some_text : b ≠ []) :
    (a ++ c :: b).getLast? ≠ some c := by
  intro last
  rw [List.append_cons, List.getLast?_append, List.getLast?_eq_some_getLast some_text,
    Option.some_or, Option.some.injEq] at last
  exact h (last ▸ List.getLast_mem some_text)

/-- An end of a text that has no separator stands behind the separator. -/
theorem suffix_of_append_cons (h : c ∉ p) (suffix : p <:+ a ++ c :: b) : p <:+ b := by
  rcases List.suffix_or_suffix_of_suffix suffix (List.suffix_append a (c :: b)) with short | long
  · rcases List.suffix_cons_iff.mp short with rfl | short
    · exact absurd List.mem_cons_self h
    · exact short
  · exact absurd (long.subset List.mem_cons_self) h

/-! ### Blanks at the ends -/

theorem trimStart_append_cons (graphic : isBlank c = false) (a b : List Char) :
    trimStart (a ++ c :: b) = trimStart a ++ c :: b := by
  induction a with
  | nil => rw [List.nil_append, trimStart_cons, graphic]; rfl
  | cons d a ih =>
    rw [List.cons_append, trimStart_cons, trimStart_cons, ih]
    split <;> rfl

theorem trimEnd_append_cons (graphic : isBlank c = false) (a b : List Char) :
    trimEnd (a ++ c :: b) = a ++ c :: trimEnd b := by
  have reversed := trimStart_append_cons graphic b.reverse a.reverse
  unfold trimStart at reversed
  unfold trimEnd
  rw [List.reverse_append, List.reverse_cons, List.append_assoc, List.singleton_append, reversed,
    List.reverse_append, List.reverse_cons, List.reverse_reverse, List.append_assoc,
    List.singleton_append]

theorem trimEnd_isPrefix (s : List Char) : trimEnd s <+: s := by
  unfold trimEnd
  rw [← List.reverse_suffix, List.reverse_reverse]
  exact List.dropWhile_suffix isBlank

/-- No character but blanks is trimmed. -/
theorem mem_trimStart_iff (graphic : isBlank c = false) : c ∈ trimStart s ↔ c ∈ s := by
  induction s with
  | nil => exact Iff.rfl
  | cons d s ih =>
    rw [trimStart_cons]
    split
    · next white =>
      have other : c ≠ d := by
        rintro rfl
        exact absurd white (by simp [graphic])
      rw [ih, List.mem_cons, or_iff_right other]
    · exact Iff.rfl

theorem trimStart_eq_self_iff : trimStart s = s ↔ ∀ c ∈ s.head?, isBlank c = false := by
  cases s with
  | nil => exact iff_of_true rfl (by simp)
  | cons d s =>
    rw [trimStart_cons]
    split
    · next white =>
      have shorter : (trimStart s).length ≤ s.length := (List.dropWhile_suffix _).length_le
      refine iff_of_false (fun same => ?_) (by simp [white])
      have lengths := congrArg List.length same
      rw [List.length_cons] at lengths
      omega
    · next graphic => exact iff_of_true rfl (by simpa using graphic)

theorem trimEnd_eq_self_iff : trimEnd s = s ↔ ∀ c ∈ s.getLast?, isBlank c = false := by
  have reversed := trimStart_eq_self_iff (s := s.reverse)
  rw [List.head?_reverse] at reversed
  rw [← reversed]
  exact List.reverse_eq_iff

/-- Only what is in front of and behind a character that is no blank is trimmed. -/
theorem trim_append_cons (graphic : isBlank c = false) (a b : List Char) :
    trim (a ++ c :: b) = trimStart a ++ c :: trimEnd b := by
  unfold trim
  rw [trimStart_append_cons graphic, trimEnd_append_cons graphic]

end RepoBrowser.Text
