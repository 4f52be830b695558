import RepoBrowser.Text.Column
import RepoBrowser.Text.Grapheme
import RepoBrowser.Text.Width

/-!
# Texts of characters that take one column each

The columns of a character can depend on what stands behind it, so that one column each is said of a
text with all of its parts.

* `SingleWidth` — every part of a text takes as many columns as it has characters;
* `IsLone`, `singleWidth_of_lone` — characters of which all texts are such;
* `SingleWidth.of_infix`, `SingleWidth.append_plain`, `SingleWidth.cons` — parts of such a text,
  plain text behind it, and a character in front of it that nothing behind it changes;
* `SingleWidth.padEnd_shorten` — such a text in a column;
* `IsPrintable`, `clusters_printable` — of printable ASCII each character is a glyph.
-/

namespace RepoBrowser.Text

open Width Grapheme

/-- Every part of the text takes as many columns as it has characters. -/
def SingleWidth (s : List Char) : Prop := ∀ t, t <:+: s → width t = t.length

variable {s t p : List Char} {c : Char} {w : Nat}

theorem SingleWidth.width_eq (h : SingleWidth s) : width s = s.length := h s List.infix_rfl

theorem SingleWidth.of_infix (h : SingleWidth s) (part : t <:+: s) : SingleWidth t :=
  fun u hu => h u (hu.trans part)

theorem SingleWidth.take (h : SingleWidth s) (n : Nat) : SingleWidth (s.take n) :=
  h.of_infix (List.take_prefix n s).isInfix

/-- A character that takes one column and forms no glyph with another one. -/
def IsLone (c : Char) : Prop := charWidth c = 1 ∧ Kind.of c = .other ∧ c ≠ '\n'

instance : DecidablePred IsLone := fun _ => inferInstanceAs (Decidable (_ ∧ _))

theorem isLone_of_isPlain (h : IsPlain c) : IsLone c := by
  have low : c.toNat ≤ 0xA0 := by have := h.1; omega
  exact ⟨charWidth_ascii low, if_pos low, h.2⟩

theorem step_lone (h : IsLone c) : Width.step c {} = (1, {}) := by
  obtain ⟨single, other, feed⟩ := h
  have emoji : c ≠ emojiSelector := by
    rintro rfl
    exact absurd single (by decide +kernel)
  have plain : c ≠ textSelector := by
    rintro rfl
    exact absurd single (by decide +kernel)
  show (if c.toNat ≤ 0xA0 then _ else _) = _
  split
  · exact if_neg fun feeds => nomatch feeds.2
  · show ((charWidth c : Int), ({ kind := .of c } : Behind)) = _
    rw [single, other]
    rfl

/-- **Texts of such characters.** -/
theorem singleWidth_of_lone (h : ∀ c ∈ s, IsLone c) : SingleWidth s := by
  have measured : ∀ t : List Char, (∀ c ∈ t, IsLone c) →
      Width.measure t = ((t.length : Int), {}) := by
    intro t
    induction t with
    | nil => exact fun _ => rfl
    | cons c t ih =>
      intro lone
      rw [Width.measure, ih fun d hd => lone d (List.mem_cons_of_mem c hd)]
      show ((Width.step c {}).1 + _, (Width.step c {}).2) = _
      rw [step_lone (lone c List.mem_cons_self)]
      exact Prod.ext (Int.add_comm _ _) rfl
  intro t part
  unfold width
  rw [measured t fun c hc => h c (part.subset hc), Int.toNat_natCast]

/-- Plain text is such a text. -/
theorem singleWidth_of_plain (h : ∀ c ∈ s, IsPlain c) : SingleWidth s :=
  singleWidth_of_lone fun c hc => isLone_of_isPlain (h c hc)

theorem measure_of_width (h : width s = s.length) : (Width.measure s).1 = s.length := by
  unfold width at h
  cases s with
  | nil => rfl
  | cons c s =>
    rw [List.length_cons] at h ⊢
    omega

/-- Plain text behind a text adds its characters, and does not change what stands in front. -/
theorem measure_append_plain (plain : ∀ c ∈ p, IsPlain c) (s : List Char) :
    Width.measure (s ++ p) = ((Width.measure s).1 + p.length, (Width.measure s).2) := by
  induction s with
  | nil =>
    rw [List.nil_append, measure_plain plain]
    exact Prod.ext (Int.zero_add _).symm rfl
  | cons c s ih =>
    rw [List.cons_append, Width.measure, ih, Width.measure]
    exact Prod.ext (Int.add_assoc _ _ _).symm rfl

/-- **Plain text can stand behind.** -/
theorem SingleWidth.append_plain (h : SingleWidth s) (plain : ∀ c ∈ p, IsPlain c) :
    SingleWidth (s ++ p) := by
  intro t part
  rcases List.infix_append_iff.mp part with inside | behind | ⟨u, v, rfl, suffix, front⟩
  · exact h t inside
  · exact singleWidth_of_plain plain t behind
  · have columns := measure_of_width (h u suffix.isInfix)
    unfold width
    rw [measure_append_plain fun c hc => plain c (front.subset hc), columns, List.length_append]
    omega

/-- A character that takes one column, whatever stands behind it. -/
def IsFixed (c : Char) : Prop :=
  c.toNat ≤ 0xA0 ∧ member selectable c.toNat = false ∧ c ≠ '\n' ∧ c ≠ '\r'

instance : DecidablePred IsFixed := fun _ => inferInstanceAs (Decidable (_ ∧ _))

theorem step_fixed (h : IsFixed c) (b : Behind) : Width.step c b = (1, {}) := by
  obtain ⟨low, plain, feed, ret⟩ := h
  unfold Width.step
  simp [plain, low, feed, ret]

theorem measure_fixed (h : IsFixed c) (s : List Char) :
    Width.measure (c :: s) = (1 + (Width.measure s).1, {}) := by
  show ((Width.step c (Width.measure s).2).1 + _, (Width.step c (Width.measure s).2).2) = _
  rw [step_fixed h]

/-- **Such a character can stand in front.** -/
theorem SingleWidth.cons (h : SingleWidth s) (fixed : IsFixed c) : SingleWidth (c :: s) := by
  intro t part
  rcases List.infix_cons_iff.mp part with front | behind
  · rcases List.prefix_cons_iff.mp front with rfl | ⟨u, rfl, start⟩
    · rfl
    · have columns := measure_of_width (h u start.isInfix)
      unfold width
      rw [measure_fixed fixed, columns, List.length_cons]
      omega
  · exact h t behind

theorem isPlain_of_mem_blanks {n : Nat} (hc : c ∈ List.replicate n ' ') : IsPlain c := by
  rw [List.eq_of_mem_replicate hc]
  exact ⟨by decide, by decide⟩

theorem isPlain_of_mem_dots (hc : c ∈ dots) : IsPlain c := by
  unfold dots at hc
  simp only [List.mem_cons, List.not_mem_nil, or_false, or_self] at hc
  rw [hc]
  exact ⟨by decide, by decide⟩

theorem SingleWidth.shorten (h : SingleWidth s) (w : Nat) : SingleWidth (shorten w s) := by
  unfold Text.shorten
  split
  · exact h
  · exact (h.take _).append_plain fun c => isPlain_of_mem_dots

/-- **Such a text in a column.** -/
theorem SingleWidth.padEnd_shorten (h : SingleWidth s) (w : Nat) :
    SingleWidth (padEnd w (Text.shorten w s)) :=
  (h.shorten w).append_plain fun _ => isPlain_of_mem_blanks

/-! ### Glyphs -/

/-- A glyph of such a text takes columns. -/
theorem SingleWidth.width_of_mem_clusters (h : SingleWidth s) {g : List Char}
    (hg : g ∈ clusters s) : width g = g.length := by
  refine h g ?_
  have part := List.infix_of_mem_flatten hg
  rwa [clusters_flatten] at part

/-- A text of one character. -/
theorem singleWidth_singleton (single : width [c] = 1) : SingleWidth [c] := by
  intro t part
  rcases List.infix_cons_iff.mp part with front | behind
  · rcases List.prefix_cons_iff.mp front with rfl | ⟨u, rfl, start⟩
    · rfl
    · rw [List.prefix_nil.mp start]
      exact single
  · rw [List.infix_nil.mp behind]
    rfl

/-- Characters of ASCII that can be seen, and the blank. -/
def IsPrintable (c : Char) : Prop := 0x20 ≤ c.toNat ∧ c.toNat < 0x7F

instance : DecidablePred IsPrintable := fun _ => inferInstanceAs (Decidable (_ ∧ _))

theorem IsPrintable.isPlain (h : IsPrintable c) : IsPlain c := by
  refine ⟨by have := h.2; omega, fun feed => ?_⟩
  rw [feed] at h
  exact absurd h.1 (by decide)

theorem singleWidth_of_printable (h : ∀ c ∈ s, IsPrintable c) : SingleWidth s :=
  singleWidth_of_plain fun c hc => (h c hc).isPlain

theorem isPrintable_of_isDigit (digit : c.isDigit = true) : IsPrintable c := by
  have range : 48 ≤ c.toNat ∧ c.toNat ≤ 57 := Char.isDigit_iff_toNat.mp digit
  exact ⟨by omega, by omega⟩

theorem isPrintable_of_mem_toDigits {n : Nat} (hc : c ∈ Nat.toDigits 10 n) : IsPrintable c :=
  isPrintable_of_isDigit (Nat.isDigit_of_mem_toDigits (by decide) (by decide) hc)

theorem notMem_toDigits (letter : c.isDigit = false) (n : Nat) : c ∉ Nat.toDigits 10 n := by
  intro hc
  exact Bool.noConfusion
    (letter.symm.trans (Nat.isDigit_of_mem_toDigits (by decide) (by decide) hc))

theorem isPrintable_of_mem_padStart (h : ∀ c ∈ s, IsPrintable c) (hc : c ∈ padStart w s) :
    IsPrintable c := by
  rcases List.mem_append.mp hc with hc | hc
  · rw [List.eq_of_mem_replicate hc]
    decide
  · exact h c hc

theorem classOf_printable (h : IsPrintable c) : classOf c = .other := by
  obtain ⟨low, high⟩ := h
  unfold classOf
  simp [low, high]

/-- A cluster that begins with a printable character is ended by another one. -/
theorem joins_printable {d : Char} (hc : IsPrintable c) (hd : IsPrintable d) :
    joins (.first c) d = false := by
  have consonant : isConsonant c = false := by
    have low : ¬ 0x900 ≤ c.toNat := by have := hc.2; omega
    simp [isConsonant, low]
  unfold joins Context.first
  simp [classOf_printable hc, classOf_printable hd, consonant]

theorem clustersFrom_printable (hc : IsPrintable c) (hs : ∀ d ∈ s, IsPrintable d) :
    clustersFrom (.first c) [c] s = [c] :: s.map fun d => [d] := by
  induction s generalizing c with
  | nil => rfl
  | cons d s ih =>
    have hd : IsPrintable d := hs d List.mem_cons_self
    rw [clustersFrom, joins_printable hc hd, ih hd fun e he => hs e (List.mem_cons_of_mem d he)]
    rfl

/-- **Of printable text each character is a glyph.** -/
theorem clusters_printable (h : ∀ c ∈ s, IsPrintable c) : clusters s = s.map fun c => [c] := by
  cases s with
  | nil => rfl
  | cons c s =>
    exact clustersFrom_printable (h c List.mem_cons_self)
      fun d hd => h d (List.mem_cons_of_mem c hd)

end RepoBrowser.Text
