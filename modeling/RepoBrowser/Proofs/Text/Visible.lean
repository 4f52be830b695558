import RepoBrowser.Text.Grapheme
import RepoBrowser.Text.Width

/-!
# Texts of visible characters

What stands behind a character can take columns away: a joiner makes two characters one, and so does
the sign of some scripts.  A character between them that takes columns by itself leaves at least
one, and so every part of a text of such characters takes some.

* `IsVisible` — a character that takes columns by itself;
* `reserve`, `step_visible` — what such a character leaves of the columns behind it;
* `width_pos_of_visible` — a text of visible characters takes columns.
-/

namespace RepoBrowser.Text

open Width Grapheme

/-- A character that takes columns by itself; the line feed ends a line and takes none. -/
def IsVisible (c : Char) : Prop := c ≠ '\n' ∧ 0 < charWidth c

instance : DecidablePred IsVisible := fun _ => inferInstanceAs (Decidable (_ ∧ _))

variable {c : Char} {s : List Char} {k k' : Kind} {b : Behind} {w : Int}

/-- The characters of some numbers take no columns. -/
theorem IsVisible.toNat_ne (h : IsVisible c) {n : Nat} (none : charWidth (Char.ofNat n) = 0) :
    c.toNat ≠ n := by
  rintro rfl
  rw [Char.ofNat_toNat] at none
  exact absurd h.2 (by omega)

theorem IsVisible.ne_joiner (h : IsVisible c) : c ≠ joiner := fun same =>
  h.toNat_ne (by decide +kernel : charWidth (Char.ofNat 0x200D) = 0) (congrArg Char.toNat same)

/-- What begins with a joiner in front of an emoji. -/
def BeginsJoined : Kind → Prop
  | .joined | .flag _ _ => True
  | _ => False

/-- The columns that what stands behind takes at least: a sign of Tifinagh is one of two, until the
consonant in front of it takes its column back. -/
def reserve : Kind → Int
  | .letter .tifinaghJoined _ => 2
  | _ => 1

/-- A letter that forms one glyph with the letter behind it leaves what is reserved. -/
theorem joinedLetter?_visible (h : IsVisible c) {l : Letter} {joined : Bool}
    (found : joinedLetter? c l joined = some (w, k')) :
    reserve k' ≤ reserve (.letter l joined) + w ∧ ¬ BeginsJoined k' := by
  have coeng : c.toNat ≠ 0x17D2 := h.toNat_ne (by decide +kernel)
  cases l <;> cases joined <;> grind [joinedLetter?, reserve, BeginsJoined]

/-- A visible character takes no columns back from what is settled. -/
theorem joined?_visible (h : IsVisible c) (settled : ¬ BeginsJoined k)
    (found : joined? c k = some (w, k')) :
    reserve k' ≤ reserve k + w ∧ ¬ BeginsJoined k' := by
  have joiner := h.ne_joiner
  cases k with
  | letter l joined => exact joinedLetter?_visible h found
  | joined => exact absurd trivial settled
  | flag started whole => exact absurd trivial settled
  | _ => grind [joined?, reserve, BeginsJoined]

/-- What visible characters are to the one in front of them. -/
structure IsSettled (b : Behind) : Prop where
  kind : ¬ BeginsJoined b.kind
  asEmoji : b.asEmoji = false
  asText : b.asText = false

/-- What a character can be by itself: nothing that a column is taken back from. -/
def IsSingle (k : Kind) : Prop := reserve k = 1 ∧ ¬ BeginsJoined k

theorem isSingle_of (c : Char) : IsSingle (.of c) := by
  unfold Kind.of
  repeat' refine iteInduction (fun _ => ?_) fun _ => ?_
  all_goals exact ⟨rfl, id⟩

theorem reserve_pos (k : Kind) : 0 < reserve k := by
  unfold reserve
  split <;> decide

theorem stepKind_visible (h : IsVisible c) (settled : ¬ BeginsJoined k) :
    reserve (stepKind c k).2.kind ≤ reserve k + (stepKind c k).1 ∧ IsSettled (stepKind c k).2 := by
  have joiner := h.ne_joiner
  unfold stepKind
  split
  · simp_all
  split
  · exact ⟨by simp, settled, rfl, rfl⟩
  split
  · next found =>
    obtain ⟨enough, free⟩ := joined?_visible h settled found
    exact ⟨enough, free, rfl, rfl⟩
  · obtain ⟨single, free⟩ := isSingle_of c
    have wide := h.2
    have some_left := reserve_pos k
    refine ⟨?_, free, rfl, rfl⟩
    show reserve (.of c) ≤ reserve k + (charWidth c : Int)
    omega

/-- A visible character is no selector, and none stands behind it. -/
theorem step_eq (h : IsVisible c) (settled : IsSettled b) :
    Width.step c b =
      if c.toNat ≤ 0xA0 then (if c = '\r' ∧ b.kind = .lineFeed then 0 else 1, {})
      else stepKind c b.kind := by
  have emoji : c ≠ emojiSelector := fun same =>
    h.toNat_ne (by decide +kernel : charWidth (Char.ofNat 0xFE0F) = 0) (congrArg Char.toNat same)
  have text : c ≠ textSelector := fun same =>
    h.toNat_ne (by decide +kernel : charWidth (Char.ofNat 0xFE0E) = 0) (congrArg Char.toNat same)
  have plain : b.withoutEmojiSelector = b := by simp [Behind.withoutEmojiSelector, settled.asEmoji]
  unfold Width.step
  rw [plain]
  simp only [settled.asEmoji, settled.asText, Bool.false_and, Bool.false_eq_true, if_false,
    if_neg h.1, if_neg emoji, if_neg text]
  split
  · split <;> rfl
  · rfl

/-- A visible character with nothing behind it. -/
theorem step_last (h : IsVisible c) :
    reserve (Width.step c {}).2.kind ≤ (Width.step c {}).1 ∧ IsSettled (Width.step c {}).2 := by
  have nothing : IsSettled {} := ⟨id, rfl, rfl⟩
  have wide := h.2
  rw [step_eq h nothing]
  split
  · exact ⟨by simp [reserve], nothing⟩
  · obtain ⟨single, free⟩ := isSingle_of c
    refine ⟨?_, free, rfl, rfl⟩
    show reserve (.of c) ≤ (charWidth c : Int)
    omega

/-- **A visible character leaves what is reserved** of the columns behind it. -/
theorem step_visible (h : IsVisible c) (settled : IsSettled b) :
    reserve (Width.step c b).2.kind ≤ reserve b.kind + (Width.step c b).1 ∧
      IsSettled (Width.step c b).2 := by
  have some_reserved := reserve_pos b.kind
  rw [step_eq h settled]
  split
  · refine ⟨?_, id, rfl, rfl⟩
    show (1 : Int) ≤ _
    dsimp only
    split <;> omega
  · exact stepKind_visible h settled.kind

/-- What is measured of visible characters. -/
theorem measure_visible (h : ∀ c ∈ s, IsVisible c) (some_left : s ≠ []) :
    reserve (Width.measure s).2.kind ≤ (Width.measure s).1 ∧ IsSettled (Width.measure s).2 := by
  induction s with
  | nil => exact absurd rfl some_left
  | cons c s ih =>
    have visible := h c List.mem_cons_self
    have sum : (Width.measure (c :: s)).1
        = (Width.step c (Width.measure s).2).1 + (Width.measure s).1 := rfl
    by_cases more : s = []
    · subst more
      have single : Width.measure [c] = Width.step c {} := Prod.ext (Int.add_zero _) rfl
      rw [single]
      exact step_last visible
    · obtain ⟨enough, settled⟩ := ih (fun d hd => h d (List.mem_cons_of_mem c hd)) more
      obtain ⟨left, still⟩ := step_visible visible settled
      refine ⟨?_, still⟩
      have kind : (Width.measure (c :: s)).2 = (Width.step c (Width.measure s).2).2 := rfl
      rw [sum, kind]
      omega

/-- **A text of visible characters takes columns.** -/
theorem width_pos_of_visible (h : ∀ c ∈ s, IsVisible c) (some_left : s ≠ []) : 0 < width s := by
  have enough := (measure_visible h some_left).1
  have some_reserved := reserve_pos (Width.measure s).2.kind
  unfold width
  omega

end RepoBrowser.Text
