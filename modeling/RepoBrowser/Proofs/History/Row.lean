import Mathlib.Data.Bool.AllAny
import RepoBrowser.History.Draw
import RepoBrowser.Proofs.Screen.Filling
import RepoBrowser.Proofs.Screen.Spans

/-!
# The row of a commit

A row of the list has columns for the id, the message, the author and the age.  The message has all
the columns that are left, and the age has three.

* `cutAfterByte?_ascii` — an id of ASCII text is cut after its seventh character;
* `Instant.wholeDays`, `age_length_le_iff` — the ages that three columns hold;
* `History.columnsBeforeAge`, `History.draw_glyphs` — the columns in front of the age, and the row;
* `commit_row_shows_columns` — what is on screen for a commit, and when its whole age is;
* `old_age_is_cut` — the age of a commit from a hundred days ago is not.
-/

namespace RepoBrowser

open Text Text.Width
open Time (Instant)

/-! ### Ids -/

/-- Of ASCII text each character is a byte. -/
theorem cutAfterByte?_ascii {s : List Char} (ascii : ∀ c ∈ s, c.toNat < 0x80) (n : Nat) :
    cutAfterByte? n s = some (s.take n) := by
  induction s generalizing n with
  | nil => cases n <;> rfl
  | cons c s ih =>
    have low : c.toNat < 0x80 := ascii c List.mem_cons_self
    have size : c.utf8Size = 1 :=
      Char.utf8Size_eq_one_iff.mpr (UInt32.le_iff_toNat_le.mpr (Nat.le_of_lt_succ low))
    cases n with
    | zero => rfl
    | succ n =>
      rw [cutAfterByte?, size, if_pos (Nat.le_add_left 1 n), Nat.add_sub_cancel,
        ih (fun d hd => ascii d (List.mem_cons_of_mem c hd)), List.take_succ_cons]
      · rfl
      · exact Nat.succ_ne_zero n

/-! ### Ages -/

/-- The whole days from an instant until now. -/
def Time.Instant.wholeDays (now t : Instant) : Nat :=
  ((t.nanosUntil now).tdiv 1000000000).toNat / 86400

/-- An age is a number with its unit, or tells that not even a minute has passed. -/
theorem age_cases (now t : Instant) :
    (∃ n unit, Instant.age now t = Nat.toDigits 10 n ++ [unit] ∧ unit ∈ ['d', 'h', 'm'] ∧
      (n < 100 ↔ Instant.wholeDays now t < 100)) ∨
    Instant.age now t = ['n', 'o', 'w'] ∧ Instant.wholeDays now t = 0 := by
  unfold Instant.age Instant.wholeDays
  dsimp only
  generalize ((t.nanosUntil now).tdiv 1000000000).toNat = seconds
  split
  · exact .inl ⟨seconds / 86400, 'd', rfl, by decide, Iff.rfl⟩
  · split
    · exact .inl ⟨seconds / 3600, 'h', rfl, by decide, by omega⟩
    · split
      · exact .inl ⟨seconds / 60, 'm', rfl, by decide, by omega⟩
      · exact .inr ⟨rfl, by omega⟩

/-- **Three columns hold the ages of less than a hundred days.** -/
theorem age_length_le_iff (now t : Instant) :
    (Instant.age now t).length ≤ 3 ↔ Instant.wholeDays now t < 100 := by
  rcases age_cases now t with ⟨n, unit, age, -, days⟩ | ⟨age, days⟩
  · have digits : (Nat.toDigits 10 n).length ≤ 2 ↔ n < 100 :=
      Nat.length_toDigits_le_iff (by decide) (by decide)
    rw [age, List.length_append, List.length_singleton, ← days, ← digits]
    omega
  · rw [age, days]
    decide

theorem isPrintable_of_mem_age {now t : Instant} {c : Char} (hc : c ∈ Instant.age now t) :
    IsPrintable c := by
  rcases age_cases now t with ⟨n, unit, age, isUnit, -⟩ | ⟨age, -⟩
  · rw [age] at hc
    rcases List.mem_append.mp hc with digit | last
    · exact isPrintable_of_mem_toDigits digit
    · have units : ∀ u ∈ ['d', 'h', 'm'], IsPrintable u :=
        List.all_iff_forall_prop.mp (by decide)
      rw [List.mem_singleton.mp last]
      exact units unit isUnit
  · have letters : ∀ d ∈ ['n', 'o', 'w'], IsPrintable d := List.all_iff_forall_prop.mp (by decide)
    exact letters c (age ▸ hc)

/-- The last character of an age stands nowhere else in it. -/
theorem exists_age_eq (now t : Instant) : ∃ text c, Instant.age now t = text ++ [c] ∧ c ∉ text := by
  rcases age_cases now t with ⟨n, unit, age, isUnit, -⟩ | ⟨age, -⟩
  · have units : ∀ u ∈ ['d', 'h', 'm'], u.isDigit = false := List.all_iff_forall_prop.mp (by decide)
    exact ⟨_, unit, age, notMem_toDigits (units unit isUnit) n⟩
  · exact ⟨['n', 'o'], 'w', age, by decide⟩

namespace History

/-! ### The row -/

variable {w rows i : Nat} {c : Commit}

/-- What stands in front of the age: the id, the message and the author, each in its column. -/
def beforeAge (w : Nat) (c : Commit) : List (List Char) :=
  [c.id.toList.take 7, [' '], padEnd (w - 29) (shorten (w - 29) c.message.toList), [' '],
    '@' :: padEnd 15 (shorten 15 c.author.toList), [' ']]

/-- The spans of a row as they are in an area that is wide enough. -/
theorem commitSpans_eq (wide : 39 ≤ w) (ascii : ∀ d ∈ c.id.toList, d.toNat < 0x80)
    (now : Instant) (isSelected : Bool) :
    ∃ front last, commitSpans now w isSelected c = front ++ [last] ∧
      front.map (·.text) = beforeAge w c ∧ last.text = padStart 3 (Instant.age now c.date) := by
  have columns : messageColumns w = w - 29 := Nat.max_eq_left (Nat.le_sub_of_add_le wide)
  have id : c.shortId?.getD [] = c.id.toList.take 7 :=
    congrArg (Option.getD · []) (cutAfterByte?_ascii ascii 7)
  unfold commitSpans
  rw [columns, id]
  exact ⟨[_, _, _, _, _, _], _, rfl, rfl, rfl⟩

theorem singleWidth_of_mem_beforeAge (id : SingleWidth c.id.toList)
    (message : SingleWidth c.message.toList) (author : SingleWidth c.author.toList)
    {text : List Char} (ht : text ∈ beforeAge w c) : SingleWidth text := by
  have blank : SingleWidth [' '] := singleWidth_singleton rfl
  unfold beforeAge at ht
  simp only [List.mem_cons, List.not_mem_nil, or_false] at ht
  rcases ht with rfl | rfl | rfl | rfl | rfl | rfl
  · exact id.take 7
  · exact blank
  · exact message.padEnd_shorten _
  · exact blank
  · exact (author.padEnd_shorten 15).cons (by decide)
  · exact blank

/-- The age has the last three columns. -/
theorem total_beforeAge (wide : 39 ≤ w) (long : 7 ≤ c.id.toList.length) :
    Number.total ((beforeAge w c).map List.length) = w - 3 := by
  have message := padEnd_shorten_length c.message.toList (w := w - 29) (by omega)
  have author := padEnd_shorten_length c.author.toList (w := 15) (by decide)
  unfold beforeAge
  simp only [List.map_cons, List.map_nil, Number.total_cons, Number.total_nil, List.length_take,
    List.length_cons, List.length_nil, message, author]
  omega

/-- The rows of the list are those of the commits. -/
theorem rows_getElem? {h : History} (found : h.commits[i]? = some c) (now : Instant) (w : Nat) :
    (h.rows now w)[i]? = some (commitSpans now w (i = h.selected) c) := by
  unfold rows
  rw [List.getElem?_mapIdx, found]
  rfl

theorem rows_length (h : History) (now : Instant) (w : Nat) :
    (h.rows now w).length = h.commits.length := List.length_mapIdx

theorem draw_of_closed {h : History} (closed : h.opened = none) (some : h.commits ≠ [])
    (now : Instant) (w rows : Nat) :
    h.draw now w rows = listOfRows w rows h.offset h.selected (h.rows now w) := by
  unfold draw
  rw [closed]
  exact if_neg (mt List.isEmpty_iff.mp some)

/-- **What stands in the row of a commit.** -/
theorem draw_glyphs {h : History} (closed : h.opened = none) (now : Instant) (wide : 39 ≤ w)
    (low : i < rows)
    (shown : h.commits[windowStart h.offset h.selected h.commits.length rows + i]? = some c)
    (ascii : ∀ d ∈ c.id.toList, d.toNat < 0x80) (long : 7 ≤ c.id.toList.length)
    (id : SingleWidth c.id.toList) (message : SingleWidth c.message.toList)
    (author : SingleWidth c.author.toList) :
    ∃ row, (h.draw now w rows)[i]? = some row ∧
      row.map (·.glyph) = (beforeAge w c).flatMap inCells
        ++ ((padStart 3 (Instant.age now c.date)).take 3).map fun d => [d] := by
  have some_loaded : h.commits ≠ [] := by
    intro none
    rw [none] at shown
    exact nomatch shown
  rw [draw_of_closed closed some_loaded]
  have item := rows_getElem? shown now w
  rw [← h.rows_length now w] at item
  obtain ⟨front, last, spans, columns, aligned⟩ := commitSpans_eq wide ascii now
    (windowStart h.offset h.selected (h.rows now w).length rows + i = h.selected)
  have sum := total_beforeAge wide long
  rw [spans] at item
  exact listOfRows_table low item columns
    (fun t => singleWidth_of_mem_beforeAge id message author) (by omega) aligned
    fun d => isPrintable_of_mem_age

/-- **The age of a commit is cut if it is a hundred days old or older.**  In an area of at least 39
columns the row of a commit on screen fills the width.  In front stand the abbreviated id, the
message in all columns that are left, and the author, none of them cut.  The last three columns
have the age, aligned with the end of the row: the row ends with all of it exactly if fewer than a
hundred days have passed.  The commit itself is no reason why the list could not be drawn. -/
theorem commit_row_shows_columns (h : History) (closed : h.opened = none) (now : Instant)
    (w : Nat) (wide : 39 ≤ w) (rows i : Nat) (low : i < rows) (c : Commit)
    (shown : h.commits[windowStart h.offset h.selected h.commits.length rows + i]? = some c)
    (ascii : ∀ d ∈ c.id.toList, d.toNat < 0x80) (long : 7 ≤ c.id.toList.length)
    (id : SingleWidth c.id.toList) (message : SingleWidth c.message.toList)
    (author : SingleWidth c.author.toList) :
    splitFault? c.id = none ∧
    ∃ row, (h.draw now w rows)[i]? = some row ∧ row.length = w ∧
      row.map (·.glyph) =
        [c.id.toList.take 7, [' '], padEnd (w - 29) (shorten (w - 29) c.message.toList), [' '],
          '@' :: padEnd 15 (shorten 15 c.author.toList), [' ']].flatMap inCells
        ++ (((padStart 3 (Instant.age now c.date)).take 3).map fun d => [d]) ∧
      ((Instant.age now c.date).map (fun d => [d]) <:+ row.map (·.glyph) ↔
        Instant.wholeDays now c.date < 100) := by
  obtain ⟨row, drawn, glyphs⟩ := draw_glyphs closed now wide low shown ascii long id message author
  obtain ⟨-, fills⟩ := h.draw_fills now w rows
  have cuttable : splitFault? c.id = none :=
    splitFault?_eq_none_iff.mpr (congrArg Option.isSome (cutAfterByte?_ascii ascii 7))
  refine ⟨cuttable, row, drawn, fills row (List.mem_of_getElem? drawn), glyphs, ?_⟩
  obtain ⟨text, d, age, once⟩ := exists_age_eq now c.date
  rw [glyphs, ← age_length_le_iff, age]
  exact suffix_lastColumn_iff once (by decide)

/-- A commit at the beginning of 1970. -/
def sampleCommit : Commit := ⟨"4f2c9a1", "begin", "Zoë", ⟨0, 0⟩⟩

theorem sampleCommit_fits :
    (∀ d ∈ sampleCommit.id.toList, d.toNat < 0x80) ∧ 7 ≤ sampleCommit.id.toList.length ∧
    SingleWidth sampleCommit.id.toList ∧ SingleWidth sampleCommit.message.toList ∧
    SingleWidth sampleCommit.author.toList := by
  refine ⟨List.all_iff_forall_prop.mp (by decide), by decide, ?_, ?_, ?_⟩
  · exact singleWidth_of_printable (List.all_iff_forall_prop.mp (by decide))
  · exact singleWidth_of_printable (List.all_iff_forall_prop.mp (by decide))
  · exact singleWidth_of_lone (List.all_iff_forall_prop.mp (by decide +kernel))

/-- Two hours later its row ends with the whole age. -/
theorem commit_row_shows_columns_sample :
    ∃ row, (({ commits := [sampleCommit] } : History).draw ⟨7200, 0⟩ 39 1)[0]? = some row ∧
      row.map (·.glyph) = ("4f2c9a1 begin      @Zoë             ".toList
        ++ " 2h".toList).map (fun d => [d]) ∧
      [['2'], ['h']] <:+ row.map (·.glyph) := by
  obtain ⟨ascii, long, id, message, author⟩ := sampleCommit_fits
  obtain ⟨-, row, drawn, -, glyphs, whole⟩ := commit_row_shows_columns
    { commits := [sampleCommit] } rfl ⟨7200, 0⟩ 39 (by decide) 1 0 (by decide) sampleCommit rfl
    ascii long id message author
  exact ⟨row, drawn, glyphs, whole.mpr (by decide)⟩

/-- **After a hundred days the row no longer ends with the age.**  Its unit is cut. -/
theorem old_age_is_cut :
    ((∀ d ∈ sampleCommit.id.toList, d.toNat < 0x80) ∧ 7 ≤ sampleCommit.id.toList.length ∧
      SingleWidth sampleCommit.id.toList ∧ SingleWidth sampleCommit.message.toList ∧
      SingleWidth sampleCommit.author.toList) ∧
    ∃ row, (({ commits := [sampleCommit] } : History).draw ⟨8640000, 0⟩ 39 1)[0]? = some row ∧
      Instant.age ⟨8640000, 0⟩ sampleCommit.date = "100d".toList ∧
      row.map (·.glyph)
        = ("4f2c9a1 begin      @Zoë             100".toList).map (fun d => [d]) ∧
      ¬ ("100d".toList).map (fun d => [d]) <:+ row.map (·.glyph) := by
  refine ⟨sampleCommit_fits, _, rfl, rfl, rfl, ?_⟩
  decide

end History

end RepoBrowser
