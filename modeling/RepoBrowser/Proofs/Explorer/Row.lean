import RepoBrowser.Proofs.Explorer.Size
import RepoBrowser.Proofs.Screen.Filling
import RepoBrowser.Proofs.Screen.Spans

/-!
# The row of an entry

A row of the list has columns for the sign of the entry's kind, the name and the size of a file.
The name has all the columns that are left, and the size has nine.

* `Explorer.beforeSize`, `Explorer.draw_glyphs` — the columns in front of the size, and the row;
* `entry_row_shows_columns` — what is on screen for an entry, and when its whole size is;
* `large_size_is_cut` — the size of a file of 1048000 bytes is not.
-/

namespace RepoBrowser.Explorer

open Text

variable {w rows i : Nat} {e : Entry}

/-! ### The columns -/

/-- What stands in front of the size: the sign and the name, each in its column. -/
def beforeSize (w : Nat) (e : Entry) : List (List Char) :=
  [[e.kind.sign, ' '], [' '], padEnd (w - 13) (shorten (w - 13) (shownName e)), [' ']]

/-- The spans of a row as they are in an area that is wide enough. -/
theorem entrySpans_eq (wide : 23 ≤ w) (isSelected : Bool) (e : Entry) :
    ∃ front last, entrySpans w isSelected e = front ++ [last] ∧
      front.map (·.text) = beforeSize w e ∧ last.text = padStart 9 (shownSize e) := by
  have columns : nameColumns w = w - 13 := Nat.max_eq_left (Nat.le_sub_of_add_le wide)
  unfold entrySpans
  rw [columns]
  exact ⟨[_, _, _, _], _, rfl, rfl, rfl⟩

theorem singleWidth_sign (k : EntryKind) : SingleWidth [k.sign, ' '] := by
  have single : Text.Width.width [k.sign] = 1 := by cases k <;> decide +kernel
  have blank : ∀ c ∈ [' '], IsPrintable c := List.all_iff_forall_prop.mp (by decide)
  exact (singleWidth_singleton single).append_plain fun c hc => (blank c hc).isPlain

theorem shownName_eq (e : Entry) :
    shownName e = e.name.toList ++ if e.kind = .directory then ['/'] else [] := by
  by_cases directory : e.kind = .directory
  · rw [if_pos directory]
    exact if_pos (decide_eq_true directory)
  · rw [if_neg directory, List.append_nil]
    exact if_neg (mt of_decide_eq_true directory)

theorem shownSize_eq (e : Entry) :
    shownSize e = if e.kind = .file then sizeText e.size else [] := by
  unfold shownSize
  cases e.kind <;> rfl

theorem singleWidth_shownName (name : SingleWidth e.name.toList) : SingleWidth (shownName e) := by
  have slash : ∀ c ∈ ['/'], IsPrintable c := List.all_iff_forall_prop.mp (by decide)
  rw [shownName_eq]
  split
  · exact name.append_plain fun c hc => (slash c hc).isPlain
  · rwa [List.append_nil]

theorem singleWidth_of_mem_beforeSize (name : SingleWidth e.name.toList) {text : List Char}
    (ht : text ∈ beforeSize w e) : SingleWidth text := by
  have blank : SingleWidth [' '] := singleWidth_singleton rfl
  unfold beforeSize at ht
  simp only [List.mem_cons, List.not_mem_nil, or_false] at ht
  rcases ht with rfl | rfl | rfl | rfl
  · exact singleWidth_sign e.kind
  · exact blank
  · exact (singleWidth_shownName name).padEnd_shorten _
  · exact blank

/-- The size has the last nine columns. -/
theorem total_beforeSize (wide : 23 ≤ w) (e : Entry) :
    Number.total ((beforeSize w e).map List.length) = w - 9 := by
  have name := padEnd_shorten_length (shownName e) (w := w - 13) (by omega)
  unfold beforeSize
  simp only [List.map_cons, List.map_nil, Number.total_cons, Number.total_nil, List.length_cons,
    List.length_nil, name]
  omega

theorem isPrintable_of_mem_shownSize {c : Char} (hc : c ∈ shownSize e) : IsPrintable c := by
  rw [shownSize_eq] at hc
  split at hc
  · exact isPrintable_of_mem_sizeText hc
  · exact absurd hc List.not_mem_nil

/-! ### The row -/

/-- The rows of the list are those of the entries. -/
theorem rows_getElem? {x : Explorer} (found : x.entries[i]? = some e) (w : Nat) :
    (x.rows w)[i]? = some (entrySpans w (i = x.selected) e) := by
  unfold rows
  rw [List.getElem?_mapIdx, found]
  rfl

theorem rows_length (x : Explorer) (w : Nat) : (x.rows w).length = x.entries.length :=
  List.length_mapIdx

theorem draw_of_closed {x : Explorer} (closed : x.opened = none) (fine : x.error = none)
    (some : x.entries ≠ []) (w rows : Nat) :
    x.draw w rows = listOfRows w rows x.offset x.selected (x.rows w) := by
  unfold draw
  rw [closed, fine]
  exact if_neg (mt List.isEmpty_iff.mp some)

/-- **What stands in the row of an entry.** -/
theorem draw_glyphs {x : Explorer} (closed : x.opened = none) (fine : x.error = none)
    (wide : 23 ≤ w) (low : i < rows)
    (shown : x.entries[windowStart x.offset x.selected x.entries.length rows + i]? = some e)
    (name : SingleWidth e.name.toList) :
    ∃ row, (x.draw w rows)[i]? = some row ∧
      row.map (·.glyph) = (beforeSize w e).flatMap inCells
        ++ ((padStart 9 (shownSize e)).take 9).map fun c => [c] := by
  have some_listed : x.entries ≠ [] := by
    intro none
    rw [none] at shown
    exact nomatch shown
  rw [draw_of_closed closed fine some_listed]
  have item := rows_getElem? shown w
  rw [← x.rows_length w] at item
  obtain ⟨front, last, spans, columns, aligned⟩ := entrySpans_eq wide
    (windowStart x.offset x.selected (x.rows w).length rows + i = x.selected) e
  have sum := total_beforeSize wide e
  rw [spans] at item
  exact listOfRows_table low item columns (fun t => singleWidth_of_mem_beforeSize name)
    (by omega) aligned fun c => isPrintable_of_mem_shownSize

/-- **The size of a file is cut if it has four digits in front of the point.**  In an area of at
least 23 columns the row of an entry on screen fills the width.  In front stand the sign and the
name in all columns that are left, neither of them cut; that of a directory ends with a slash.  The
last nine columns have the size of a file, aligned with the end of the row: the row ends with all of
it exactly if it is told in bytes, or is less than 999.95 of its unit. -/
theorem entry_row_shows_columns (x : Explorer) (closed : x.opened = none) (fine : x.error = none)
    (w : Nat) (wide : 23 ≤ w) (rows i : Nat) (low : i < rows) (e : Entry)
    (shown : x.entries[windowStart x.offset x.selected x.entries.length rows + i]? = some e)
    (name : SingleWidth e.name.toList) :
    ∃ row, (x.draw w rows)[i]? = some row ∧ row.length = w ∧
      row.map (·.glyph) =
        [[e.kind.sign, ' '], [' '],
          padEnd (w - 13) (shorten (w - 13)
            (e.name.toList ++ if e.kind = .directory then ['/'] else [])), [' ']].flatMap inCells
        ++ (((padStart 9 (if e.kind = .file then sizeText e.size else [])).take 9).map
          fun c => [c]) ∧
      (e.kind = .file → ((sizeText e.size).map (fun c => [c]) <:+ row.map (·.glyph) ↔
        e.size < 1024 ∨ 20 * e.size < 19999 * sizeUnit e.size)) := by
  obtain ⟨row, drawn, glyphs⟩ := draw_glyphs closed fine wide low shown name
  obtain ⟨-, fills⟩ := x.draw_fills w rows
  refine ⟨row, drawn, fills row (List.mem_of_getElem? drawn), ?_, fun file => ?_⟩
  · rw [← shownName_eq, ← shownSize_eq]
    exact glyphs
  · obtain ⟨text, told, once⟩ := exists_sizeText_eq e.size
    rw [glyphs, ← sizeText_length_le_iff, shownSize_eq, if_pos file, told]
    exact suffix_lastColumn_iff once (by decide)

/-- An explorer that shows one file of a given size. -/
def showing (size : Nat) : Explorer := { entries := [⟨"notes", "notes", .file, size⟩] }

/-- The row of a file of five mebibytes ends with all of its size. -/
theorem entry_row_shows_columns_sample :
    ∃ row, ((showing 5242880).draw 23 1)[0]? = some row ∧
      row.map (·.glyph) = ("   notes        5.0 MiB".toList).map (fun c => [c]) ∧
      ("5.0 MiB".toList).map (fun c => [c]) <:+ row.map (·.glyph) := by
  obtain ⟨row, drawn, -, glyphs, whole⟩ := entry_row_shows_columns (showing 5242880) rfl rfl 23
    (by decide) 1 0 (by decide) ⟨"notes", "notes", .file, 5242880⟩ rfl
    (singleWidth_of_printable (List.all_iff_forall_prop.mp (by decide)))
  exact ⟨row, drawn, glyphs, (whole rfl).mpr (by decide)⟩

/-- **Of 1023.4 KiB the last letter is cut.** -/
theorem large_size_is_cut :
    SingleWidth "notes".toList ∧ ∃ row, ((showing 1048000).draw 23 1)[0]? = some row ∧
      sizeText 1048000 = "1023.4 KiB".toList ∧
      row.map (·.glyph) = ("   notes      1023.4 Ki".toList).map (fun c => [c]) ∧
      ¬ ("1023.4 KiB".toList).map (fun c => [c]) <:+ row.map (·.glyph) := by
  refine ⟨singleWidth_of_printable (List.all_iff_forall_prop.mp (by decide)), _, rfl, rfl, rfl, ?_⟩
  decide

end RepoBrowser.Explorer
