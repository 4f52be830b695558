import RepoBrowser.Proofs.Screen.Paragraph
import RepoBrowser.StatusLine

/-!
# What the status line shows

The value gets the columns that the key, the information and the branch leave.  They are counted in
characters, so that a wide one anywhere in the line pushes the end of it out of the row.

* `Status.cells` — the four parts side by side;
* `Status.isVisible_of_mem_spans`, `Status.singleWidth_of_mem_spans` — what is known of the
  characters of a status holds of the parts;
* `status_row_shows_parts` — when the row is made of the four parts;
* `wide_key_cuts_branch` — a row that is not.
-/

namespace RepoBrowser

open Text

namespace Status

variable {s : Status} {w : Nat} {text : List Char}

/-- The texts that the line is made of. -/
def fields (s : Status) : List (List Char) :=
  [s.key.toList, s.value.toList, s.info.toList, s.branch.toList]

/-- What holds of every character is checked text by text. -/
theorem forall_of_all {P : Char → Prop} [DecidablePred P]
    (all : (s.fields.all fun text => text.all fun c => decide (P c)) = true) :
    ∀ text ∈ s.fields, ∀ c ∈ text, P c := by
  intro text field c hc
  exact of_decide_eq_true (List.all_eq_true.mp (List.all_eq_true.mp all text field) c hc)

/-- The whole key, the value in the columns that are left to it, and the whole information and
branch. -/
def cells (s : Status) (w : Nat) : List (List Char) :=
  (s.spans w).flatMap fun p => inCells p.text

/-- The columns that the other parts leave to the value. -/
def left (s : Status) (w : Nat) : Nat :=
  w - (columns s.keyText + columns s.infoText + columns s.branchText)

/-- The parts of the line consist of characters of the status and of blanks. -/
theorem mem_fields_or_blank {p : Span} (hp : p ∈ s.spans w) {c : Char} (hc : c ∈ p.text) :
    c = ' ' ∨ ∃ text ∈ s.fields, c ∈ text := by
  have taken : c ∈ s.value.toList.take (s.room w) → c ∈ s.value.toList := List.mem_of_mem_take
  simp only [spans, List.mem_cons, List.not_mem_nil, or_false] at hp
  rcases hp with rfl | rfl | rfl | rfl
  · simp only [keyText] at hc
    grind [fields]
  · simp only [valueText, padEnd] at hc
    grind [fields]
  · simp only [infoText] at hc
    grind [fields]
  · simp only [branchText] at hc
    grind [fields]

theorem isVisible_of_mem_spans (visible : ∀ text ∈ s.fields, ∀ c ∈ text, IsVisible c) {p : Span}
    (hp : p ∈ s.spans w) {c : Char} (hc : c ∈ p.text) : IsVisible c := by
  rcases mem_fields_or_blank hp hc with rfl | ⟨text, field, hc⟩
  · decide
  · exact visible text field c hc

/-- A text with a blank on both sides. -/
theorem singleWidth_between (h : SingleWidth text) : SingleWidth (' ' :: text ++ [' ']) :=
  (h.cons (by decide)).append_plain fun _ => isPlain_of_mem_blanks (n := 1)

/-- **Parts of characters that take one column each.** -/
theorem singleWidth_of_mem_spans (single : ∀ text ∈ s.fields, SingleWidth text) {p : Span}
    (hp : p ∈ s.spans w) : SingleWidth p.text := by
  have nothing : SingleWidth [] := singleWidth_of_plain (s := []) (by simp)
  have key : SingleWidth s.key.toList := single _ (by simp [fields])
  have value : SingleWidth s.value.toList := single _ (by simp [fields])
  have info : SingleWidth s.info.toList := single _ (by simp [fields])
  have branch : SingleWidth s.branch.toList := single _ (by simp [fields])
  simp only [spans, List.mem_cons, List.not_mem_nil, or_false] at hp
  rcases hp with rfl | rfl | rfl | rfl
  · exact singleWidth_between key
  · exact ((value.take _).append_plain fun _ => isPlain_of_mem_blanks).cons (by decide)
  · dsimp only [infoText]
    split
    · exact nothing
    · exact singleWidth_between info
  · dsimp only [branchText]
    split
    · exact nothing
    · exact branch.append_plain fun _ => isPlain_of_mem_blanks (n := 1)

theorem valueText_length (s : Status) (w : Nat) : (s.valueText w).length = s.room w + 1 := by
  unfold valueText
  rw [List.length_cons, padEnd_length, List.length_take]
  omega

end Status

namespace StatusLine

/-- **The row of the status line.**  It begins with the key.  As long as the key, the information
and the branch leave a column, it is made of the four parts exactly if the value takes the columns
that are left to it; so it is if every character takes one column. -/
theorem status_row_shows_parts (l : StatusLine) {w h : Nat} (low : 0 < h)
    (visible : ∀ text ∈ l.status.fields, ∀ c ∈ text, IsVisible c)
    (room : columns l.status.keyText + columns l.status.infoText + columns l.status.branchText
      < w) :
    ∃ row, (l.draw w h)[0]? = some row ∧ row.length = w ∧
      inCells l.status.keyText <+: row.map (·.glyph) ∧
      (row.map (·.glyph) = l.status.cells w ↔
        columns (l.status.valueText w) = l.status.left w) ∧
      ((∀ text ∈ l.status.fields, SingleWidth text) → row.map (·.glyph) = l.status.cells w) := by
  have parts : ∀ p ∈ l.status.spans w, ∀ c ∈ p.text, IsVisible c := fun p hp c =>
    Status.isVisible_of_mem_spans visible hp
  have shown : (l.draw w h)[0]? = some (lineRow w baseStyle (l.status.spans w)) := by
    unfold draw paragraph
    rw [getElem?_inArea low, List.getElem?_map, List.getElem?_take_of_lt low]
    rfl
  have full := lineRow_full_iff (w := w) parts baseStyle
  have sum : Number.total ((l.status.spans w).map fun p => columns p.text)
      = columns l.status.keyText + (columns (l.status.valueText w)
        + (columns l.status.infoText + (columns l.status.branchText + 0))) := rfl
  have exact_iff : Number.total ((l.status.spans w).map fun p => columns p.text) = w ↔
      columns (l.status.valueText w) = l.status.left w := by
    unfold Status.left
    omega
  refine ⟨_, shown, rowOfGlyphs_length _ _ _, ?_, full.trans exact_iff, fun single => ?_⟩
  · have fits : columns l.status.keyText + 0 ≤ w := by omega
    have start := prefix_lineRow ((l.status.spans w).take 1) ((l.status.spans w).drop 1) parts fits
      baseStyle
    have only : (((l.status.spans w).take 1).flatMap fun p => inCells p.text)
        = inCells l.status.keyText := List.append_nil _
    rwa [only] at start
  · refine (full.trans exact_iff).mpr ?_
    have count : ∀ p ∈ l.status.spans w, columns p.text = p.text.length := fun p hp =>
      columns_of_singleWidth (Status.singleWidth_of_mem_spans single hp)
    obtain ⟨key, value, info, branch⟩ : columns l.status.keyText = l.status.keyText.length ∧
        columns (l.status.valueText w) = (l.status.valueText w).length ∧
        columns l.status.infoText = l.status.infoText.length ∧
        columns l.status.branchText = l.status.branchText.length := by
      simpa [Status.spans] using count
    have rest := Status.valueText_length l.status w
    unfold Status.left
    unfold Status.room at rest
    omega

/-- The status of a list of commits. -/
def sampleLine : StatusLine where
  status := { key := "demo", value := "begin", info := "1/1", branch := "main" }

/-- In a row of forty columns all parts of it are shown. -/
theorem status_row_shows_parts_sample :
    ∃ row, (sampleLine.draw 40 1)[0]? = some row ∧
      row.map (·.glyph) = sampleLine.status.cells 40 ∧
      (" 1/1 main ".toList.map fun c => [c]) <:+ row.map (·.glyph) := by
  have visible : ∀ text ∈ sampleLine.status.fields, ∀ c ∈ text, IsVisible c :=
    Status.forall_of_all (by decide +kernel)
  have printable : ∀ text ∈ sampleLine.status.fields, ∀ c ∈ text, IsPrintable c :=
    Status.forall_of_all (by decide +kernel)
  obtain ⟨row, shown, -, -, -, whole⟩ :=
    sampleLine.status_row_shows_parts (w := 40) Nat.one_pos visible (by decide +kernel)
  have parts := whole fun text field => singleWidth_of_printable (printable text field)
  refine ⟨row, shown, parts, ?_⟩
  rw [parts]
  decide +kernel

/-- The same with a key of two wide characters. -/
def wideLine : StatusLine where
  status := { sampleLine.status with key := "日本" }

/-- **A wide key pushes the branch out of the row**, although there is room for all of it. -/
theorem wide_key_cuts_branch :
    (∀ text ∈ wideLine.status.fields, ∀ c ∈ text, IsVisible c) ∧
    columns wideLine.status.keyText + columns wideLine.status.infoText
      + columns wideLine.status.branchText < 20 ∧
    ∃ row, (wideLine.draw 20 1)[0]? = some row ∧
      ¬ inCells wideLine.status.infoText ++ inCells wideLine.status.branchText
        <:+ row.map (·.glyph) := by
  refine ⟨Status.forall_of_all (by decide +kernel), by decide +kernel, _, rfl, by decide +kernel⟩

end StatusLine

end RepoBrowser
