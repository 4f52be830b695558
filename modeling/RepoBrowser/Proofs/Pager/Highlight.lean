import Mathlib.Algebra.Ring.Parity
import RepoBrowser.Pager.Highlight
import RepoBrowser.Proofs.Text.Lines
import RepoBrowser.Proofs.Text.Parts

/-!
# Lines and fences

A text is shown line by line, with blanks in the place of tabs.  In Markdown a flag is carried from
line to line, and each fence line turns it over; so what a line is depends on all lines in front of
it, but only on how many of them are fence lines.

* `expandTabs_eq`, `prefix_expandTabs_iff` — tabs are replaced, and what is no blank stays;
* `IsFenceLine`, `isFence_iff`, `isFenceLine_expandTabs` — fence lines, with tabs or blanks;
* `IsMarkdownPath`, `ofPath_eq_markdown_iff` — the files that Markdown is highlighted in;
* `markdownStyle`, `markdownLines_cons`, `markdownLines_append` — the flag behind one line and
  behind any number of lines;
* `fences_enclose_code` — the lines that are shown, and the ones that are code.
-/

namespace RepoBrowser

open Text

variable {l p path : List Char} {fenced : Bool}

/-! ### Tabs -/

/-- What stands between the tabs is put together by four blanks. -/
theorem expandTabs_eq (s : List Char) :
    expandTabs s = joinWith (List.replicate 4 ' ') (pieces '\t' s) := by
  induction s with
  | nil => rfl
  | cons c s ih =>
    have behind : expandTabs (c :: s)
        = (if c = '\t' then [' ', ' ', ' ', ' '] else [c]) ++ expandTabs s := List.flatMap_cons
    rw [behind, pieces_cons, ih]
    split
    · rw [joinWith_nil_cons _ (pieces_ne_nil '\t' s)]
      rfl
    · rw [joinWith_consHead _ _ (pieces_ne_nil '\t' s)]
      rfl

/-- A beginning without blanks and tabs is not changed by the tabs of a line. -/
theorem prefix_expandTabs_iff (blankless : ' ' ∉ p) (tabless : '\t' ∉ p) :
    p <+: expandTabs l ↔ p <+: l := by
  induction p generalizing l with
  | nil => simp
  | cons c p ih =>
    obtain ⟨blank, blankless⟩ := not_or.mp (mt List.mem_cons.mpr blankless)
    obtain ⟨tab, tabless⟩ := not_or.mp (mt List.mem_cons.mpr tabless)
    cases l with
    | nil => exact Iff.rfl
    | cons e l =>
      unfold expandTabs at ih ⊢
      rw [List.flatMap_cons]
      split
      · next same =>
        rw [same]
        simp [List.cons_prefix_cons, Ne.symm blank, Ne.symm tab]
      · rw [List.singleton_append, List.cons_prefix_cons, List.cons_prefix_cons,
          ih blankless tabless]

/-- Tabs at the beginning of a line are blanks, as is what replaces them. -/
theorem trimStart_expandTabs (l : List Char) :
    trimStart (expandTabs l) = expandTabs (trimStart l) := by
  induction l with
  | nil => rfl
  | cons c l ih =>
    by_cases tab : c = '\t'
    · -- The tab is dropped as a blank, and so are the four blanks in its place.
      subst tab
      exact ih
    · have behind : expandTabs (c :: l) = c :: expandTabs l := by simp [expandTabs, tab]
      rw [behind, trimStart_cons, trimStart_cons, ih]
      split
      · rfl
      · exact behind.symm

/-! ### Fence lines -/

/-- A line that opens or closes a block of code: three backquotes at its beginning or behind
blanks. -/
def IsFenceLine (l : List Char) : Prop :=
  ∃ blanks rest, (∀ c ∈ blanks, isBlank c = true) ∧ l = blanks ++ (List.replicate 3 '\x60' ++ rest)

theorem isFence_iff : isFence l = true ↔ IsFenceLine l := by
  unfold isFence
  rw [startsWith_iff]
  constructor
  · rintro ⟨rest, trimmed⟩
    refine ⟨l.takeWhile isBlank, rest, List.all_eq_true.mp List.all_takeWhile, ?_⟩
    have whole : l.takeWhile isBlank ++ trimStart l = l := List.takeWhile_append_dropWhile
    rw [← trimmed] at whole
    exact whole.symm
  · rintro ⟨blanks, rest, white, rfl⟩
    have trimmed : trimStart (blanks ++ (List.replicate 3 '\x60' ++ rest))
        = trimStart blanks ++ (List.replicate 3 '\x60' ++ rest) :=
      trimStart_append_cons (by decide) blanks (['\x60', '\x60'] ++ rest)
    rw [trimmed, trimStart_eq_nil_iff.mpr white]
    exact List.prefix_append _ rest

instance : DecidablePred IsFenceLine := fun _ => decidable_of_iff _ isFence_iff

theorem isFence_expandTabs (l : List Char) : isFence (expandTabs l) = isFence l := by
  unfold isFence
  rw [Bool.eq_iff_iff, trimStart_expandTabs, startsWith_iff, startsWith_iff]
  exact prefix_expandTabs_iff (by decide) (by decide)

theorem isFenceLine_expandTabs : IsFenceLine (expandTabs l) ↔ IsFenceLine l := by
  rw [← isFence_iff, isFence_expandTabs, isFence_iff]

/-- How many of some lines are fence lines. -/
def fenceCount (ls : List (List Char)) : Nat := ls.countP (IsFenceLine ·)

theorem fenceCount_eq (ls : List (List Char)) : fenceCount ls = ls.countP isFence := by
  unfold fenceCount
  refine List.countP_congr fun l _ => ?_
  rw [decide_eq_true_iff, isFence_iff]

theorem fenceCount_expandTabs (ls : List (List Char)) :
    fenceCount (ls.map expandTabs) = fenceCount ls := by
  rw [fenceCount_eq, fenceCount_eq, List.countP_map]
  exact List.countP_congr fun l _ => by rw [Function.comp_apply, isFence_expandTabs]

/-- One more fence line in front makes an odd number even, and an even one odd. -/
theorem odd_fenceCount_cons (l : List Char) (ls : List (List Char)) :
    decide (Odd (fenceCount (l :: ls))) = (isFence l ^^ decide (Odd (fenceCount ls))) := by
  rw [fenceCount_eq, fenceCount_eq, List.countP_cons]
  cases isFence l with
  | false => simp
  | true =>
    rw [if_pos rfl, Bool.true_xor, ← decide_not, decide_eq_decide]
    exact Nat.odd_add_one

/-! ### The names of Markdown files -/

/-- The name of a Markdown file: it ends in `.md` or `.markdown`, in letters of any case. -/
def IsMarkdownPath (path : List Char) : Prop :=
  ∃ stem ending, path = stem ++ ending ∧
    (ending.map Char.toLower = ".md".toList ∨ ending.map Char.toLower = ".markdown".toList)

theorem endsWith_lower_iff {e : List Char} :
    endsWith (path.map Char.toLower) e = true
      ↔ ∃ stem ending, path = stem ++ ending ∧ ending.map Char.toLower = e := by
  unfold endsWith
  rw [Option.isSome_iff_exists]
  simp only [beforeSuffix?_eq_some_iff, List.map_eq_append_iff]
  constructor
  · rintro ⟨_, stem, ending, whole, -, lower⟩
    exact ⟨stem, ending, whole, lower⟩
  · rintro ⟨stem, ending, whole, lower⟩
    exact ⟨_, stem, ending, whole, rfl, lower⟩

theorem ofPath_eq_markdown_iff : Highlighting.ofPath path = .markdown ↔ IsMarkdownPath path := by
  have decided : Highlighting.ofPath path = .markdown ↔
      (endsWith (path.map Char.toLower) ".md".toList
        || endsWith (path.map Char.toLower) ".markdown".toList) = true := by
    unfold Highlighting.ofPath
    dsimp only
    split
    · next markdown => exact iff_of_true rfl markdown
    · next other => split <;> exact iff_of_false (by decide) other
  rw [decided, Bool.or_eq_true, endsWith_lower_iff, endsWith_lower_iff]
  unfold IsMarkdownPath
  simp only [and_or_left, exists_or]

/-! ### Styles in Markdown -/

/-- The style of a line of a Markdown text, which stands between fences if `fenced`. -/
def markdownStyle (fenced : Bool) (l : List Char) : Style :=
  if isFence l then fenceStyle else if fenced then codeStyle else proseStyle l

/-- One line: it is shown in its style, and turns the flag over if it is a fence line. -/
theorem markdownLines_cons (fenced : Bool) (l : List Char) (ls : List (List Char)) :
    markdownLines fenced (l :: ls)
      = ⟨l, markdownStyle fenced l⟩ :: markdownLines (fenced ^^ isFence l) ls := by
  unfold markdownStyle
  rw [markdownLines]
  cases isFence l <;> simp

/-- **Any number of lines**: they turn the flag over if there is an odd number of fence lines among
them. -/
theorem markdownLines_append (fenced : Bool) (before after : List (List Char)) :
    markdownLines fenced (before ++ after)
      = markdownLines fenced before
        ++ markdownLines (fenced ^^ decide (Odd (fenceCount before))) after := by
  -- Behind the first line the flag may have either value.
  induction before generalizing fenced with
  | nil => simp [markdownLines, fenceCount]
  | cons l before ih =>
    rw [List.cons_append, markdownLines_cons, ih, markdownLines_cons, odd_fenceCount_cons,
      Bool.xor_assoc, List.cons_append]

theorem markdownLines_length (fenced : Bool) (ls : List (List Char)) :
    (markdownLines fenced ls).length = ls.length := by
  rw [← List.length_map, markdownLines_text]

/-- A line of a Markdown text with its style. -/
theorem getElem?_markdownLines (before : List (List Char)) (l : List Char)
    (after : List (List Char)) :
    (markdownLines false (before ++ l :: after))[before.length]?
      = some ⟨l, markdownStyle (decide (Odd (fenceCount before))) l⟩ := by
  have inFront : (markdownLines false before).length = before.length :=
    markdownLines_length false before
  rw [markdownLines_append, List.getElem?_append_right (Nat.le_of_eq inFront), inFront,
    Nat.sub_self, markdownLines_cons, Bool.false_xor, List.getElem?_cons_zero]

theorem markdownStyle_of_fence (fence : IsFenceLine l) (fenced : Bool) :
    markdownStyle fenced l = fenceStyle := by
  unfold markdownStyle
  rw [if_pos (isFence_iff.mpr fence)]

theorem markdownStyle_of_not_fence (other : ¬ IsFenceLine l) (fenced : Bool) :
    markdownStyle fenced l = if fenced then codeStyle else proseStyle l := by
  unfold markdownStyle
  rw [if_neg (mt isFence_iff.mp other)]

/-- No line outside of fences is shown like a fence or like code. -/
theorem proseStyle_ne (l : List Char) : proseStyle l ≠ fenceStyle ∧ proseStyle l ≠ codeStyle := by
  unfold proseStyle
  split
  · decide
  · split <;> decide

theorem markdownStyle_eq_fence_iff : markdownStyle fenced l = fenceStyle ↔ IsFenceLine l := by
  by_cases fence : IsFenceLine l
  · exact iff_of_true (markdownStyle_of_fence fence fenced) fence
  · refine iff_of_false ?_ fence
    rw [markdownStyle_of_not_fence fence]
    split
    · decide
    · exact (proseStyle_ne l).1

theorem markdownStyle_eq_code_iff (other : ¬ IsFenceLine l) :
    markdownStyle fenced l = codeStyle ↔ fenced = true := by
  rw [markdownStyle_of_not_fence other]
  cases fenced with
  | false => simp [(proseStyle_ne l).2]
  | true => simp

/-- A style that neither fences nor code have appears outside of fences only. -/
theorem markdownStyle_eq_iff {style : Style} (fence : style ≠ fenceStyle)
    (code : style ≠ codeStyle) :
    markdownStyle fenced l = style
      ↔ ¬ IsFenceLine l ∧ fenced = false ∧ proseStyle l = style := by
  by_cases line : IsFenceLine l
  · rw [markdownStyle_of_fence line]
    exact iff_of_false (Ne.symm fence) fun outside => outside.1 line
  · rw [markdownStyle_of_not_fence line]
    cases fenced with
    | false => simp [line]
    | true => simp [Ne.symm code]

theorem proseStyle_eq_heading_iff : proseStyle l = headingStyle ↔ ['#'] <+: l := by
  rw [← startsWith_iff]
  unfold proseStyle
  cases startsWith l ['#'] with
  | true => simp
  | false => cases startsWith l "> ".toList <;> decide

theorem proseStyle_eq_quote_iff : proseStyle l = quoteStyle ↔ "> ".toList <+: l := by
  rw [← startsWith_iff]
  by_cases heading : startsWith l ['#'] = true
  · obtain ⟨rest, rfl⟩ := startsWith_iff.mp heading
    have shown : proseStyle (['#'] ++ rest) = headingStyle := rfl
    have other : startsWith (['#'] ++ rest) "> ".toList = false := rfl
    rw [shown, other]
    decide
  · unfold proseStyle
    rw [if_neg heading]
    cases startsWith l "> ".toList <;> decide

/-! ### What is shown -/

/-- A line of a Markdown file as it is shown behind other lines. -/
theorem getElem?_highlight {content : List Char} {before after : List (List Char)}
    (markdown : IsMarkdownPath path) (whole : lines content = before ++ l :: after) :
    (highlight content path)[before.length]?
      = some ⟨expandTabs l, markdownStyle (decide (Odd (fenceCount before))) (expandTabs l)⟩ := by
  have shown := getElem?_markdownLines (before.map expandTabs) (expandTabs l)
    (after.map expandTabs)
  rw [List.length_map, fenceCount_expandTabs] at shown
  rw [highlight, ofPath_eq_markdown_iff.mpr markdown, whole, List.map_append, List.map_cons]
  exact shown

/-- **Fences enclose code.**  Each line of a text is shown, in order, with four blanks for each tab.
In a Markdown file exactly the fence lines are shown as such.  Another line is shown as code if and
only if an odd number of fence lines stands in front of it, and it is shown as a heading or a
quotation if and only if that number is even and it begins like one. -/
theorem fences_enclose_code (content path : List Char) :
    (∃ ls, Divided content ls) ∧ ∀ ls, Divided content ls →
      (highlight content path).map (·.text)
        = ls.map (fun l => joinWith (List.replicate 4 ' ') (pieces '\t' l)) ∧
      (IsMarkdownPath path → ∀ before l after, ls = before ++ l :: after →
        ∃ t, (highlight content path)[before.length]? = some t ∧
          (t.style = fenceStyle ↔ IsFenceLine l) ∧
          (¬ IsFenceLine l → (t.style = codeStyle ↔ Odd (fenceCount before))) ∧
          (t.style = headingStyle
            ↔ ¬ IsFenceLine l ∧ Even (fenceCount before) ∧ ['#'] <+: t.text) ∧
          (t.style = quoteStyle
            ↔ ¬ IsFenceLine l ∧ Even (fenceCount before) ∧ "> ".toList <+: t.text)) := by
  refine ⟨⟨lines content, divided_iff.mpr rfl⟩, fun ls divided => ?_⟩
  obtain rfl := divided.lines_eq
  refine ⟨?_, fun markdown before l after whole => ?_⟩
  · rw [highlight, style_text]
    exact List.map_congr_left fun l _ => expandTabs_eq l
  · have outside : decide (Odd (fenceCount before)) = false ↔ Even (fenceCount before) := by
      rw [decide_eq_false_iff_not, Nat.not_odd_iff_even]
    refine ⟨_, getElem?_highlight markdown whole, ?_, fun other => ?_, ?_, ?_⟩
    · rw [markdownStyle_eq_fence_iff, isFenceLine_expandTabs]
    · rw [markdownStyle_eq_code_iff (mt isFenceLine_expandTabs.mp other), decide_eq_true_iff]
    · rw [markdownStyle_eq_iff (by decide) (by decide), isFenceLine_expandTabs, outside,
        proseStyle_eq_heading_iff]
    · rw [markdownStyle_eq_iff (by decide) (by decide), isFenceLine_expandTabs, outside,
        proseStyle_eq_quote_iff]

/-- The lines of some notes: a heading, a block of code that begins with what reads like another
one, and a quotation. -/
def sampleLines : List (List Char) :=
  ["# Use".toList, "\t\x60\x60\x60sh".toList, "# \trun".toList, "  \x60\x60\x60".toList,
    "> Done".toList]

/-- The notes, with a carriage return in front of one line feed and no line feed at the end. -/
def sampleNotes : List Char :=
  "# Use\r\n\t\x60\x60\x60sh\n# \trun\n  \x60\x60\x60\n> Done".toList

/-- What reads like a heading is code between fences, and what reads like a quotation behind them
is one. -/
theorem fences_enclose_code_sample :
    Divided sampleNotes sampleLines ∧ IsMarkdownPath "NOTES.MarkDown".toList ∧
    (highlight sampleNotes "NOTES.MarkDown".toList)[2]?
      = some ⟨"#     run".toList, codeStyle⟩ ∧
    (highlight sampleNotes "NOTES.MarkDown".toList)[4]? = some ⟨"> Done".toList, quoteStyle⟩ := by
  have divided : Divided sampleNotes sampleLines := divided_iff.mpr (by decide)
  have markdown : IsMarkdownPath "NOTES.MarkDown".toList :=
    ⟨"NOTES".toList, ".MarkDown".toList, by decide, .inr (by decide)⟩
  obtain ⟨texts, styled⟩ := (fences_enclose_code sampleNotes "NOTES.MarkDown".toList).2 _ divided
  obtain ⟨run, shownRun, -, runCode, -⟩ := styled markdown (sampleLines.take 2) "# \trun".toList
    (sampleLines.drop 3) rfl
  obtain ⟨done, shownDone, -, -, -, doneQuote⟩ := styled markdown (sampleLines.take 4)
    "> Done".toList [] rfl
  have runText : some run.text = some "#     run".toList := by
    rw [← Option.map_some, ← shownRun, ← List.getElem?_map, texts]
    rfl
  have doneText : some done.text = some "> Done".toList := by
    rw [← Option.map_some, ← shownDone, ← List.getElem?_map, texts]
    rfl
  have runStyle : run.style = codeStyle := (runCode (by decide)).mpr (by decide)
  have doneStyle : done.style = quoteStyle :=
    doneQuote.mpr ⟨by decide, by decide, Option.some.inj doneText ▸ by decide⟩
  refine ⟨divided, markdown, ?_, ?_⟩
  · rw [← Option.some.inj runText, ← runStyle]
    exact shownRun
  · rw [← Option.some.inj doneText, ← doneStyle]
    exact shownDone

end RepoBrowser
