import RepoBrowser.History.Basic
import RepoBrowser.Proofs.Pager.Highlight
import RepoBrowser.Proofs.Pager.Text
import RepoBrowser.Proofs.Text.Lines

/-!
# The colours of a commit's changes

The changes of a commit are shown as one text, and each line of it is coloured by its beginning
alone.  Where a line comes from is told by the parts that the text is made of.

* `LineOrigin`, `CommitDetail.parts`, `CommitDetail.originLines` — the lines with their origins;
* `lines_commitText` — these are all lines of the text, in their order;
* `ofPath_diffPath`, `diffStyle_added`, `diffStyle_removed` — a diff, and the colours of its lines;
* `changes_are_coloured` — what is added is green and what is removed is red, unless the line reads
  like one of those that name the file;
* `added_increment_is_gray` — a line that does.
-/

namespace RepoBrowser

open Text

variable {l : List Char} {d : CommitDetail} {f : FileChange}

/-! ### Where lines come from -/

/-- Where a line of the changes of a commit comes from: the lines about the commit, its message, the
numbers of what it changes, and for each file the line about it, the two lines that name it, and its
patch. -/
inductive LineOrigin where
  | heading | message | summary
  | change (f : FileChange) | names (f : FileChange) | patch (f : FileChange)
  deriving DecidableEq, Repr

/-- The two lines that name a file. -/
def nameText (path : List Char) : List Char :=
  ["--- a/".toList ++ path, "+++ b/".toList ++ path].flatMap (· ++ ['\n'])

/-- The parts of a changed file. -/
def FileChange.parts (f : FileChange) : List (LineOrigin × List Char) :=
  (.change f, '\n' :: statusLetter f.status :: ' ' :: f.path.toList ++ " +".toList
      ++ decimal f.additions ++ " -".toList ++ decimal f.deletions ++ ['\n']) ::
    match f.patch with
    | some patch =>
      [(.names f, nameText f.path.toList), (.patch f, withLineBreak patch.toList)]
    | none => []

/-- The parts of a commit. -/
def CommitDetail.parts (d : CommitDetail) : List (LineOrigin × List Char) :=
  (.heading, "commit ".toList ++ d.id.toList ++ "\nAuthor: ".toList ++ d.author.toList ++
      "\nDate:   ".toList ++ d.date.longDate ++ "\n\n".toList) ::
  (.message, messageText d.message.toList) ::
  (.summary, "\n ".toList ++ decimal d.files.length ++ " files changed, ".toList
      ++ decimal d.additions ++ " insertions(+), ".toList ++ decimal d.deletions
      ++ " deletions(-)\n".toList) ::
  d.files.flatMap FileChange.parts

/-- The lines of a commit with their origins. -/
def CommitDetail.originLines (d : CommitDetail) : List (LineOrigin × List Char) :=
  d.parts.flatMap fun part => (lines part.2).map fun l => (part.1, l)

theorem FileChange.parts_flatten (f : FileChange) :
    (f.parts.map (·.2)).flatten = changeText f := by
  unfold parts changeText patchText nameText
  cases f.patch <;> simp

theorem flatten_fileParts (fs : List FileChange) :
    ((fs.flatMap FileChange.parts).map (·.2)).flatten = fs.flatMap changeText := by
  induction fs with
  | nil => rfl
  | cons f fs ih =>
    rw [List.flatMap_cons, List.map_append, List.flatten_append, ih, f.parts_flatten,
      List.flatMap_cons]

/-- The parts make up the text. -/
theorem CommitDetail.parts_flatten (d : CommitDetail) :
    (d.parts.map (·.2)).flatten = commitText d := by
  unfold parts commitText
  simp [flatten_fileParts]

theorem getLast?_withLineBreak (s : List Char) : (withLineBreak s).getLast? = some '\n' := by
  unfold withLineBreak
  split
  · assumption
  · exact List.getLast?_concat

theorem messageText_ended (message : List Char) :
    messageText message = [] ∨ (messageText message).getLast? = some '\n' := by
  unfold messageText
  rcases (lines message).eq_nil_or_concat with none | ⟨front, last, some_left⟩
  · exact .inl (by rw [none]; rfl)
  · refine .inr ?_
    rw [some_left, List.concat_eq_append, List.flatMap_append, List.flatMap_singleton,
      List.getLast?_append, List.getLast?_concat]
    rfl

theorem FileChange.parts_ended {part : LineOrigin × List Char} (hp : part ∈ f.parts) :
    part.2.getLast? = some '\n' := by
  unfold parts at hp
  rcases List.mem_cons.mp hp with rfl | hp
  · exact List.getLast?_concat
  · cases patched : f.patch with
    | none =>
      rw [patched] at hp
      exact absurd hp List.not_mem_nil
    | some patch =>
      simp only [patched, List.mem_cons, List.not_mem_nil, or_false] at hp
      rcases hp with rfl | rfl
      · unfold nameText
        rw [List.flatMap_cons, List.flatMap_singleton, List.getLast?_append, List.getLast?_concat]
        rfl
      · exact getLast?_withLineBreak patch.toList

/-- No two parts share a line. -/
theorem CommitDetail.parts_ended {part : LineOrigin × List Char} (hp : part ∈ d.parts) :
    part.2 = [] ∨ part.2.getLast? = some '\n' := by
  unfold parts at hp
  simp only [List.mem_cons] at hp
  rcases hp with rfl | rfl | rfl | hp
  · exact .inr (by rw [List.getLast?_append]; rfl)
  · exact messageText_ended _
  · exact .inr (by rw [List.getLast?_append]; rfl)
  · obtain ⟨f, -, hp⟩ := List.mem_flatMap.mp hp
    exact .inr (FileChange.parts_ended hp)

/-- **The lines with their origins are all lines of the text**, in their order. -/
theorem lines_commitText (d : CommitDetail) :
    lines (commitText d) = d.originLines.map (·.2) := by
  have ended : ∀ s ∈ d.parts.map (·.2), s = [] ∨ s.getLast? = some '\n' := by
    intro s hs
    obtain ⟨part, hp, rfl⟩ := List.mem_map.mp hs
    exact CommitDetail.parts_ended hp
  rw [← d.parts_flatten, lines_flatten ended, CommitDetail.originLines, List.map_flatMap,
    List.flatMap_map]
  simp [Function.comp_def]

/-! ### The colours of lines -/

theorem diffStyle_plus (s : List Char) :
    diffStyle ('+' :: s)
      = if startsWith ('+' :: s) "+++".toList then .inColour .gray else .inColour .green := by
  unfold diffStyle
  cases startsWith ('+' :: s) "+++".toList <;> rfl

theorem diffStyle_minus (s : List Char) :
    diffStyle ('-' :: s)
      = if startsWith ('-' :: s) "---".toList then .inColour .gray else .inColour .red := by
  unfold diffStyle
  cases startsWith ('-' :: s) "---".toList <;> rfl

theorem diffStyle_blank (s : List Char) : diffStyle (' ' :: s) = .inColour .gray := rfl

/-- A line that begins with a plus is green, unless it begins with three. -/
theorem diffStyle_added (added : ['+'] <+: l) :
    diffStyle (expandTabs l) = .inColour .green ↔ ¬ "+++".toList <+: l := by
  have name : startsWith (expandTabs l) "+++".toList = true ↔ "+++".toList <+: l :=
    startsWith_iff.trans (prefix_expandTabs_iff (by decide) (by decide))
  obtain ⟨s, rfl⟩ := added
  have tight : expandTabs (['+'] ++ s) = '+' :: expandTabs s := rfl
  rw [← name, tight, diffStyle_plus]
  cases startsWith ('+' :: expandTabs s) "+++".toList <;> decide

/-- A line that begins with a minus is red, unless it begins with three. -/
theorem diffStyle_removed (removed : ['-'] <+: l) :
    diffStyle (expandTabs l) = .inColour .red ↔ ¬ "---".toList <+: l := by
  have name : startsWith (expandTabs l) "---".toList = true ↔ "---".toList <+: l :=
    startsWith_iff.trans (prefix_expandTabs_iff (by decide) (by decide))
  obtain ⟨s, rfl⟩ := removed
  have tight : expandTabs (['-'] ++ s) = '-' :: expandTabs s := rfl
  rw [← name, tight, diffStyle_minus]
  cases startsWith ('-' :: expandTabs s) "---".toList <;> decide

/-- The lines that name a file are gray. -/
theorem diffStyle_name (name : "---".toList <+: l ∨ "+++".toList <+: l) :
    diffStyle (expandTabs l) = .inColour .gray := by
  rcases name with ⟨s, rfl⟩ | ⟨s, rfl⟩ <;> rfl

/-- A line that is set in is gray. -/
theorem diffStyle_setIn (setIn : [' '] <+: l) : diffStyle (expandTabs l) = .inColour .gray := by
  obtain ⟨s, rfl⟩ := setIn
  exact diffStyle_blank (expandTabs s)

/-- The changes of a commit are a diff by the name that they are shown under. -/
theorem ofPath_diffPath (id : String) :
    Highlighting.ofPath (History.diffPath id).toList = .diff := by
  unfold History.diffPath Highlighting.ofPath
  rw [String.toList_ofList, List.map_append]
  generalize ((shortId? id).getD []).map Char.toLower = name
  have reversed : ∀ e : List Char, endsWith (name ++ ".diff".toList.map Char.toLower) e
      = (afterPrefix? e.reverse ("ffid.".toList ++ name.reverse)).isSome := by
    intro e
    unfold endsWith beforeSuffix?
    rw [Option.isSome_map, List.reverse_append]
    rfl
  dsimp only
  rw [reversed, reversed, reversed, reversed]
  rfl

/-! ### What is shown -/

/-- A line of a diff as it is shown. -/
def shownLine (l : List Char) : TextLine := ⟨expandTabs l, diffStyle (expandTabs l)⟩

/-- The changes of the commit that is opened are shown line by line. -/
theorem receive_lines {h : History} (opened : h.opened = some d.id) :
    (h.receive (.detailLoaded d)).1.diff.lines = d.originLines.map fun x => shownLine x.2 := by
  have text : (h.receive (.detailLoaded d)).1.diff
      = h.diff.setContent (String.ofList (commitText d)) (History.diffPath d.id) := by
    simp only [History.receive, opened, if_true]
  rw [text, (h.diff.setContent_shows _ _).1, highlight, ofPath_diffPath, String.toList_ofList,
    lines_commitText, Highlighting.style, List.map_map, List.map_map]
  rfl

theorem mem_originLines {o : LineOrigin} :
    (o, l) ∈ d.originLines ↔ ∃ text, (o, text) ∈ d.parts ∧ l ∈ lines text := by
  unfold CommitDetail.originLines
  simp only [List.mem_flatMap, List.mem_map, Prod.mk.injEq, Prod.exists]
  constructor
  · rintro ⟨o', text, hp, l', hl, rfl, rfl⟩
    exact ⟨text, hp, hl⟩
  · rintro ⟨text, hp, hl⟩
    exact ⟨o, text, hp, l, hl, rfl, rfl⟩

theorem originLines_of_patch (hf : f ∈ d.files) {patch : String} (patched : f.patch = some patch)
    (hl : l ∈ lines (withLineBreak patch.toList)) : (LineOrigin.patch f, l) ∈ d.originLines := by
  have part : (LineOrigin.patch f, withLineBreak patch.toList) ∈ f.parts := by
    simp [FileChange.parts, patched]
  refine mem_originLines.mpr ⟨_, ?_, hl⟩
  simp only [CommitDetail.parts, List.mem_cons, List.mem_flatMap]
  exact .inr (.inr (.inr ⟨f, hf, part⟩))

/-- The parts of a file are marked with it. -/
theorem FileChange.mem_parts {o : LineOrigin} {text : List Char} (hp : (o, text) ∈ f.parts) :
    o = .change f ∨ o = .names f ∧ text = nameText f.path.toList ∨ o = .patch f := by
  unfold parts at hp
  cases patched : f.patch with
  | none =>
    simp only [patched, List.mem_singleton, Prod.mk.injEq] at hp
    exact .inl hp.1
  | some patch =>
    simp only [patched, List.mem_cons, Prod.mk.injEq, List.not_mem_nil, or_false] at hp
    rcases hp with ⟨change, -⟩ | names | ⟨patch, -⟩
    · exact .inl change
    · exact .inr (.inl names)
    · exact .inr (.inr patch)

/-- One part is marked as the message. -/
theorem text_of_message {text : List Char} (hp : (LineOrigin.message, text) ∈ d.parts) :
    text = messageText d.message.toList := by
  simp only [CommitDetail.parts, List.mem_cons, Prod.mk.injEq, reduceCtorEq, false_and, true_and,
    false_or, List.mem_flatMap] at hp
  rcases hp with same | ⟨f, -, part⟩
  · exact same
  · have other := FileChange.mem_parts part
    simp at other

/-- What is marked as the lines that name a file consists of these. -/
theorem text_of_names {text : List Char} (hp : (LineOrigin.names f, text) ∈ d.parts) :
    text = nameText f.path.toList := by
  simp only [CommitDetail.parts, List.mem_cons, Prod.mk.injEq, reduceCtorEq, false_and,
    false_or, List.mem_flatMap] at hp
  obtain ⟨g, -, part⟩ := hp
  have names := FileChange.mem_parts part
  simp only [reduceCtorEq, false_or, or_false, LineOrigin.names.injEq] at names
  rw [names.2, names.1]

/-- The lines of the message are set in. -/
theorem setIn_of_message (hl : (LineOrigin.message, l) ∈ d.originLines) : [' '] <+: l := by
  obtain ⟨text, hp, hl⟩ := mem_originLines.mp hl
  have all : text = ((lines d.message.toList).map ("    ".toList ++ ·)).flatMap (· ++ ['\n']) := by
    rw [text_of_message hp, messageText, List.flatMap_map]
  have feedless : ∀ t ∈ (lines d.message.toList).map ("    ".toList ++ ·), '\n' ∉ t := by
    intro t ht
    obtain ⟨m, hm, rfl⟩ := List.mem_map.mp ht
    exact fun feed => (List.mem_append.mp feed).elim (by decide) (notMem_of_mem_lines hm)
  rw [all, lines_ended feedless, List.map_map] at hl
  obtain ⟨m, -, rfl⟩ := List.mem_map.mp hl
  exact (prefix_dropReturn_iff (by decide)).mpr (List.prefix_append [' '] _)

/-- The lines that name a file begin with three dashes or with three plus signs. -/
theorem name_of_names (hl : (LineOrigin.names f, l) ∈ d.originLines)
    (single : '\n' ∉ f.path.toList) : "---".toList <+: l ∨ "+++".toList <+: l := by
  obtain ⟨text, hp, hl⟩ := mem_originLines.mp hl
  have feedless : ∀ t ∈ ["--- a/".toList ++ f.path.toList, "+++ b/".toList ++ f.path.toList],
      '\n' ∉ t := by
    simp only [List.mem_cons, List.not_mem_nil, or_false]
    rintro t (rfl | rfl) feed <;> exact (List.mem_append.mp feed).elim (by decide) single
  rw [text_of_names hp] at hl
  unfold nameText at hl
  rw [lines_ended feedless] at hl
  simp only [List.map_cons, List.map_nil, List.mem_cons, List.not_mem_nil, or_false] at hl
  rcases hl with rfl | rfl
  · exact .inl ((prefix_dropReturn_iff (by decide)).mpr (List.prefix_append "---".toList _))
  · exact .inr ((prefix_dropReturn_iff (by decide)).mpr (List.prefix_append "+++".toList _))

/-- **The colours of the changes.**  All lines are shown in their order.  Of the patch of a file, a
line that begins with a plus is green unless it begins with three, and one that begins with a minus
is red unless it begins with three.  The lines of the message are gray, and so are the two that name
a file, if its path has no line break in it; what stands behind one is a line of its own, and is
coloured by its own beginning. -/
theorem changes_are_coloured (h : History) (d : CommitDetail) (opened : h.opened = some d.id) :
    lines (commitText d) = d.originLines.map (·.2) ∧
    (h.receive (.detailLoaded d)).1.diff.lines = d.originLines.map (fun x => shownLine x.2) ∧
    (∀ f ∈ d.files, ∀ patch, f.patch = some patch → ∀ l ∈ lines (withLineBreak patch.toList),
      (LineOrigin.patch f, l) ∈ d.originLines ∧
      (['+'] <+: l → ((shownLine l).style = .inColour .green ↔ ¬ "+++".toList <+: l)) ∧
      (['-'] <+: l → ((shownLine l).style = .inColour .red ↔ ¬ "---".toList <+: l))) ∧
    (∀ l, (LineOrigin.message, l) ∈ d.originLines → (shownLine l).style = .inColour .gray) ∧
    ∀ f l, (LineOrigin.names f, l) ∈ d.originLines → '\n' ∉ f.path.toList →
      (shownLine l).style = .inColour .gray :=
  ⟨lines_commitText d, receive_lines opened,
    fun _ hf _ patched _ hl => ⟨originLines_of_patch hf patched hl, diffStyle_added,
      diffStyle_removed⟩,
    fun _ hl => diffStyle_setIn (setIn_of_message hl),
    fun _ _ hl single => diffStyle_name (name_of_names hl single)⟩

/-- A change of one line. -/
def FileChange.sample : FileChange where
  path := "notes"
  status := "modified"
  additions := 1
  deletions := 1
  patch := some "@@ -1 +1 @@\n-old\n+new"

/-- A change to a loop that counts up: the new line begins with two plus signs of its own. -/
def FileChange.increment : FileChange where
  path := "loop.c"
  status := "modified"
  additions := 1
  deletions := 0
  patch := some "@@ -1 +1,2 @@\n int i = 0;\n+++i;"

/-- A commit with both changes. -/
def CommitDetail.sample : CommitDetail where
  id := "4f2c9a1"
  message := "count"
  author := "ada"
  date := ⟨0, 0⟩
  additions := 2
  deletions := 1
  total := 3
  files := [.sample, .increment]

/-- What is added and what is removed. -/
theorem changes_are_coloured_sample :
    ∃ ls, (({ opened := some "4f2c9a1" } : History).receive (.detailLoaded .sample)).1.diff.lines
        = ls ∧
      ⟨"+new".toList, .inColour .green⟩ ∈ ls ∧ ⟨"-old".toList, .inColour .red⟩ ∈ ls := by
  obtain ⟨-, shown, patches, -⟩ :=
    changes_are_coloured { opened := some "4f2c9a1" } .sample rfl
  obtain ⟨new, green, -⟩ := patches .sample (by decide) _ rfl "+new".toList (by decide)
  obtain ⟨old, -, red⟩ := patches .sample (by decide) _ rfl "-old".toList (by decide)
  have added : shownLine "+new".toList = ⟨"+new".toList, .inColour .green⟩ :=
    congrArg (TextLine.mk "+new".toList) ((green (by decide)).mpr (by decide))
  have removed : shownLine "-old".toList = ⟨"-old".toList, .inColour .red⟩ :=
    congrArg (TextLine.mk "-old".toList) ((red (by decide)).mpr (by decide))
  refine ⟨_, shown, ?_, ?_⟩
  · exact List.mem_map.mpr ⟨_, new, added⟩
  · exact List.mem_map.mpr ⟨_, old, removed⟩

/-- **An added line that reads like the name of a file is gray.** -/
theorem added_increment_is_gray :
    (LineOrigin.patch .increment, "+++i;".toList) ∈ CommitDetail.sample.originLines ∧
    (({ opened := some "4f2c9a1" } : History).receive (.detailLoaded .sample)).1.diff.lines
      = CommitDetail.sample.originLines.map (fun x => shownLine x.2) ∧
    shownLine "+++i;".toList = ⟨"+++i;".toList, .inColour .gray⟩ :=
  ⟨originLines_of_patch (by decide) rfl (by decide), receive_lines rfl, rfl⟩

end RepoBrowser
