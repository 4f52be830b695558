import RepoBrowser.Forge.Gitea
import RepoBrowser.Proofs.Forge.Diff
import RepoBrowser.Proofs.Text.Utf8

/-!
# The patches of a commit's files

A commit takes two replies: one lists its files, and the other is their diff.  Each file is to get
its own hunks as its patch, however the lines of the diff read.

A header line `diff --git a/P b/P` does not say where the first path ends.  It is read from its last
` b/` on, so that a path with ` b/` in it is not found again, and a path that is the end of such a
one gets the hunks of both.

* `FileDiff`, `diffLines` — a diff, file by file, as it is written;
* `patches_eq` — what is read of it: the hunks of each file, under the path that is found;
* `Serves`, `get_of_serves` — a server that has a reply at an address;
* `changes_paths`, `patch_of_mem_changes` — the files that are listed, each with its patch;
* `commit_patches` — the files of a commit come in the order of the list, and which of them get
  their own hunks.
-/

namespace RepoBrowser.Diff

open Text

/-! ### Diffs as they are written -/

/-- The beginnings of the lines of hunks. -/
def hunkLineMarks : List (List Char) := [hunkMark, [' '], ['+'], ['-'], ['\\']]

/-- A file in a diff: its path, the lines about it in front of the hunks, and the hunks. -/
structure FileDiff where
  path : List Char
  about : List (List Char)
  hunks : List (List Char)
  path_line : IsLine path
  about_lines : ∀ l ∈ about, IsLine l ∧ ¬ IsHeader l ∧ ¬ hunkMark <+: l
  hunk_lines : ∀ l ∈ hunks, IsLine l ∧ ∃ mark ∈ hunkLineMarks, mark <+: l
  first_hunk : ∀ l ∈ hunks.head?, hunkMark <+: l

namespace FileDiff

variable (f : FileDiff)

/-- The header line with the lines behind it. -/
def part : Part :=
  ⟨headerMark ++ ("a/".toList ++ f.path ++ (newPathMark ++ f.path)), f.about ++ f.hunks⟩

/-- The hunks as one text. -/
def patch : List Char := joinWith ['\n'] f.hunks

theorem part_isHeader : IsHeader f.part.header := List.prefix_append headerMark _

/-- What the header line is found to say of the path. -/
theorem part_path : f.part.path = newPath f.path := by
  have found : Names f.part.header (newPath f.path) := by
    obtain ⟨unmarked, behind⟩ :=
      newPath_eq_iff.mp (newPath_append ("a/".toList ++ f.path) f.path)
    exact ⟨unmarked, _, rfl, behind⟩
  exact (Part.path_eq_iff f.part_isHeader).mpr found

/-- No line of a hunk is a header line. -/
theorem hunk_headerless {l : List Char} (hl : l ∈ f.hunks) : ¬ IsHeader l := by
  obtain ⟨-, mark, hmark, starts⟩ := f.hunk_lines l hl
  intro header
  -- two beginnings of one line are beginnings of one another
  have apart : ∀ mark ∈ hunkLineMarks, ¬ mark <+: headerMark ∧ ¬ headerMark <+: mark := by decide
  rcases Nat.le_total mark.length headerMark.length with shorter | longer
  · exact (apart mark hmark).1 (List.prefix_of_prefix_length_le starts header shorter)
  · exact (apart mark hmark).2 (List.prefix_of_prefix_length_le header starts longer)

/-- The lines in front of the hunks are dropped, and none of the hunks. -/
theorem part_hunks : f.part.hunks = f.hunks := by
  have passed : ∀ l ∈ f.about, decide (¬ hunkMark <+: l) = true := fun l hl =>
    decide_eq_true (f.about_lines l hl).2.2
  unfold Part.hunks part
  rw [List.dropWhile_append_of_pos passed]
  cases same : f.hunks with
  | nil => rfl
  | cons l ls =>
    have begins : hunkMark <+: l := f.first_hunk l (by rw [same]; rfl)
    simp [begins]

end FileDiff

/-- The lines of a diff. -/
def diffLines (files : List FileDiff) : List (List Char) :=
  (files.map FileDiff.part).flatMap Part.lines

variable {files : List FileDiff} {diff : List Char}

/-- A diff is cut where the files are divided. -/
def fileCut (files : List FileDiff) : Cut (diffLines files) where
  front := []
  parts := files.map FileDiff.part
  whole := rfl
  front_headerless := headerless_nil
  headers := by
    intro p hp
    obtain ⟨f, -, rfl⟩ := List.mem_map.mp hp
    exact f.part_isHeader
  bodies_headerless := by
    intro p hp l hl
    obtain ⟨f, -, rfl⟩ := List.mem_map.mp hp
    rcases List.mem_append.mp hl with hl | hl
    · exact (f.about_lines l hl).2.1
    · exact f.hunk_headerless hl

theorem isLine_of_mem_diffLines {l : List Char} (hl : l ∈ diffLines files) : IsLine l := by
  obtain ⟨p, hp, hl⟩ := List.mem_flatMap.mp hl
  obtain ⟨f, -, rfl⟩ := List.mem_map.mp hp
  rcases List.mem_cons.mp hl with rfl | hl
  · have old : IsLine ("a/".toList ++ f.path) := IsLine.append (by decide) f.path_line
    have new : IsLine (newPathMark ++ f.path) := IsLine.append (by decide) f.path_line
    exact IsLine.append (by decide) (old.append new)
  · rcases List.mem_append.mp hl with hl | hl
    · exact (f.about_lines l hl).1
    · exact (f.hunk_lines l hl).1

/-- **What is read of a diff** are the hunks of its files, each under the path that is found. -/
theorem patches_eq (spells : Spells (diffLines files) diff) :
    patches diff = files.map fun f => (newPath f.path, f.patch) := by
  unfold patches sections
  rw [spells.lines_eq fun l => isLine_of_mem_diffLines, (fileCut files).sections_eq, fileCut,
    List.map_map, List.map_map]
  refine List.map_congr_left fun f _ => Prod.ext f.part_path ?_
  show f.part.toSection.patch = f.patch
  rw [Part.toSection_patch, f.part_hunks, FileDiff.patch]

/-- A path with a mark in it has no patch. -/
theorem patchOf?_of_marked (spells : Spells (diffLines files) diff) {path : List Char}
    (marked : newPathMark <:+: path) : patchOf? path (patches diff) = none := by
  rw [Option.eq_none_iff_forall_ne_some]
  intro patch found
  obtain ⟨before, after, same, -⟩ := patchOf?_eq_some_iff.mp found
  have listed : (path, patch) ∈ patches diff := by simp [same]
  rw [patches_eq spells] at listed
  obtain ⟨f, -, pair⟩ := List.mem_map.mp listed
  exact (newPath_eq_iff.mp (Prod.mk.inj pair).1).1 marked

/-- Any other path gets the hunks of the last file whose path ends with it, at the beginning or
behind a mark. -/
theorem patchOf?_of_last {before after : List FileDiff} {f : FileDiff} {path : List Char}
    (spells : Spells (diffLines (before ++ f :: after)) diff) (unmarked : ¬ newPathMark <:+: path)
    (ends : f.path = path ∨ newPathMark ++ path <:+ f.path)
    (last : ∀ g ∈ after, g.path ≠ path ∧ ¬ newPathMark ++ path <:+ g.path) :
    patchOf? path (patches diff) = some f.patch := by
  rw [patches_eq spells, patchOf?_eq_some_iff]
  have found : newPath f.path = path := newPath_eq_iff.mpr ⟨unmarked, ends⟩
  refine ⟨_, _, by rw [List.map_append, List.map_cons, found], fun p hp => ?_⟩
  obtain ⟨g, hg, rfl⟩ := List.mem_map.mp hp
  intro same
  rcases (newPath_eq_iff.mp same).2 with whole | behind
  · exact (last g hg).1 whole
  · exact (last g hg).2 behind

/-- What is taken out are the patches of that path only. -/
theorem patchOf?_without {path other : List Char} (different : path ≠ other)
    (ps : List (List Char × List Char)) :
    patchOf? path (without other ps) = patchOf? path ps := by
  unfold patchOf? without
  rw [← List.filter_reverse]
  induction ps.reverse with
  | nil => rfl
  | cons p ps ih =>
    by_cases same : p.1 = other
    · have missed : (path == p.1) = false := by
        rw [same]
        exact beq_false_of_ne different
      rw [List.filter_cons_of_neg (by simp [same]), ih, List.lookup_cons, missed]
    · rw [List.filter_cons_of_pos (by simp [same]), List.lookup_cons, List.lookup_cons]
      cases path == p.1 with
      | true => rfl
      | false => exact ih

end RepoBrowser.Diff

namespace RepoBrowser.Gitea

open Diff Text Http
open Time (Instant)

/-! ### The files that are listed -/

namespace CommitInfo

variable {infos : List FileInfo}

/-- The files come in the order of the list; what has no path is left out. -/
theorem changes_paths (infos : List FileInfo) (ps : List (List Char × List Char)) :
    (changes infos ps).map (·.path) = infos.filterMap (·.path) := by
  fun_induction changes infos ps with
  | case1 => rfl
  | case2 f fs ps unnamed ih => rw [List.filterMap_cons_none unnamed, ih]
  | case3 f fs ps path named ih => rw [List.map_cons, List.filterMap_cons_some named, ih]

/-- A patch is given out once, so that a path that is listed once gets it. -/
theorem patch_of_mem_changes {ps : List (List Char × List Char)} {c : FileChange}
    (once : (infos.filterMap (·.path)).Nodup) (hc : c ∈ changes infos ps) :
    c.patch = (patchOf? c.path.toList ps).map String.ofList := by
  fun_induction changes infos ps with
  | case1 => exact absurd hc List.not_mem_nil
  | case2 f fs ps unnamed ih =>
    rw [List.filterMap_cons_none unnamed] at once
    exact ih once hc
  | case3 f fs ps path named ih =>
    rw [List.filterMap_cons_some named, List.nodup_cons] at once
    rcases List.mem_cons.mp hc with rfl | later
    · rfl
    · have listed : c.path ∈ fs.filterMap (·.path) :=
        changes_paths fs _ ▸ List.mem_map_of_mem later
      have different : c.path.toList ≠ path.toList := fun same =>
        once.1 (String.toList_injective same ▸ listed)
      rw [ih once.2 later, patchOf?_without different]

end CommitInfo

/-! ### Replies -/

section

variable {m : Type → Type} [Monad m] [LawfulMonad m]
variable {server : Server} {send : Transport m} {url : String} {reply : Reply}

/-- A server has a reply at an address. -/
structure Serves (server : Server) (send : Transport m) (url : String) (reply : Reply) : Prop where
  authorized : isHeaderText ("token " ++ server.token) = true
  sent : ∃ u, Url.parse? url.toList = some u ∧
    send ⟨String.ofList u.authority, String.ofList u.target, "token " ++ server.token⟩
      = pure (.reply reply)
  success : reply.isSuccess = true
  complete : reply.complete = true

theorem get_of_serves (serves : Serves server send url reply) :
    get server send url = pure (.ok reply) := by
  obtain ⟨u, address, sent⟩ := serves.sent
  have found : reply.status ≠ 404 := by
    intro missing
    have success := serves.success
    simp [Reply.isSuccess, missing] at success
  simp [get, address, serves.authorized, sent, found, serves.success]

theorem getJson_of_serves {α : Type} (read : Json → Option α)
    (serves : Serves server send url reply) :
    getJson server send read url = pure (decode read reply) := by
  unfold getJson
  rw [get_of_serves serves, pure_bind]
  rfl

theorem decode_encode {α : Type} {read : Json → Option α} {s : List Char} {a : α}
    (reads : (Json.parse? s).bind read = some a) (status : Nat) (headers : List (String × String)) :
    decode read ⟨status, headers, Utf8.encode s, true⟩ = .ok a := by
  simp [decode, Utf8.decode?_encode, reads]

theorem getText_of_serves (serves : Serves server send url reply) :
    getText server send url = pure (.ok (displayText reply.body)) := by
  unfold getText
  rw [get_of_serves serves, pure_bind]
  simp [Except.bind, serves.complete]

end

/-- A notice in place of a text is no diff. -/
theorem patches_displayText_of_zero {bytes : List UInt8} (zero : 0 ∈ bytes) :
    patches (displayText bytes) = [] := by
  unfold displayText
  rw [if_pos (List.contains_iff_mem.mpr zero)]
  generalize digits : Nat.toDigits 10 bytes.length = ds
  have number : IsLine ds := by
    constructor <;>
    · intro hc
      rw [← digits] at hc
      exact nomatch Nat.isDigit_of_mem_toDigits (by decide) (by decide) hc
  have line : IsLine ("Binary file (".toList ++ ds ++ " bytes) not shown.".toList) :=
    (IsLine.append (by decide) number).append (by decide)
  refine patches_of_headerless fun l hl => ?_
  rw [line.lines_eq (List.cons_ne_nil 'B' _), List.mem_singleton] at hl
  rintro ⟨rest, same⟩
  exact absurd (List.cons.inj (same.trans hl)).1 (by decide)

/-- A text without the character of number zero is shown as it is. -/
theorem displayText_encode {s : List Char} (textual : '\x00' ∉ s) :
    displayText (Utf8.encode s) = s := by
  have zero : (Utf8.encode s).contains 0 = false := by
    rw [← Bool.not_eq_true, List.contains_iff_mem]
    exact mt (Utf8.zero_mem_encode_iff s).mp textual
  unfold displayText
  rw [zero]
  exact Utf8.decodeLossy_encode s

/-- What is read of a reply is the diff, unless the character of number zero is in it. -/
theorem patches_displayText_encode (diff : List Char) :
    patches (displayText (Utf8.encode diff)) = if '\x00' ∈ diff then [] else patches diff := by
  split
  · next zero => exact patches_displayText_of_zero ((Utf8.zero_mem_encode_iff diff).mpr zero)
  · next textual => rw [displayText_encode textual]

/-! ### The answer -/

section

variable {m : Type → Type} [Monad m] [LawfulMonad m]
variable {server : Server} {send : Transport m} {r : Repository} {hash : String}
variable {listing comparison : Reply} {info : CommitInfo}

/-- What is made of the two replies. -/
theorem commit_eq (listed : Serves server send (server.commitUrl r hash) listing)
    (read : decode CommitInfo.ofJson? listing = .ok info)
    (compared : Serves server send (server.diffUrl r hash) comparison) (now : Instant) :
    commit server send now r hash
      = pure (.ok (info.toDetail now hash (displayText comparison.body))) := by
  unfold commit
  rw [getJson_of_serves _ listed, pure_bind, read]
  simp only []
  rw [getText_of_serves compared, pure_bind]

/-- The header line of a file is found to be about a path that its own path ends with. -/
def Covers (f : FileDiff) (path : List Char) : Prop := newPathMark ++ path <:+ f.path

/-- **The files of a commit** come in the order in which they are listed.  A file gets its own hunks
as its patch, as long as there is no ` b/` in its path and no file behind it in the diff covers
it; then it gets the hunks of the last one that does.  With ` b/` in its path it has no patch, and
none has if there is the character of number zero in the diff. -/
theorem commit_patches {paths : List String} {files : List FileDiff} {diff : List Char}
    (listed : Serves server send (server.commitUrl r hash) listing)
    (read : decode CommitInfo.ofJson? listing = .ok info)
    (names : info.files.map (·.path) = paths.map some) (once : paths.Nodup)
    (compared : Serves server send (server.diffUrl r hash) comparison)
    (bytes : comparison.body = Utf8.encode diff) (spells : Spells (diffLines files) diff)
    (same : (files.map fun f => String.ofList f.path).Perm paths) (now : Instant) :
    ∃ d, commit server send now r hash = pure (.ok d) ∧ d.files.map (·.path) = paths ∧
      ∀ c ∈ d.files, ∃ before f after, files = before ++ f :: after ∧ f.path = c.path.toList ∧
        ('\x00' ∈ diff ∨ newPathMark <:+: f.path → c.patch = none) ∧
        ('\x00' ∉ diff → ¬ newPathMark <:+: f.path → (∀ g ∈ after, ¬ Covers g f.path) →
          c.patch = some (String.ofList f.patch)) ∧
        ('\x00' ∉ diff → ¬ newPathMark <:+: f.path → ∀ between g rest,
          after = between ++ g :: rest → Covers g f.path → (∀ k ∈ rest, ¬ Covers k f.path) →
          c.patch = some (String.ofList g.patch)) := by
  have named : info.files.filterMap (·.path) = paths := by
    have present := congrArg (List.filterMap id) names
    rwa [List.filterMap_map, List.filterMap_map, Function.id_comp, Function.id_comp,
      List.filterMap_some] at present
  refine ⟨_, commit_eq listed read compared now, ?_, fun c hc => ?_⟩
  · exact (CommitInfo.changes_paths _ _).trans named
  have patch := CommitInfo.patch_of_mem_changes (named ▸ once) hc
  have member : c.path ∈ paths := named ▸ CommitInfo.changes_paths _ _ ▸ List.mem_map_of_mem hc
  obtain ⟨f, hf, text⟩ := List.mem_map.mp (same.mem_iff.mpr member)
  have path : f.path = c.path.toList := by rw [← text, String.toList_ofList]
  obtain ⟨before, after, rfl⟩ := List.append_of_mem hf
  rw [← path, bytes, patches_displayText_encode] at patch
  have others : ∀ g ∈ after, g.path ≠ f.path := by
    have single := same.nodup_iff.mpr once
    rw [List.map_append, List.map_cons, List.nodup_append, List.nodup_cons] at single
    intro g hg taken
    exact single.2.1.1 (List.mem_map.mpr ⟨g, hg, congrArg String.ofList taken⟩)
  refine ⟨before, f, after, rfl, path, ?_, fun textual unmarked last => ?_,
    fun textual unmarked between g rest behind covers last => ?_⟩
  · rintro (zero | marked)
    · rw [patch, if_pos zero]
      rfl
    · rw [patch]
      split
      · rfl
      · rw [patchOf?_of_marked spells marked]
        rfl
  · rw [patch, if_neg textual,
      patchOf?_of_last spells unmarked (.inl rfl) fun g hg => ⟨others g hg, last g hg⟩]
    rfl
  · rw [behind, ← List.cons_append, ← List.append_assoc] at spells
    have rests : ∀ k ∈ rest, k.path ≠ f.path := fun k hk =>
      others k (behind ▸ List.mem_append_right between (List.mem_cons_of_mem g hk))
    rw [patch, if_neg textual,
      patchOf?_of_last spells unmarked (.inr covers) fun k hk => ⟨rests k hk, last k hk⟩]
    rfl

end

/-! ### Two files, and a path that cannot be told -/

/-- A file with one changed line. -/
def sampleFile (path : List Char) (line : IsLine path) : FileDiff where
  path := path
  about := ["index 1..2 100644".toList]
  hunks := ["@@ -1 +1 @@".toList, "-old".toList, "+new".toList]
  path_line := line
  about_lines := by decide
  hunk_lines := by decide
  first_hunk := by decide

/-- The diff of a file in a library and of some notes. -/
def sampleFiles : List FileDiff :=
  [sampleFile "src/lib.rs".toList (by decide), sampleFile "notes".toList (by decide)]

/-- The list of the two files, in the other order. -/
def sampleListing : List Char :=
  ("\x7b\"files\":[\x7b\"filename\":\"notes\"\x7d,"
    ++ "\x7b\"filename\":\"src/lib.rs\"\x7d]\x7d").toList

/-- The diff of a file whose path has ` b/` in it. -/
def markedFiles : List FileDiff := [sampleFile "my b/x".toList (by decide)]

/-- The list of that file. -/
def markedListing : List Char := "\x7b\"files\":[\x7b\"filename\":\"my b/x\"\x7d]\x7d".toList

/-- What a listing of files without anything else about them says. -/
def infoOf (paths : List String) : CommitInfo where
  id := none
  message := none
  author := none
  date := none
  additions := none
  deletions := none
  total := none
  files := paths.map fun path => ⟨some path, none, none, none⟩

/-- A server on the same machine. -/
def sampleServer : Server := ⟨"[::1]", "t"⟩

/-- A repository on it. -/
def sampleRepository : Repository := ⟨"acme", "demo", none, "", ""⟩

/-- The replies to the requests for a commit: the listing, and all lines of the diff ended. -/
def sampleSend (listing : List Char) (files : List FileDiff) : Transport Id := fun request =>
  let isListing := request.target = "/api/v1/repos/acme/demo/git/commits/4f2c9a1"
  let diff := (diffLines files).flatMap (· ++ ['\n'])
  .reply ⟨200, [], Utf8.encode (if isListing then listing else diff), true⟩

theorem sampleSend_serves_listing (listing : List Char) (files : List FileDiff) :
    Serves sampleServer (sampleSend listing files)
      (sampleServer.commitUrl sampleRepository "4f2c9a1")
      ⟨200, [], Utf8.encode listing, true⟩ where
  authorized := by decide
  sent := ⟨⟨"[::1]".toList, none, "/api/v1/repos/acme/demo/git/commits/4f2c9a1".toList, none, none⟩,
    by decide, by rfl⟩
  success := rfl
  complete := rfl

theorem sampleSend_serves_diff (listing : List Char) (files : List FileDiff) :
    Serves sampleServer (sampleSend listing files)
      (sampleServer.diffUrl sampleRepository "4f2c9a1")
      ⟨200, [], Utf8.encode ((diffLines files).flatMap (· ++ ['\n'])), true⟩ where
  authorized := by decide
  sent := ⟨⟨"[::1]".toList, none, "/api/v1/repos/acme/demo/git/commits/4f2c9a1.diff".toList, none,
    none⟩, by decide, by rfl⟩
  success := rfl
  complete := rfl

/-- Two files get their own hunks, in the order of the list. -/
theorem commit_patches_sample :
    ∃ d, commit sampleServer (sampleSend sampleListing sampleFiles) ⟨0, 0⟩ sampleRepository
        "4f2c9a1" = pure (.ok d) ∧
      d.files.map (·.path) = ["notes", "src/lib.rs"] ∧
      ∀ c ∈ d.files, c.patch = some "@@ -1 +1 @@\n-old\n+new" := by
  have read : (Json.parse? sampleListing).bind CommitInfo.ofJson?
      = some (infoOf ["notes", "src/lib.rs"]) := by rfl
  have names : (infoOf ["notes", "src/lib.rs"]).files.map (·.path)
      = ["notes", "src/lib.rs"].map some := by rfl
  have same : (sampleFiles.map fun f => String.ofList f.path).Perm ["notes", "src/lib.rs"] := by
    decide
  obtain ⟨d, answer, paths, patches⟩ := commit_patches
    (sampleSend_serves_listing sampleListing sampleFiles) (decode_encode read 200 []) names
    (by decide) (sampleSend_serves_diff sampleListing sampleFiles) rfl .ended same ⟨0, 0⟩
  refine ⟨d, answer, paths, fun c hc => ?_⟩
  obtain ⟨before, f, after, whole, path, -, own, -⟩ := patches c hc
  have unmarked : ∀ f ∈ sampleFiles, cutLastAt? newPathMark f.path = none := by decide
  have uncovered : ∀ f ∈ sampleFiles, ∀ g ∈ sampleFiles, ¬ newPathMark ++ f.path <:+ g.path := by
    decide
  have hunks : ∀ f ∈ sampleFiles, f.patch = "@@ -1 +1 @@\n-old\n+new".toList := by decide
  have listed : ∀ g ∈ f :: after, g ∈ sampleFiles := fun g hg =>
    whole ▸ List.mem_append_right before hg
  have hf := listed f List.mem_cons_self
  have last : ∀ g ∈ after, ¬ Covers g f.path := fun g hg =>
    uncovered f hf g (listed g (List.mem_cons_of_mem f hg))
  rw [own (by decide) (cutLastAt?_eq_none_iff.mp (unmarked f hf)) last, hunks f hf,
    String.ofList_toList]

/-- **A path with ` b/` in it has no patch**, although there are hunks for it in the diff. -/
theorem marked_path_has_no_patch :
    ∃ d, commit sampleServer (sampleSend markedListing markedFiles) ⟨0, 0⟩ sampleRepository
        "4f2c9a1" = pure (.ok d) ∧
      d.files.map (fun c => (c.path, c.patch)) = [("my b/x", none)] := by
  have read : (Json.parse? markedListing).bind CommitInfo.ofJson? = some (infoOf ["my b/x"]) := by
    rfl
  refine ⟨_, commit_eq (sampleSend_serves_listing _ _) (decode_encode read 200 [])
    (sampleSend_serves_diff _ _) ⟨0, 0⟩, ?_⟩
  rw [displayText_encode (by decide)]
  rfl

end RepoBrowser.Gitea
