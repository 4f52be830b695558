import RepoBrowser.Forge.GitHub
import RepoBrowser.Forge.Gitea
import RepoBrowser.Proofs.Text.Parts
import RepoBrowser.Proofs.Text.Percent

/-!
# Paths in routes

A path in a repository is any text, and becomes part of a route.  Its steps are encoded one by one
and keep their slashes, and steps that are empty are left out.

* `pathParts_encodePath` — the parts of an encoded path are the encoded steps;
* `encodePath_eq_iff`, `encodePath_eq_nil_iff` — paths of different steps stay different;
* `Leads`, `leads_of_eq` — routes that are told apart by the steps of a path, and that no path ends
  or gives a query to;
* `paths_told_apart` — all this of the two forges.
-/

namespace RepoBrowser

open Text

variable {path other : List Char}

/-! ### Steps and parts -/

/-- The parts of a path between its slashes; an empty path has none. -/
def pathParts (path : List Char) : List (List Char) := if path = [] then [] else pieces '/' path

theorem of_mem_pathSteps {p : List Char} (hp : p ∈ pathSteps path) : p ≠ [] ∧ '/' ∉ p := by
  obtain ⟨piece, some_left⟩ := List.mem_filter.mp hp
  exact ⟨by simpa using some_left, notMem_of_mem_pieces piece⟩

theorem slash_notMem_encode (s : List Char) : '/' ∉ Percent.encode s := by
  intro slash
  exact absurd (Percent.forall_mem_encode s '/' slash) (by decide)

/-- **The parts of an encoded path are its encoded steps.** -/
theorem pathParts_encodePath (path : List Char) :
    pathParts (encodePath path) = (pathSteps path).map Percent.encode := by
  have some_left : ∀ p ∈ (pathSteps path).map Percent.encode, p ≠ [] := by
    intro p hp
    obtain ⟨s, hs, rfl⟩ := List.mem_map.mp hp
    exact mt Percent.encode_eq_nil_iff.mp (of_mem_pathSteps hs).1
  have undivided : ∀ p ∈ (pathSteps path).map Percent.encode, '/' ∉ p := by
    intro p hp
    obtain ⟨s, -, rfl⟩ := List.mem_map.mp hp
    exact slash_notMem_encode s
  unfold pathParts encodePath
  split
  · next empty => exact ((joinWith_eq_nil_iff some_left).mp empty).symm
  · next some_part =>
    exact pieces_joinWith undivided (mt (joinWith_eq_nil_iff some_left).mpr some_part)

/-- The steps can be read from an encoded path. -/
theorem decode_pathParts (path : List Char) :
    (pathParts (encodePath path)).map (fun part => Utf8.decode? (Percent.decode part))
      = (pathSteps path).map some := by
  rw [pathParts_encodePath, List.map_map]
  exact List.map_congr_left fun s _ => Percent.decode?_decode_encode s

theorem encodePath_eq_iff :
    encodePath path = encodePath other ↔ pathSteps path = pathSteps other := by
  constructor
  · intro same
    have read := decode_pathParts path
    rw [same, decode_pathParts other] at read
    exact ((List.map_inj_right fun s t => Option.some.inj).mp read).symm
  · intro same
    unfold encodePath
    rw [same]

theorem encodePath_eq_nil_iff : encodePath path = [] ↔ pathSteps path = [] := by
  have root : encodePath [] = [] := rfl
  rw [← root]
  exact encodePath_eq_iff

/-- What an encoded path is made of. -/
theorem forall_mem_encodePath (path : List Char) :
    ∀ c ∈ encodePath path, c.isAlphanum = true ∨ c ∈ '/' :: Percent.marks := by
  intro c hc
  rcases mem_joinWith hc with slash | ⟨p, hp, hc⟩
  · exact .inr (List.mem_singleton.mp slash ▸ List.mem_cons_self)
  · obtain ⟨s, -, rfl⟩ := List.mem_map.mp hp
    exact (Percent.forall_mem_encode s c hc).imp id (List.mem_cons_of_mem '/')

/-! ### Routes -/

/-- Routes to paths, with the same text in front of what a path adds and behind it: only the root
adds nothing, the steps of a path tell the routes apart, and what is added neither ends the path of
the route nor begins a query. -/
structure Leads (front back : String) (route : String → String) : Prop where
  root : ∀ path, route path = front ++ back ↔ pathSteps path.toList = []
  apart : ∀ path other, route path = route other ↔ pathSteps path.toList = pathSteps other.toList
  inert : ∀ path, ∃ added, route path = front ++ added ++ back ∧
    '?' ∉ added.toList ∧ '#' ∉ added.toList

/-- What a path adds to a route. -/
def addedBy (path : String) : String :=
  if (encodePath path.toList).isEmpty then "" else "/" ++ String.ofList (encodePath path.toList)

theorem toList_addedBy (path : String) :
    (addedBy path).toList
      = if encodePath path.toList = [] then [] else '/' :: encodePath path.toList := by
  unfold addedBy
  simp only [List.isEmpty_iff]
  split
  · rfl
  · simp only [String.toList_append, String.toList_ofList]
    rfl

theorem addedBy_eq_iff {path other : String} :
    addedBy path = addedBy other ↔ pathSteps path.toList = pathSteps other.toList := by
  rw [← encodePath_eq_iff, ← String.toList_inj, toList_addedBy, toList_addedBy]
  split
  · next empty =>
    rw [empty]
    split
    · next none => exact iff_of_true rfl none.symm
    · next some => exact iff_of_false (List.cons_ne_nil '/' _).symm (Ne.symm some)
  · next some_left =>
    split
    · next none => exact iff_of_false (List.cons_ne_nil '/' _) (none ▸ some_left)
    · exact List.cons_inj_right '/'

/-- A mark that is not written is not added either. -/
theorem notMem_addedBy {c : Char} (unwritten : ¬ (c.isAlphanum = true ∨ c ∈ '/' :: Percent.marks))
    (path : String) : c ∉ (addedBy path).toList := by
  intro hc
  rw [toList_addedBy] at hc
  split at hc
  · exact absurd hc List.not_mem_nil
  · rcases List.mem_cons.mp hc with rfl | hc
    · exact unwritten (.inr List.mem_cons_self)
    · exact unwritten (forall_mem_encodePath path.toList c hc)

theorem leads_of_eq {front back : String} {route : String → String}
    (same : ∀ path, route path = front ++ addedBy path ++ back) : Leads front back route := by
  have apart : ∀ path other, route path = route other ↔ addedBy path = addedBy other := by
    intro path other
    rw [same, same, ← String.toList_inj, ← String.toList_inj]
    simp only [String.toList_append]
    rw [List.append_cancel_right_eq, List.append_cancel_left_eq]
  have root : route "" = front ++ back := by
    rw [same]
    exact congrArg (· ++ back) String.append_empty
  constructor
  · intro path
    rw [← root, apart, addedBy_eq_iff]
    rfl
  · exact fun path other => (apart path other).trans addedBy_eq_iff
  · exact fun path => ⟨addedBy path, same path, notMem_addedBy (by decide) path,
      notMem_addedBy (by decide) path⟩

/-! ### The two forges -/

theorem contentsRoute_leads (r : Repository) :
    Leads (GitHub.repositoryRoute r.owner r.name ++ "/contents") "" (GitHub.contentsRoute r) :=
  leads_of_eq fun _ => String.append_empty.symm

/-- The query for a reference, if there is one. -/
def referenceQuery : Option String → String
  | some t => "?ref=" ++ String.ofList (Percent.encode t.toList)
  | none => ""

theorem directoryUrl_leads (server : Gitea.Server) (r : Repository) (target : Option String) :
    Leads (server.repositoryUrl r "/contents") (referenceQuery target)
      fun path => server.directoryUrl r path target := by
  refine leads_of_eq fun path => ?_
  cases target <;> simp only [Gitea.Server.directoryUrl, Gitea.Server.repositoryUrl,
    Gitea.Server.url, addedBy, referenceQuery, String.append_assoc]

/-- **Paths are told apart** by the text of the routes that are built from them.  An encoded path is
made of ASCII letters and digits, slashes and five marks, and its parts are read as the steps of the
path in their order; so it is the same exactly for paths of the same steps, and empty exactly for a
path of none.  The routes of both forges are the root exactly for a path of no steps, are otherwise
told apart by the steps, and cannot be ended or given a query by a path.

This is about a route before it is parsed.  The steps `.` and `..` are encoded as they are, and
`Url.normalPath` resolves them afterwards: the routes of `a/../b` and `b` differ, and what is asked
for does not. -/
theorem paths_told_apart (path other : String) (r : Repository) (server : Gitea.Server)
    (target : Option String) :
    (∀ c ∈ encodePath path.toList,
      c.isAlphanum = true ∨ c ∈ ['-', '_', '.', '~', '%', '/']) ∧
    (pathParts (encodePath path.toList)).map (fun part => Utf8.decode? (Percent.decode part))
      = (pathSteps path.toList).map some ∧
    (encodePath path.toList = encodePath other.toList
      ↔ pathSteps path.toList = pathSteps other.toList) ∧
    (encodePath path.toList = [] ↔ pathSteps path.toList = []) ∧
    Leads (GitHub.repositoryRoute r.owner r.name ++ "/contents") "" (GitHub.contentsRoute r) ∧
    Leads (server.repositoryUrl r "/contents") (referenceQuery target)
      (fun path => server.directoryUrl r path target) := by
  have characters : ∀ c, c ∈ '/' :: Percent.marks → c ∈ ['-', '_', '.', '~', '%', '/'] := by
    intro c hc
    rw [List.mem_cons] at hc
    exact List.mem_append.mpr (hc.symm.imp id List.mem_singleton.mpr)
  exact ⟨fun c hc => (forall_mem_encodePath _ c hc).imp id (characters c),
    decode_pathParts _, encodePath_eq_iff, encodePath_eq_nil_iff, contentsRoute_leads r,
    directoryUrl_leads server r target⟩

/-- Blanks are escaped and slashes kept, but for those that make an empty step. -/
example : encodePath "/src//main file?.rs".toList = "src/main%20file%3F.rs".toList := by decide

end RepoBrowser
