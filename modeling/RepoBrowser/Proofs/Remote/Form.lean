import RepoBrowser.Forge.Basic
import RepoBrowser.Proofs.Text.Parts
import RepoBrowser.Remote

/-!
# The forms of a remote

* `Scheme`, `Scheme.front`, `userMark` — what remotes start with;
* `form?_front`, `form?_userMark`, `exists_of_form?` — the form of a remote, told by its start;
* `beforeMark` — the part of an address in which its host and its path are read;
* `hostOf?_front`, `pathOf?_front`, `hostOf?_userMark`, `pathOf?_userMark` — where the host and the
  path of a remote are found;
* `repositoryOf?_eq_some_iff`, `ownerAndName?_eq_some_iff` — names, told by their parts.
-/

namespace RepoBrowser.Remote

open Text

variable {s t url : List Char} {c : Char} {a b : List Char}

/-! ### Starts -/

/-- The schemes of an address. -/
inductive Scheme where
  | https | http | ssh
  deriving DecidableEq

namespace Scheme

/-- The word that names a scheme. -/
def word : Scheme → List Char
  | https => "https".toList
  | http => "http".toList
  | ssh => "ssh".toList

/-- What an address starts with. -/
def front (k : Scheme) : List Char := k.word ++ schemeMark

/-- The form of an address. -/
def form : Scheme → Form
  | https | http => .web
  | ssh => .ssh

end Scheme

/-- What a remote with a colon before its path starts with. -/
def userMark : List Char := "git@".toList

theorem form?_userMark (t : List Char) : form? (userMark ++ t) = some .scp := rfl

theorem form?_front (k : Scheme) (t : List Char) : form? (k.front ++ t) = some k.form := by
  cases k <;> rfl

/-- What has a form starts as that form does. -/
theorem exists_of_form? {f : Form} (h : form? url = some f) :
    (∃ t, url = userMark ++ t) ∨ ∃ (k : Scheme) (t : List Char), url = k.front ++ t := by
  have rest : ∀ {p : List Char}, startsWith url p = true → ∃ t, url = p ++ t := by
    intro p start
    obtain ⟨t, same⟩ := startsWith_iff.mp start
    exact ⟨t, same.symm⟩
  unfold form? at h
  split at h
  · next user => exact .inl (rest user)
  split at h
  · next web =>
    rcases (Bool.or_eq_true _ _).mp web with secure | plain
    · exact .inr ⟨.https, rest secure⟩
    · exact .inr ⟨.http, rest plain⟩
  split at h
  · next shell => exact .inr ⟨.ssh, rest shell⟩
  · exact absurd h (by simp)

/-- No remote has two starts. -/
theorem userMark_append_ne (k : Scheme) (s t : List Char) : userMark ++ s ≠ k.front ++ t := by
  intro same
  have forms := form?_userMark s
  rw [same, form?_front] at forms
  cases k <;> exact absurd forms (by decide)

theorem cutAt?_front (k : Scheme) (t : List Char) :
    cutAt? schemeMark (k.front ++ t) = some (k.word, t) := by
  have colonless : ':' ∉ k.word := by cases k <;> decide
  unfold Scheme.front
  rw [List.append_assoc]
  exact cutAt?_append colonless t

theorem Scheme.word_injective {k l : Scheme} (same : k.word = l.word) : k = l := by
  revert same
  cases k <;> cases l <;> decide

theorem front_append_inj {k l : Scheme} (same : k.front ++ s = l.front ++ t) : k = l ∧ s = t := by
  have cuts := cutAt?_front k s
  rw [same, cutAt?_front, Option.some.injEq, Prod.mk.injEq] at cuts
  exact ⟨(Scheme.word_injective cuts.1).symm, cuts.2.symm⟩

/-! ### The part of an address that is read -/

/-- The text up to the first mark in it, all of it if there is none. -/
def beforeMark (t : List Char) : List Char :=
  match cutAt? schemeMark t with
  | some (front, _) => front
  | none => t

theorem afterScheme?_front (k : Scheme) (t : List Char) :
    afterScheme? (k.front ++ t) = some (beforeMark t) := by
  unfold afterScheme?
  rw [cutAt?_front]
  rfl

theorem beforeMark_of_unmarked (h : ¬ schemeMark <:+: t) : beforeMark t = t := by
  unfold beforeMark
  rw [cutAt?_eq_none_iff.mpr h]

theorem beforeMark_isPrefix (t : List Char) : beforeMark t <+: t := by
  unfold beforeMark
  split
  · next divided =>
    rw [eq_of_cutAt? divided]
    exact List.prefix_append _ _
  · exact List.prefix_rfl

theorem head?_beforeMark (some_text : beforeMark t ≠ []) : (beforeMark t).head? = t.head? := by
  obtain ⟨rest, same⟩ := beforeMark_isPrefix t
  have heads := congrArg List.head? same
  rwa [List.head?_append, List.head?_eq_some_head some_text, Option.some_or,
    ← List.head?_eq_some_head some_text] at heads

/-- There is no mark around the first slash when nothing like it stands behind. -/
theorem unmarked_append_cons (authority : '/' ∉ a) (colonless : ':' ∉ b)
    (step : b.head? ≠ some '/') : ¬ schemeMark <:+: a ++ '/' :: b := by
  induction a with
  | nil =>
    rw [List.nil_append, List.infix_cons_iff, not_or]
    refine ⟨fun start => ?_, fun later => colonless (later.subset List.mem_cons_self)⟩
    exact absurd (List.cons_prefix_cons.mp start).1 (by decide)
  | cons d a ih =>
    rw [List.mem_cons, not_or] at authority
    rw [List.cons_append, List.infix_cons_iff, not_or]
    refine ⟨fun start => ?_, ih authority.2⟩
    have slashes := (List.cons_prefix_cons.mp start).2
    cases a with
    | nil =>
      obtain ⟨r, same⟩ := (List.cons_prefix_cons.mp slashes).2
      exact step (same ▸ rfl)
    | cons e a =>
      have slash := (List.cons_prefix_cons.mp slashes).1
      exact authority.2 (slash ▸ List.mem_cons_self)

/-! ### Hosts and paths -/

theorem before_append_cons (h : c ∉ a) (b : List Char) : before c (a ++ c :: b) = a := by
  unfold before
  induction a with
  | nil => simp
  | cons d a ih =>
    rw [List.mem_cons, not_or] at h
    have other : (d != c) = true := bne_iff_ne.mpr (Ne.symm h.1)
    rw [List.cons_append, List.takeWhile_cons, if_pos other, ih h.2]

theorem before_of_notMem (h : c ∉ s) : before c s = s := by
  unfold before
  induction s with
  | nil => rfl
  | cons d s ih =>
    rw [List.mem_cons, not_or] at h
    have other : (d != c) = true := bne_iff_ne.mpr (Ne.symm h.1)
    rw [List.takeWhile_cons, if_pos other, ih h.2]

theorem before_eq_nil_iff : before c s = [] ↔ s.head? = none ∨ s.head? = some c := by
  cases s with
  | nil => simp [before]
  | cons d s => by_cases h : d = c <;> simp [before, h]

theorem afterLast_append_cons (h : c ∉ b) (a : List Char) : afterLast c (a ++ c :: b) = b := by
  unfold afterLast
  rw [cutLast?_append h]

theorem afterLast_of_notMem (h : c ∉ s) : afterLast c s = s := by
  unfold afterLast
  rw [cutLast?_eq_none_iff.mpr h]

/-- The host in the part of an address that is read. -/
def Scheme.hostIn : Scheme → List Char → List Char
  | https, s | http, s => before '/' s
  | ssh, s => before ':' (before '/' (afterLast '@' s))

theorem Scheme.hostIn_web {k : Scheme} (web : k ≠ .ssh) (s : List Char) :
    k.hostIn s = before '/' s := by
  cases k with
  | https => rfl
  | http => rfl
  | ssh => exact absurd rfl web

theorem hostOf?_userMark (t : List Char) : hostOf? (userMark ++ t) = some (before ':' t) := rfl

theorem pathOf?_userMark (t : List Char) :
    pathOf? (userMark ++ t) = (cut? ':' t).map (·.2) := rfl

theorem hostOf?_front (k : Scheme) (t : List Char) :
    hostOf? (k.front ++ t) = some (k.hostIn (beforeMark t)) := by
  unfold hostOf?
  rw [form?_front, afterScheme?_front]
  cases k <;> rfl

theorem pathOf?_front (k : Scheme) (t : List Char) :
    pathOf? (k.front ++ t) = (cut? '/' (beforeMark t)).map (·.2) := by
  unfold pathOf?
  rw [form?_front, afterScheme?_front]
  cases k <;> rfl

/-! ### Names -/

/-- A name as a string of two. -/
theorem ofList_append_slash (owner repo : List Char) :
    String.ofList (owner ++ '/' :: repo) = String.ofList owner ++ "/" ++ String.ofList repo := by
  rw [List.append_cons, String.ofList_append, String.ofList_append]

/-- **The name found in a remote** is its path without what is dropped at the end, when there is
something on both sides of the last slash. -/
theorem repositoryOf?_eq_some_iff {name : List Char} :
    repositoryOf? url = some name ↔
      (∃ path, pathOf? url = some path ∧ bare path = name) ∧
        ∃ owner repo : List Char,
          name = owner ++ '/' :: repo ∧ '/' ∉ repo ∧ owner ≠ [] ∧ repo ≠ [] := by
  unfold repositoryOf?
  rw [Option.bind_eq_some_iff]
  constructor
  · rintro ⟨path, read, found⟩
    split at found
    · next owner repo divided =>
      rw [Option.ite_none_left_eq_some, Option.some.injEq] at found
      obtain ⟨some_left, rfl⟩ := found
      obtain ⟨same, last⟩ := eq_of_cutLast? divided
      simp only [Bool.or_eq_true, List.isEmpty_iff, not_or] at some_left
      exact ⟨⟨path, read, same⟩, owner, repo, rfl, last, some_left.2, some_left.1⟩
    · exact absurd found (by simp)
  · rintro ⟨⟨path, read, same⟩, owner, repo, rfl, last, some_owner, some_repo⟩
    refine ⟨path, read, ?_⟩
    rw [same, cutLast?_append last]
    simp [some_owner, some_repo]

/-- **A name that is told apart into an owner and a repository** is one slash with something on
both sides. -/
theorem ownerAndName?_eq_some_iff {owner repo : List Char} :
    ownerAndName? s = some (owner, repo) ↔
      trim s = owner ++ '/' :: repo ∧ '/' ∉ owner ∧ '/' ∉ repo ∧ owner ≠ [] ∧ repo ≠ [] := by
  unfold ownerAndName?
  rw [Option.bind_eq_some_iff]
  constructor
  · rintro ⟨⟨front, behind⟩, divided, found⟩
    rw [Option.ite_none_left_eq_some, Option.some.injEq, Prod.mk.injEq] at found
    obtain ⟨accepted, rfl, rfl⟩ := found
    obtain ⟨same, first⟩ := eq_of_cut? divided
    simp only [Bool.or_eq_true, List.isEmpty_iff, List.contains_iff_mem, not_or] at accepted
    obtain ⟨⟨some_owner, some_repo⟩, single⟩ := accepted
    exact ⟨same, first, single, some_owner, some_repo⟩
  · rintro ⟨same, first, single, some_owner, some_repo⟩
    refine ⟨(owner, repo), ?_, ?_⟩
    · rw [same, cut?_append first]
    · simp [some_owner, some_repo, single]

end RepoBrowser.Remote
