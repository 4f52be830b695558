import RepoBrowser.Forge.GitHub
import RepoBrowser.Forge.Gitea
import RepoBrowser.Proofs.Remote.Form

/-!
# Names that are found in remotes

The name that is found in a remote keeps all that stands in front of the last slash, and a forge
wants no other slash in it.

* `GitHub.Refuses`, `Gitea.Refuses` — a name for which nothing is asked, whatever would answer;
* `GitHub.refuses_iff`, `Gitea.refuses_iff` — it is one that cannot be told apart;
* `Remote.IsResolvable`, `Remote.IsUnusable` — the names that can be, and what is wrong with others;
* `Remote.Hostless` — the remotes in which no host stands in front of the path;
* `Remote.inferred_names` — which of all that is true of the name found in a remote.
-/

namespace RepoBrowser.GitHub

open Http

variable {account : Account} {name : String}

/-- A name is not found before anything is sent: however requests are answered, none is. -/
def Refuses (account : Account) (name : String) : Prop :=
  ∀ {m : Type → Type} [Monad m] (transport : Transport m),
    repository account transport name = pure (.error (.notFound name))

/-- A request that cannot be sent does not tell that something is missing. -/
theorem get_offline {α : Type} (account : Account) (read : Json → Except ApiFailure α)
    (route : String) :
    ∃ f, get account (Transport.offline (m := Id)) read route = pure (.error (.other f)) := by
  unfold get
  split
  · exact ⟨.badRoute, rfl⟩
  · exact ⟨.exchange, rfl⟩

/-- **GitHub refuses the names that are not two parts**, and no others. -/
theorem refuses_iff : Refuses account name ↔ ownerAndName? name.toList = none := by
  constructor
  · intro refused
    rw [Option.eq_none_iff_forall_ne_some]
    rintro ⟨owner, repo⟩ divided
    have missing := refused (Transport.offline (m := Id))
    obtain ⟨f, unsent⟩ := get_offline account
      (fun v => orExchange (RepositoryInfo.ofJson? v))
      (repositoryRoute (String.ofList owner) (String.ofList repo))
    simp only [repository, divided, repositoryInfo, unsent, pure_bind] at missing
    have errors : Error.api f = Error.notFound name := Except.error.inj missing
    exact absurd errors (by simp)
  · intro undivided m _ transport
    simp only [repository, undivided]

end RepoBrowser.GitHub

namespace RepoBrowser.Gitea

open Http

variable {server : Server} {name : String}

/-- A name is not found before anything is sent: however requests are answered, none is. -/
def Refuses (server : Server) (name : String) : Prop :=
  ∀ {m : Type → Type} [Monad m] (transport : Transport m),
    repository server transport name = pure (.error (.notFound name))

/-- A request that cannot be sent does not tell that something is missing. -/
theorem getJson_offline {α : Type} (server : Server) (read : Json → Option α) (url : String) :
    ∃ f, getJson server (Transport.offline (m := Id)) read url = pure (.error (.api f)) := by
  unfold getJson get
  split
  · exact ⟨.unbuildable, rfl⟩
  · next u _ =>
    simp only []
    split
    · exact ⟨.unbuildable, rfl⟩
    · exact ⟨.unsent (String.ofList u.text), rfl⟩

/-- **A server refuses the names that are not two parts**, and no others. -/
theorem refuses_iff : Refuses server name ↔ ownerAndName? name.toList = none := by
  constructor
  · intro refused
    rw [Option.eq_none_iff_forall_ne_some]
    rintro ⟨owner, repo⟩ divided
    have missing := refused (Transport.offline (m := Id))
    obtain ⟨f, unsent⟩ := getJson_offline server RepositoryInfo.ofJson?
      (server.url ("/repos/" ++ String.ofList owner ++ "/" ++ String.ofList repo))
    simp only [repository, divided, unsent, pure_bind] at missing
    have errors : Error.api f = Error.notFound name := Except.error.inj missing
    exact absurd errors (by simp)
  · intro undivided m _ transport
    simp only [repository, undivided]

end RepoBrowser.Gitea

namespace RepoBrowser.Remote

open Text

variable {url name : String} {owner repo o r s t : List Char}

/-! ### Names that are told apart -/

/-- A name that a forge can look up: it is told apart into the two parts that it is made of. -/
def IsResolvable (name : String) : Prop :=
  ∃ owner repo : List Char, ownerAndName? name.toList = some (owner, repo) ∧
    name = String.ofList owner ++ "/" ++ String.ofList repo

/-- What keeps a name from being told apart: another slash, or a part with nothing but blanks. -/
def IsUnusable (owner repo : List Char) : Prop :=
  '/' ∈ owner ∨ (∀ c ∈ owner, isBlank c) ∨ ∀ c ∈ repo, isBlank c

theorem ownerAndName?_append (last : '/' ∉ repo) :
    ownerAndName? (owner ++ '/' :: repo) = some (o, r) ↔
      (trimStart owner = o ∧ trimEnd repo = r) ∧ '/' ∉ owner ∧ o ≠ [] ∧ r ≠ [] := by
  have kept : '/' ∉ trimEnd repo := fun slash => last ((trimEnd_isPrefix repo).subset slash)
  rw [ownerAndName?_eq_some_iff, trim_append_cons (by decide)]
  constructor
  · rintro ⟨same, first, single, some_owner, some_repo⟩
    obtain ⟨rfl, rfl⟩ := append_cons_inj kept single same
    exact ⟨⟨rfl, rfl⟩, fun slash => first ((mem_trimStart_iff (by decide)).mpr slash), some_owner,
      some_repo⟩
  · rintro ⟨⟨rfl, rfl⟩, single, some_owner, some_repo⟩
    exact ⟨rfl, fun slash => single ((mem_trimStart_iff (by decide)).mp slash), kept, some_owner,
      some_repo⟩

/-- A name that is made of two parts is refused exactly if one of them is unusable. -/
theorem ownerAndName?_eq_none_iff (last : '/' ∉ repo) :
    ownerAndName? (owner ++ '/' :: repo) = none ↔ IsUnusable owner repo := by
  unfold IsUnusable
  rw [← trimStart_eq_nil_iff, ← trimEnd_eq_nil_iff, Option.eq_none_iff_forall_ne_some]
  constructor
  · intro undivided
    refine Classical.byContradiction fun usable => ?_
    simp only [not_or] at usable
    obtain ⟨single, some_owner, some_repo⟩ := usable
    exact undivided (trimStart owner, trimEnd repo)
      ((ownerAndName?_append last).mpr ⟨⟨rfl, rfl⟩, single, some_owner, some_repo⟩)
  · rintro unusable ⟨o, r⟩ divided
    obtain ⟨⟨rfl, rfl⟩, single, some_owner, some_repo⟩ := (ownerAndName?_append last).mp divided
    rcases unusable with slash | blank | blank
    · exact single slash
    · exact some_owner blank
    · exact some_repo blank

/-- It can be looked up as it stands if there is no other slash and no blank at its ends. -/
theorem isResolvable_iff (last : '/' ∉ repo) (some_owner : owner ≠ []) (some_repo : repo ≠ []) :
    IsResolvable (String.ofList owner ++ "/" ++ String.ofList repo) ↔
      '/' ∉ owner ∧ (∀ c ∈ owner.head?, isBlank c = false) ∧
        ∀ c ∈ repo.getLast?, isBlank c = false := by
  unfold IsResolvable
  rw [← trimStart_eq_self_iff, ← trimEnd_eq_self_iff, ← ofList_append_slash, String.toList_ofList]
  constructor
  · rintro ⟨o, r, divided, same⟩
    obtain ⟨⟨front, behind⟩, single, -, -⟩ := (ownerAndName?_append last).mp divided
    have kept : '/' ∉ r := behind ▸ fun slash => last ((trimEnd_isPrefix repo).subset slash)
    rw [← ofList_append_slash] at same
    obtain ⟨rfl, rfl⟩ := append_cons_inj last kept (String.ofList_injective same)
    exact ⟨single, front, behind⟩
  · rintro ⟨single, front, behind⟩
    refine ⟨owner, repo, ?_, ofList_append_slash owner repo⟩
    exact (ownerAndName?_append last).mpr ⟨⟨front, behind⟩, single, some_owner, some_repo⟩

/-! ### Remotes without a host -/

/-- There is nothing where the host of a remote stands. -/
inductive Hostless : List Char → Prop
  /-- As in `git@:acme/demo`. -/
  | scp (t : List Char) : Hostless (userMark ++ ':' :: t)
  /-- As in `https:///acme/demo`. -/
  | web {k : Scheme} (web : k ≠ .ssh) (t : List Char) : Hostless (k.front ++ '/' :: t)
  /-- As in `ssh:///acme/demo`, `ssh://git@/acme/demo` and `ssh://:22/acme/demo`. -/
  | ssh {t : List Char}
      (empty : (afterLast '@' (beforeMark t)).head? ∈ [none, some '/', some ':']) :
      Hostless (Scheme.ssh.front ++ t)

theorem hostless_userMark_iff : Hostless (userMark ++ t) ↔ t.head? = some ':' := by
  constructor
  · intro hostless
    generalize same : userMark ++ t = remote at hostless
    cases hostless with
    | scp t' =>
      rw [List.append_cancel_left same]
      rfl
    | web => exact absurd same (userMark_append_ne _ _ _)
    | ssh => exact absurd same (userMark_append_ne _ _ _)
  · intro colon
    obtain ⟨t', rfl⟩ := List.head?_eq_some_iff.mp colon
    exact .scp t'

theorem hostless_web_iff {k : Scheme} (web : k ≠ .ssh) :
    Hostless (k.front ++ t) ↔ t.head? = some '/' := by
  constructor
  · intro hostless
    generalize same : k.front ++ t = remote at hostless
    cases hostless with
    | scp => exact absurd same.symm (userMark_append_ne _ _ _)
    | web _ t' =>
      rw [(front_append_inj same).2]
      rfl
    | ssh => exact absurd (front_append_inj same).1 web
  · intro slash
    obtain ⟨t', rfl⟩ := List.head?_eq_some_iff.mp slash
    exact .web web t'

theorem hostless_ssh_iff :
    Hostless (Scheme.ssh.front ++ t) ↔
      (afterLast '@' (beforeMark t)).head? ∈ [none, some '/', some ':'] := by
  constructor
  · intro hostless
    generalize same : Scheme.ssh.front ++ t = remote at hostless
    cases hostless with
    | scp => exact absurd same.symm (userMark_append_ne _ _ _)
    | web web => exact absurd (front_append_inj same).1.symm web
    | ssh empty =>
      rw [(front_append_inj same).2]
      exact empty
  · exact .ssh

/-- What is found where a host is sought is empty if the path, a port or the end follows. -/
theorem hostIn_ssh_eq_nil_iff (s : List Char) :
    Scheme.ssh.hostIn s = [] ↔ (afterLast '@' s).head? ∈ [none, some '/', some ':'] := by
  rw [Scheme.hostIn, before_eq_nil_iff]
  cases afterLast '@' s with
  | nil => simp [before]
  | cons d s => by_cases slash : d = '/' <;> simp [before, slash]

theorem hostIn_web_eq_nil_iff {k : Scheme} (web : k ≠ .ssh) {s : List Char}
    (some_text : s ≠ []) : k.hostIn s = [] ↔ s.head? = some '/' := by
  rw [Scheme.hostIn_web web, before_eq_nil_iff, List.head?_eq_none_iff, or_iff_right some_text]

/-- **A remote in which a path is found has a host**, though there may be nothing in it. -/
theorem exists_host {path : List Char} (found : pathOf? s = some path) :
    ∃ host, hostOf? s = some host ∧ (host = [] ↔ Hostless s) := by
  cases form : form? s with
  | none =>
    rw [pathOf?, form] at found
    exact absurd found (by simp)
  | some f =>
    rcases exists_of_form? form with ⟨t, rfl⟩ | ⟨k, t, rfl⟩
    · obtain ⟨⟨front, behind⟩, divided, -⟩ := Option.map_eq_some_iff.mp found
      have some_text : t ≠ [] := by
        rintro rfl
        exact absurd divided (by simp [cut?])
      refine ⟨before ':' t, hostOf?_userMark t, ?_⟩
      rw [hostless_userMark_iff, before_eq_nil_iff, List.head?_eq_none_iff, or_iff_right some_text]
    · rw [pathOf?_front] at found
      obtain ⟨⟨front, behind⟩, divided, -⟩ := Option.map_eq_some_iff.mp found
      have some_text : beforeMark t ≠ [] := by
        intro empty
        rw [empty] at divided
        exact absurd divided (by simp [cut?])
      refine ⟨k.hostIn (beforeMark t), hostOf?_front k t, ?_⟩
      by_cases shell : k = .ssh
      · rw [shell, hostless_ssh_iff, hostIn_ssh_eq_nil_iff]
      · rw [hostless_web_iff shell, hostIn_web_eq_nil_iff shell some_text,
          head?_beforeMark some_text]

/-- The name does not depend on the host. -/
example : repository? "https:///acme/demo" = some "acme/demo" ∧
    host? "https:///acme/demo" = some "" := ⟨rfl, rfl⟩

/-! ### The name of a remote -/

/-- **The name found in a remote** is an owner and a repository, of which only the owner can have
other slashes in it.  It can be looked up exactly if it has none and no blank at its ends; it is
refused by each forge without being asked for exactly if it has one or one of the parts is blank.
There is a host, which is empty exactly if the remote has none. -/
theorem inferred_names (inferred : repository? url = some name) :
    ∃ owner repo : List Char,
      name = String.ofList owner ++ "/" ++ String.ofList repo ∧
      owner ≠ [] ∧ repo ≠ [] ∧ '/' ∉ repo ∧
      (IsResolvable name ↔ '/' ∉ owner ∧ (∀ c ∈ owner.head?, isBlank c = false) ∧
        ∀ c ∈ repo.getLast?, isBlank c = false) ∧
      (∀ account, GitHub.Refuses account name ↔ IsUnusable owner repo) ∧
      (∀ server, Gitea.Refuses server name ↔ IsUnusable owner repo) ∧
      ∃ host, host? url = some host ∧ (host = "" ↔ Hostless url.toList) := by
  obtain ⟨text, found, rfl⟩ := Option.map_eq_some_iff.mp inferred
  obtain ⟨⟨path, behind, -⟩, owner, repo, rfl, last, some_owner, some_repo⟩ :=
    repositoryOf?_eq_some_iff.mp found
  obtain ⟨host, there, hostless⟩ := exists_host behind
  refine ⟨owner, repo, ofList_append_slash owner repo, some_owner, some_repo, last, ?_, ?_, ?_,
    String.ofList host, ?_, ?_⟩
  · rw [ofList_append_slash]
    exact isResolvable_iff last some_owner some_repo
  · intro account
    rw [GitHub.refuses_iff, String.toList_ofList, ownerAndName?_eq_none_iff last]
  · intro server
    rw [Gitea.refuses_iff, String.toList_ofList, ownerAndName?_eq_none_iff last]
  · rw [host?, there, Option.map_some]
  · rw [← hostless, String.ofList_eq_empty_iff]

/-- A name with nothing wrong in it. -/
theorem inferred_names_sample :
    repository? "git@forge.example:acme/demo.git" = some "acme/demo" ∧ IsResolvable "acme/demo" ∧
      ∃ host, host? "git@forge.example:acme/demo.git" = some host ∧
        (host = "" ↔ Hostless "git@forge.example:acme/demo.git".toList) := by
  have inferred : repository? "git@forge.example:acme/demo.git" = some "acme/demo" := rfl
  obtain ⟨owner, repo, same, -, -, last, resolvable, -, -, host⟩ := inferred_names inferred
  refine ⟨inferred, resolvable.mpr ?_, host⟩
  have parts : "acme".toList ++ '/' :: "demo".toList = owner ++ '/' :: repo := by
    rw [← ofList_append_slash] at same
    exact String.ofList_injective same
  obtain ⟨rfl, rfl⟩ := append_cons_inj (by decide) last parts
  refine ⟨by decide, ?_, ?_⟩
  · rintro c ⟨⟩
    rfl
  · rintro c ⟨⟩
    rfl

/-- A name with one slash too many is found, and refused by every forge. -/
theorem nested_name_is_refused :
    repository? "https://forge.example/group/acme/demo" = some "group/acme/demo" ∧
      ¬ IsResolvable "group/acme/demo" ∧
      (∀ account, GitHub.Refuses account "group/acme/demo") ∧
      ∀ server, Gitea.Refuses server "group/acme/demo" := by
  have undivided : ownerAndName? "group/acme/demo".toList = none := by decide
  refine ⟨rfl, ?_, fun _ => GitHub.refuses_iff.mpr undivided,
    fun _ => Gitea.refuses_iff.mpr undivided⟩
  rintro ⟨owner, repo, divided, -⟩
  rw [undivided] at divided
  exact absurd divided (by simp)

end RepoBrowser.Remote
