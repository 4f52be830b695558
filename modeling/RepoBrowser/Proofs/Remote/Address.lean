import Mathlib.Data.Bool.AllAny
import RepoBrowser.Config.Reader
import RepoBrowser.Proofs.Config.Choice
import RepoBrowser.Proofs.Remote.Form

/-!
# Addresses of repositories

* `Address` — where a repository is, in one of the shapes in which a remote is written;
* `Address.text` — how it is written;
* `hostOf?_text`, `repositoryOf?_text` — its parts are found in what is written;
* `origin_is_inferred` — so the repository and the forge of a remote are the ones it was made of.
-/

namespace RepoBrowser.Remote

open Text

/-! ### Addresses -/

/-- A part of an address: some text in which nothing is blank and nothing divides an address. -/
structure IsPart (s : List Char) : Prop where
  some_text : s ≠ []
  slashless : '/' ∉ s
  colonless : ':' ∉ s
  atless : '@' ∉ s
  graphic : ∀ c ∈ s, isBlank c = false

/-- Whether a text is a part of an address is seen character by character. -/
theorem isPart_of_all {s : List Char} (some_text : s ≠ [])
    (all : (s.all fun c => c != '/' && c != ':' && c != '@' && !isBlank c) = true) : IsPart s := by
  simp only [List.all_eq_true, Bool.and_eq_true, bne_iff_ne, Bool.not_eq_true'] at all
  exact ⟨some_text, fun h => (all _ h).1.1.1 rfl, fun h => (all _ h).1.1.2 rfl,
    fun h => (all _ h).1.2 rfl, fun c h => (all c h).2⟩

/-- Who signs in to the secure shell. -/
structure User where
  name : List Char
  slashless : '/' ∉ name
  atless : '@' ∉ name

/-- The number of a port. -/
structure Port where
  digits : List Char
  numeric : ∀ c ∈ digits, c.isDigit = true

/-- The shapes in which a remote is written. -/
inductive Shape where
  | scp
  | https
  | http
  | ssh (user : Option User) (port : Option Port)

/-- Where a repository is, and how that is written. -/
structure Address where
  shape : Shape
  host : List Char
  owner : List Char
  name : List Char
  /-- Whether `.git` is written behind the name. -/
  suffixed : Bool
  /-- The slashes at the end. -/
  slashes : Nat
  host_part : IsPart host
  owner_part : IsPart owner
  name_part : IsPart name
  /-- A name of its own that ends in `.git` needs another one behind it. -/
  unsuffixed : suffixed = false → ¬ ".git".toList <:+ name

/-- The user as it is written in front of a host. -/
def userText : Option User → List Char
  | some u => u.name ++ ['@']
  | none => []

/-- The port as it is written behind a host. -/
def portText : Option Port → List Char
  | some p => ':' :: p.digits
  | none => []

theorem slash_notMem_userText (user : Option User) : '/' ∉ userText user := by
  cases user with
  | none => exact List.not_mem_nil
  | some u => simpa [userText] using u.slashless

/-- In front of a text without its mark, the user is what stands before the last one. -/
theorem afterLast_userText (user : Option User) {s : List Char} (h : '@' ∉ s) :
    afterLast '@' (userText user ++ s) = s := by
  cases user with
  | none => exact afterLast_of_notMem h
  | some u =>
    rw [userText, List.append_assoc]
    exact afterLast_append_cons h u.name

theorem notMem_portText (port : Option Port) {c : Char} (colon : c ≠ ':')
    (digit : c.isDigit = false) : c ∉ portText port := by
  cases port with
  | none => exact List.not_mem_nil
  | some p =>
    have numeric : c ∉ p.digits := fun hc => absurd (p.numeric c hc) (by simp [digit])
    simp [portText, colon, numeric]

theorem before_portText (port : Option Port) {host : List Char} (h : ':' ∉ host) :
    before ':' (host ++ portText port) = host := by
  cases port with
  | none => rw [portText, List.append_nil, before_of_notMem h]
  | some p => exact before_append_cons h p.digits

namespace Address

/-- The end of the path. -/
def lastPart (a : Address) : List Char := a.name ++ if a.suffixed then ".git".toList else []

/-- The path of the repository. -/
def path (a : Address) : List Char :=
  (a.owner ++ '/' :: a.lastPart) ++ List.replicate a.slashes '/'

/-- What is written between the scheme and the path of a URL. -/
def authority (a : Address) : List Char :=
  match a.shape with
  | .ssh user port => userText user ++ (a.host ++ portText port)
  | .scp | .https | .http => a.host

/-- An address as it is written. -/
def text (a : Address) : List Char :=
  match a.shape with
  | .scp => userMark ++ (a.host ++ ':' :: a.path)
  | .https => Scheme.https.front ++ (a.authority ++ '/' :: a.path)
  | .http => Scheme.http.front ++ (a.authority ++ '/' :: a.path)
  | .ssh _ _ => Scheme.ssh.front ++ (a.authority ++ '/' :: a.path)

/-- An address as a string. -/
def url (a : Address) : String := String.ofList a.text

variable (a : Address)

/-! ### The path -/

theorem slash_notMem_lastPart : '/' ∉ a.lastPart := by
  unfold lastPart
  split <;> simp [a.name_part.slashless]

theorem notMem_path {c : Char} (owner : c ∉ a.owner) (name : c ∉ a.name) (slash : c ≠ '/')
    (suffix : c ∉ ".git".toList) : c ∉ a.path := by
  have last : c ∉ a.lastPart := by
    unfold lastPart
    split
    · exact fun hc => (List.mem_append.mp hc).elim name suffix
    · rwa [List.append_nil]
  unfold path
  simp [owner, slash, last]

theorem path_head? : a.path.head? ≠ some '/' := by
  obtain ⟨d, rest, same⟩ := List.exists_cons_of_ne_nil a.owner_part.some_text
  have front : d ∈ a.owner := same ▸ List.mem_cons_self
  unfold path
  rw [same]
  rintro ⟨⟩
  exact a.owner_part.slashless front

/-- What is dropped at the end of the path is what was written there beside the name. -/
theorem bare_path : bare a.path = a.owner ++ '/' :: a.name := by
  have some_text : a.lastPart ≠ [] := List.append_ne_nil_of_left_ne_nil a.name_part.some_text _
  unfold bare path
  rw [dropTrailing_append_replicate, dropTrailing_of_getLast?
    (getLast?_append_cons_ne a.slash_notMem_lastPart some_text)]
  unfold lastPart
  cases suffixed : a.suffixed with
  | true =>
    have before : beforeSuffix? ".git".toList (a.owner ++ '/' :: (a.name ++ ".git".toList)) =
        some (a.owner ++ '/' :: a.name) := by
      rw [beforeSuffix?_eq_some_iff, List.append_assoc, List.cons_append]
    rw [if_pos rfl]
    exact congrArg (Option.getD · _) before
  | false =>
    have whole : beforeSuffix? ".git".toList (a.owner ++ '/' :: a.name) = none := by
      rw [Option.eq_none_iff_forall_ne_some]
      intro rest found
      have suffix : ".git".toList <:+ a.owner ++ '/' :: a.name :=
        ⟨rest, (beforeSuffix?_eq_some_iff.mp found).symm⟩
      exact a.unsuffixed suffixed (suffix_of_append_cons (by decide) suffix)
    rw [if_neg Bool.false_ne_true, List.append_nil]
    exact congrArg (Option.getD · _) whole

/-! ### Where the parts are found -/

theorem slash_notMem_authority : '/' ∉ a.authority := by
  have host := a.host_part.slashless
  unfold authority
  split
  · next user port _ =>
    have signed := slash_notMem_userText user
    have numbered : '/' ∉ portText port := notMem_portText port (by decide) (by decide)
    simp [signed, host, numbered]
  all_goals exact host

/-- Everything behind the scheme of a URL is read. -/
theorem beforeMark_rest :
    beforeMark (a.authority ++ '/' :: a.path) = a.authority ++ '/' :: a.path :=
  beforeMark_of_unmarked (unmarked_append_cons a.slash_notMem_authority
    (a.notMem_path a.owner_part.colonless a.name_part.colonless (by decide) (by decide))
    a.path_head?)

theorem pathOf?_text : pathOf? a.text = some a.path := by
  have behind : cut? '/' (a.authority ++ '/' :: a.path) = some (a.authority, a.path) :=
    cut?_append a.slash_notMem_authority a.path
  unfold text
  split
  · rw [pathOf?_userMark, cut?_append a.host_part.colonless]
    rfl
  all_goals
    rw [pathOf?_front, beforeMark_rest, behind]
    rfl

theorem authority_eq_host (plain : ∀ user port, a.shape ≠ .ssh user port) :
    a.authority = a.host := by
  unfold authority
  split
  · next user port shape => exact absurd shape (plain user port)
  all_goals rfl

/-- No user and no port is left of what is written in front of the path. -/
theorem hostIn_ssh (user : Option User) (port : Option Port) :
    Scheme.ssh.hostIn ((userText user ++ (a.host ++ portText port)) ++ '/' :: a.path) =
      a.host := by
  have path : '@' ∉ a.path :=
    a.notMem_path a.owner_part.atless a.name_part.atless (by decide) (by decide)
  have numbered : '@' ∉ portText port := notMem_portText port (by decide) (by decide)
  have slashless : '/' ∉ a.host ++ portText port := by
    simp [a.host_part.slashless, notMem_portText port]
  have signless : '@' ∉ (a.host ++ portText port) ++ '/' :: a.path := by
    simp [a.host_part.atless, numbered, path]
  rw [Scheme.hostIn, List.append_assoc, afterLast_userText user signless,
    before_append_cons slashless, before_portText port a.host_part.colonless]

theorem hostOf?_web {k : Scheme} (web : k ≠ .ssh)
    (plain : ∀ user port, a.shape ≠ .ssh user port) :
    hostOf? (k.front ++ (a.authority ++ '/' :: a.path)) = some a.host := by
  rw [hostOf?_front, beforeMark_rest, a.authority_eq_host plain, Scheme.hostIn_web web,
    before_append_cons a.host_part.slashless]

theorem hostOf?_text : hostOf? a.text = some a.host := by
  unfold text
  split
  · rw [hostOf?_userMark, before_append_cons a.host_part.colonless]
  · next shape => exact a.hostOf?_web (by decide) (by simp [shape])
  · next shape => exact a.hostOf?_web (by decide) (by simp [shape])
  · next user port shape =>
    rw [hostOf?_front, beforeMark_rest]
    unfold authority
    rw [shape]
    exact congrArg some (a.hostIn_ssh user port)

/-- **The name of the repository is found** behind the host, whatever the shape. -/
theorem repositoryOf?_text : repositoryOf? a.text = some (a.owner ++ '/' :: a.name) :=
  repositoryOf?_eq_some_iff.mpr ⟨⟨a.path, a.pathOf?_text, a.bare_path⟩, a.owner, a.name, rfl,
    a.name_part.slashless, a.owner_part.some_text, a.name_part.some_text⟩

/-- The name is told apart again. -/
theorem ownerAndName?_fullName :
    ownerAndName? (a.owner ++ '/' :: a.name) = some (a.owner, a.name) := by
  have front : trimStart a.owner = a.owner := trimStart_eq_self_iff.mpr fun c hc =>
    a.owner_part.graphic c (List.mem_of_head? hc)
  have behind : trimEnd a.name = a.name := trimEnd_eq_self_iff.mpr fun c hc =>
    a.name_part.graphic c (List.mem_of_getLast? hc)
  refine ownerAndName?_eq_some_iff.mpr ⟨?_, a.owner_part.slashless, a.name_part.slashless,
    a.owner_part.some_text, a.name_part.some_text⟩
  rw [trim_append_cons (by decide), front, behind]

end Address

/-! ### The remote of a repository -/

/-- **A repository and its forge are inferred from the remote.**  Whatever the shape in which the
address of a repository is written, its host, its owner and its name are found in it, the name that
is found is one that is told apart into the two, and from all settings that are read a forge is
chosen: the first one at the host, else the first one with the name of the default, else the
first. -/
theorem origin_is_inferred (a : Address) :
    host? a.url = some (String.ofList a.host) ∧
      repository? a.url = some (String.ofList a.owner ++ "/" ++ String.ofList a.name) ∧
      ownerAndName? (String.ofList a.owner ++ "/" ++ String.ofList a.name).toList =
        some (a.owner, a.name) ∧
      ∀ {document : String} {c : Config}, Config.parse? document = some c →
        ∃ f, c.chooseForge none (some a.url) = .ok f ∧
          c.Preferred (some (String.ofList a.host)) f := by
  have host : host? a.url = some (String.ofList a.host) := by
    simp only [host?, Address.url, String.toList_ofList, a.hostOf?_text, Option.map_some]
  refine ⟨host, ?_, ?_, ?_⟩
  · simp only [repository?, Address.url, String.toList_ofList, a.repositoryOf?_text,
      Option.map_some, ofList_append_slash]
  · rw [← ofList_append_slash, String.toList_ofList]
    exact a.ownerAndName?_fullName
  · intro document c read
    have chosen := Config.chooseForge_preferred (Config.forges_ne_nil_of_parse? read) (some a.url)
    rwa [Option.bind_some, host] at chosen

/-- The address of a repository with a long name, with everything that can be written. -/
def sampleAddress : Address where
  shape := .ssh (some ⟨"git".toList, by decide, by decide⟩)
    (some ⟨"2222".toList, List.all_iff_forall_prop.mp (by decide)⟩)
  host := "forge.example".toList
  owner := "acme".toList
  name := "demo.git".toList
  suffixed := true
  slashes := 2
  host_part := isPart_of_all (by decide) (by decide)
  owner_part := isPart_of_all (by decide) (by decide)
  name_part := isPart_of_all (by decide) (by decide)
  unsuffixed := fun plain => absurd plain (by decide)

/-- A forge at another host. -/
def sampleHub : ForgeConfig := ⟨"hub", .github, "github.com", none, none⟩

/-- A forge at the host of the address. -/
def sampleHome : ForgeConfig := ⟨"home", .gitea, "forge.example", none, none⟩

/-- Settings that list the two. -/
def sampleSettings : String :=
  "[[forges]]\nname = \"hub\"\ntype = \"github\"\nhost = \"github.com\"\n\n" ++
    "[[forges]]\nname = \"home\"\ntype = \"gitea\"\nhost = \"forge.example\"\n"

/-- The settings as they are read. -/
def sampleConfig : Config := ⟨none, [sampleHub, sampleHome], {}⟩

/-- The forge at the host is chosen for this address, though it is listed behind another one. -/
theorem origin_is_inferred_sample :
    sampleAddress.url = "ssh://git@forge.example:2222/acme/demo.git.git//" ∧
      host? sampleAddress.url = some "forge.example" ∧
      repository? sampleAddress.url = some "acme/demo.git" ∧
      Config.parse? sampleSettings = some sampleConfig ∧
      sampleConfig.chooseForge none (some sampleAddress.url) = .ok sampleHome ∧
      sampleConfig.Preferred (some "forge.example") sampleHome := by
  have read : Config.parse? sampleSettings = some sampleConfig := by decide +kernel
  obtain ⟨host, repository, -, chosen⟩ := origin_is_inferred sampleAddress
  obtain ⟨f, same, preferred⟩ := chosen read
  have home : sampleConfig.chooseForge none (some sampleAddress.url) = .ok sampleHome := rfl
  obtain rfl : f = sampleHome := Except.ok.inj (same.symm.trans home)
  exact ⟨rfl, host, repository, read, home, preferred⟩

end RepoBrowser.Remote
