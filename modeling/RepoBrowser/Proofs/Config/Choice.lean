import RepoBrowser.Config.Basic

/-!
# The forge to use

* `IsFirst`, `isFirst_of_find?` — the first forge of which something is true, and a search for it;
* `Preferred` — the forge that is to be used for a host, said without searching for it;
* `chooseForge_preferred` — it is the one that is chosen when none is asked for by name;
* `chooseForge_congr` — of a remote nothing matters but the forge at its host.
-/

namespace RepoBrowser.Config

variable {c : Config} {f : ForgeConfig} {forges : List ForgeConfig}

/-- The first of some forges of which something is true. -/
def IsFirst (P : ForgeConfig → Prop) (forges : List ForgeConfig) (f : ForgeConfig) : Prop :=
  ∃ before after, forges = before ++ f :: after ∧ P f ∧ ∀ g ∈ before, ¬ P g

/-! ### Searching by a key -/

section

variable {key : ForgeConfig → String} {wanted : Option String}

/-- What is found for a key that is wanted is the first forge that has it. -/
theorem isFirst_of_find?
    (found : (wanted.bind fun w => forges.find? fun g => key g == w) = some f) :
    IsFirst (fun g => wanted = some (key g)) forges f := by
  obtain ⟨w, rfl, found⟩ := Option.bind_eq_some_iff.mp found
  obtain ⟨here, before, after, same, earlier⟩ := List.find?_eq_some_iff_append.mp found
  refine ⟨before, after, same, congrArg some (eq_of_beq here).symm, fun g hg there => ?_⟩
  have passed := earlier g hg
  rw [Option.some.inj there, beq_self_eq_true] at passed
  exact absurd passed (by decide)

/-- If nothing is found, no forge has it. -/
theorem forall_of_find?_eq_none
    (missing : (wanted.bind fun w => forges.find? fun g => key g == w) = none) :
    ∀ g ∈ forges, wanted ≠ some (key g) := by
  rintro g hg rfl
  exact List.find?_eq_none.mp missing g hg (beq_self_eq_true _)

end

/-! ### The choice -/

/-- The forge to use for a host: the first one there, else the first one with the name of the
default, else the first. -/
inductive Preferred (c : Config) (host : Option String) (f : ForgeConfig) : Prop
  | atHost (there : IsFirst (fun g => host = some g.host) c.forges f)
  | byDefault (elsewhere : ∀ g ∈ c.forges, host ≠ some g.host)
      (named : IsFirst (fun g => c.defaultForge = some g.name) c.forges f)
  | byOrder (elsewhere : ∀ g ∈ c.forges, host ≠ some g.host)
      (unnamed : ∀ g ∈ c.forges, c.defaultForge ≠ some g.name) (first : c.forges.head? = some f)

/-- **The forge that is preferred is chosen**, as long as there is any. -/
theorem chooseForge_preferred (some_forge : c.forges ≠ []) (remote : Option String) :
    ∃ f, c.chooseForge none remote = .ok f ∧ Preferred c (remote.bind Remote.host?) f := by
  have chosen : ∀ f, c.inferForge? remote = some f → c.chooseForge none remote = .ok f := by
    intro f same
    simp only [chooseForge, same]
  cases there : (remote.bind Remote.host?).bind c.forgeAt? with
  | some f =>
    refine ⟨f, chosen f ?_, .atHost (isFirst_of_find? there)⟩
    rw [inferForge?, there, Option.some_or]
  | none =>
    have elsewhere := forall_of_find?_eq_none there
    cases named : c.defaultForge.bind c.forgeNamed? with
    | some f =>
      refine ⟨f, chosen f ?_, .byDefault elsewhere (isFirst_of_find? named)⟩
      rw [inferForge?, there, named, Option.none_or, Option.some_or]
    | none =>
      obtain ⟨f, rest, forges⟩ := List.exists_cons_of_ne_nil some_forge
      have first : c.forges.head? = some f := by rw [forges, List.head?_cons]
      refine ⟨f, chosen f ?_, .byOrder elsewhere (forall_of_find?_eq_none named) first⟩
      rw [inferForge?, there, named, Option.none_or, Option.none_or, first]

/-- **Remotes that lead to the same forge, or both to none, make no difference.** -/
theorem chooseForge_congr {remote other : Option String}
    (same : (remote.bind Remote.host?).bind c.forgeAt? = (other.bind Remote.host?).bind c.forgeAt?)
    (name : Option String) : c.chooseForge name remote = c.chooseForge name other := by
  have inferred : c.inferForge? remote = c.inferForge? other := by
    rw [inferForge?, same, ← inferForge?]
  unfold chooseForge
  rw [inferred]

end RepoBrowser.Config
