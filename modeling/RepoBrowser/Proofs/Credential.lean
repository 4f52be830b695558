import RepoBrowser.Credential
import RepoBrowser.Proofs.Text.Parts
import RepoBrowser.Proofs.Text.Utf8

/-!
# Tokens that are kept

A token that a command printed is kept in a file, and from then on it is the file that gives it.

* `trim_trim`, `TokenFile.token?_keep` — what was kept is read back as it was;
* `Prints` — what has to come of a command for a token;
* `Loading`, `loadToken_loading` — where a token can come from, with what is known then;
* `Settles`, `settles_of_loaded` — once it is found, a token is found without the command;
* `loadTokenIn`, `loadTimes` — calls that run the command as they go, one after another;
* `loadTokenIn_eq`, `loadTimes_tally` — how often it is run;
* `token_is_kept` — all of that.
-/

namespace RepoBrowser

open Text

/-! ### Texts without blanks at their ends -/

theorem head?_trimStart (s : List Char) : ∀ c ∈ (trimStart s).head?, isBlank c = false := by
  induction s with
  | nil => exact fun c hc => absurd hc (by simp)
  | cons d s ih =>
    rw [trimStart_cons]
    split
    · exact ih
    · next graphic => simpa using graphic

theorem trimStart_trimStart (s : List Char) : trimStart (trimStart s) = trimStart s :=
  trimStart_eq_self_iff.mpr (head?_trimStart s)

theorem trimEnd_trimEnd (s : List Char) : trimEnd (trimEnd s) = trimEnd s := by
  have again := trimStart_trimStart s.reverse
  unfold trimStart at again
  unfold trimEnd
  rw [List.reverse_reverse, again]

/-- **Nothing is left to be trimmed.** -/
theorem trim_trim (s : List Char) : trim (trim s) = trim s := by
  have front : trimStart (trim s) = trim s := by
    refine trimStart_eq_self_iff.mpr fun c hc => head?_trimStart s c ?_
    obtain ⟨rest, same⟩ := trimEnd_isPrefix (trimStart s)
    obtain ⟨t, ht⟩ := List.head?_eq_some_iff.mp hc
    rw [trim] at ht
    rw [← same, ht]
    rfl
  rw [trim, front, trim, trimEnd_trimEnd]

/-! ### The file -/

namespace TokenFile

variable {file : TokenFile} {t : String}

/-- The file with a token in it. -/
def holding (t : String) : TokenFile := ⟨some (Utf8.encode t.toList), true⟩

theorem keep_eq (writable : file.writable = true) (t : String) : file.keep t = holding t := by
  unfold keep holding
  rw [if_pos writable, writable]

/-- A token without blanks at its ends is read back. -/
theorem token?_holding (bare : trim t.toList = t.toList) (some_text : t ≠ "") :
    (holding t).token? = some t := by
  have some_left : t.toList ≠ [] := mt String.toList_eq_nil_iff.mp some_text
  have filled : t.toList.isEmpty = false := by simpa using some_left
  simp only [token?, holding, Option.bind_some, Utf8.decode?_encode, Option.map_some, bare, filled,
    Bool.false_eq_true, if_false, String.ofList_toList]

end TokenFile

/-! ### Where a token comes from -/

/-- A forge's command succeeds, and `t` is what it prints without the blanks at the ends. -/
def Prints (forge : ForgeConfig) (run : String → Option CommandResult) (t : String) : Prop :=
  ∃ c r, forge.tokenCommand = some c ∧ run c = some r ∧ r.isSuccess = true ∧
    t = String.ofList (trim (Utf8.decodeLossy r.output)) ∧ t ≠ ""

variable {forge : ForgeConfig} {environment : String → Option String} {file : TokenFile}
  {run : String → Option CommandResult} {t : String}

theorem commandToken?_eq_some_iff : commandToken? forge run = some t ↔ Prints forge run t := by
  unfold commandToken? Prints
  rw [Option.bind_eq_some_iff]
  constructor
  · rintro ⟨c, hc, word⟩
    cases ran : run c with
    | none =>
      rw [ran] at word
      exact nomatch word
    | some r =>
      rw [ran] at word
      obtain ⟨done, same⟩ := Option.ite_none_right_eq_some.mp word
      rw [Bool.and_eq_true, Bool.not_eq_true', List.isEmpty_eq_false_iff] at done
      refine ⟨c, r, hc, ran, done.1, (Option.some.inj same).symm, ?_⟩
      rw [← Option.some.inj same]
      exact mt String.ofList_eq_empty_iff.mp done.2
  · rintro ⟨c, r, hc, ran, success, rfl, some_text⟩
    have filled : (trim (Utf8.decodeLossy r.output)).isEmpty = false := by
      simpa [String.ofList_eq_empty_iff] using some_text
    refine ⟨c, hc, ?_⟩
    simp [CommandResult.word?, ran, success, filled]

/-- What is printed is kept without change. -/
theorem Prints.token?_holding (p : Prints forge run t) : (TokenFile.holding t).token? = some t := by
  obtain ⟨c, r, -, -, -, rfl, some_text⟩ := p
  refine TokenFile.token?_holding ?_ some_text
  rw [String.toList_ofList, trim_trim]

/-- What a call can come to. -/
inductive Loading (forge : ForgeConfig) (environment : String → Option String) (file : TokenFile)
    (run : String → Option CommandResult) : Except Error String × TokenFile → Prop
  | set {t : String} (set : variableToken? forge environment = some t) :
      Loading forge environment file run (.ok t, file)
  | stored {t : String} (unset : variableToken? forge environment = none)
      (stored : file.token? = some t) : Loading forge environment file run (.ok t, file)
  | printed {t : String} (unset : variableToken? forge environment = none)
      (unstored : file.token? = none) (printed : Prints forge run t) :
      Loading forge environment file run (.ok t, file.keep t)
  | missing (unset : variableToken? forge environment = none) (unstored : file.token? = none)
      (unprinted : ∀ t, ¬ Prints forge run t) :
      Loading forge environment file run (.error (.noToken forge.name forge.tokenVariable), file)

theorem loadToken_loading (forge : ForgeConfig) (environment : String → Option String)
    (file : TokenFile) (run : String → Option CommandResult) :
    Loading forge environment file run (loadToken forge environment file run) := by
  unfold loadToken
  split
  · next set => exact .set set
  · next unset =>
    split
    · next stored => exact .stored unset stored
    · next unstored =>
      split
      · next printed => exact .printed unset unstored (commandToken?_eq_some_iff.mp printed)
      · next unprinted =>
        refine .missing unset unstored fun t p => ?_
        rw [commandToken?_eq_some_iff.mpr p] at unprinted
        exact nomatch unprinted

/-- The variable or else the file gives this token. -/
def Settles (forge : ForgeConfig) (environment : String → Option String) (file : TokenFile)
    (t : String) : Prop :=
  variableToken? forge environment = some t ∨
    variableToken? forge environment = none ∧ file.token? = some t

theorem Settles.loadToken (settled : Settles forge environment file t)
    (run : String → Option CommandResult) :
    loadToken forge environment file run = (.ok t, file) := by
  rcases settled with set | ⟨unset, stored⟩
  · rw [RepoBrowser.loadToken, set]
  · rw [RepoBrowser.loadToken, unset, stored]

/-- **A token that was found is found in the variable or in the file from then on.** -/
theorem settles_of_loaded (writable : file.writable = true)
    (loaded : (loadToken forge environment file run).1 = .ok t) :
    Settles forge environment (loadToken forge environment file run).2 t := by
  have source := loadToken_loading forge environment file run
  generalize loadToken forge environment file run = out at source loaded ⊢
  cases source with
  | set set =>
    cases loaded
    exact .inl set
  | stored unset stored =>
    cases loaded
    exact .inr ⟨unset, stored⟩
  | printed unset _ printed =>
    cases loaded
    rw [TokenFile.keep_eq writable]
    exact .inr ⟨unset, printed.token?_holding⟩
  | missing => exact nomatch loaded

/-- Without a token nothing has changed. -/
theorem loadToken_of_failed {e : Error} (failed : (loadToken forge environment file run).1 = .error e) :
    loadToken forge environment file run =
      (.error (.noToken forge.name forge.tokenVariable), file) := by
  have source := loadToken_loading forge environment file run
  generalize loadToken forge environment file run = out at source failed ⊢
  cases source with
  | missing => rfl
  | _ => exact nomatch failed

/-- **The file changes exactly if a command that had to be run printed a token.** -/
theorem loadToken_file_ne_iff (writable : file.writable = true) :
    (loadToken forge environment file run).2 ≠ file ↔
      variableToken? forge environment = none ∧ file.token? = none ∧
        ∃ t, Prints forge run t ∧
          loadToken forge environment file run = (.ok t, .holding t) := by
  have source := loadToken_loading forge environment file run
  generalize loadToken forge environment file run = out at source ⊢
  cases source with
  | set set => simp [set]
  | stored unset stored => simp [stored]
  | @printed t unset unstored printed =>
    rw [TokenFile.keep_eq writable]
    refine iff_of_true (fun same => ?_) ⟨unset, unstored, t, printed, rfl⟩
    have here := printed.token?_holding
    rw [show TokenFile.holding t = file from same, unstored] at here
    exact nomatch here
  | missing unset unstored unprinted =>
    refine iff_of_false (fun other => other rfl) ?_
    rintro ⟨-, -, t, printed, -⟩
    exact unprinted t printed

/-! ### Running the command -/

/-- A forge's token, found by running the command when nothing else gives it. -/
def loadTokenIn {m : Type → Type} [Monad m] (forge : ForgeConfig)
    (environment : String → Option String) (file : TokenFile)
    (run : String → m (Option CommandResult)) : m (Except Error String × TokenFile) :=
  match variableToken? forge environment with
  | some t => pure (.ok t, file)
  | none =>
    match file.token? with
    | some t => pure (.ok t, file)
    | none =>
      match forge.tokenCommand with
      | none => pure (.error (.noToken forge.name forge.tokenVariable), file)
      | some c => do
        match CommandResult.word? (← run c) with
        | some t => pure (.ok t, file.keep t)
        | none => pure (.error (.noToken forge.name forge.tokenVariable), file)

/-- Calls one after another, each with the file that the one before it left. -/
def loadTimes {m : Type → Type} [Monad m] (forge : ForgeConfig)
    (environment : String → Option String) (run : String → m (Option CommandResult)) :
    Nat → TokenFile → m (List (Except Error String) × TokenFile)
  | 0, file => pure ([], file)
  | k + 1, file => do
    let (result, file) ← loadTokenIn forge environment file run
    let (results, file) ← loadTimes forge environment run k file
    return (result :: results, file)

/-- A command that does what `behave` says, which may be something else each time; the runs are
counted. -/
def tally (behave : Nat → String → Option CommandResult) (c : String) :
    StateM Nat (Option CommandResult) := fun n => (behave n c, n + 1)

variable {behave : Nat → String → Option CommandResult}

/-- The command that is run in a call: none if the variable or the file gives a token. -/
def askedCommand? (forge : ForgeConfig) (environment : String → Option String)
    (file : TokenFile) : Option String :=
  match variableToken? forge environment, file.token? with
  | none, none => forge.tokenCommand
  | _, _ => none

/-- **A call runs one command or none**, and comes to what it comes to with the result of that. -/
theorem loadTokenIn_eq {m : Type → Type} [Monad m] [LawfulMonad m] (forge : ForgeConfig)
    (environment : String → Option String) (file : TokenFile)
    (run : String → m (Option CommandResult)) :
    loadTokenIn forge environment file run =
      match askedCommand? forge environment file with
      | none => pure (loadToken forge environment file fun _ => none)
      | some c => do
        let r ← run c
        return loadToken forge environment file fun _ => r := by
  unfold loadTokenIn loadToken commandToken? askedCommand?
  cases variableToken? forge environment with
  | some t => rfl
  | none =>
    cases file.token? with
    | some t => rfl
    | none =>
      cases forge.tokenCommand with
      | none => rfl
      | some c =>
        dsimp only [Option.bind_some]
        refine bind_congr fun r => ?_
        cases CommandResult.word? r <;> rfl

/-- What is not asked does not matter. -/
theorem loadToken_of_asked (run : String → Option CommandResult) :
    loadToken forge environment file run =
      loadToken forge environment file fun _ => (askedCommand? forge environment file).bind run := by
  unfold loadToken commandToken? askedCommand?
  cases variableToken? forge environment with
  | some t => rfl
  | none =>
    cases file.token? with
    | some t => rfl
    | none => cases forge.tokenCommand <;> rfl

/-- A call counts as a run if it asks the command. -/
theorem loadTokenIn_tally (n : Nat) :
    (loadTokenIn forge environment file (tally behave)).run n =
      (loadToken forge environment file (behave n),
        n + if (askedCommand? forge environment file).isSome then 1 else 0) := by
  rw [loadTokenIn_eq, loadToken_of_asked (behave n)]
  cases askedCommand? forge environment file <;> rfl

theorem loadTimes_succ_tally (k n : Nat) :
    (loadTimes forge environment (tally behave) (k + 1) file).run n =
      let first := (loadTokenIn forge environment file (tally behave)).run n
      let rest := (loadTimes forge environment (tally behave) k first.1.2).run first.2
      ((first.1.1 :: rest.1.1, rest.1.2), rest.2) := rfl

theorem Settles.asked (settled : Settles forge environment file t) :
    askedCommand? forge environment file = none := by
  unfold askedCommand?
  rcases settled with set | ⟨unset, stored⟩
  · rw [set]
  · rw [unset, stored]

theorem Settles.loadTimes (settled : Settles forge environment file t) (k n : Nat) :
    (loadTimes forge environment (tally behave) k file).run n =
      ((List.replicate k (.ok t), file), n) := by
  induction k with
  | zero => rfl
  | succ k ih =>
    rw [loadTimes_succ_tally, loadTokenIn_tally, settled.loadToken, settled.asked]
    exact congrArg (fun out => ((.ok t :: out.1.1, out.1.2), out.2)) ih

variable (forge environment behave) in
/-- **Calls one after another** fail until one finds a token, and then all find this one.  The
command is run once for each failure at most, and once more. -/
theorem loadTimes_tally (writable : file.writable = true) (k n : Nat) :
    ∃ failures successes t, failures + successes = k ∧
      ((loadTimes forge environment (tally behave) k file).run n).1.1 =
        List.replicate failures (.error (.noToken forge.name forge.tokenVariable)) ++
          List.replicate successes (.ok t) ∧
      ((loadTimes forge environment (tally behave) k file).run n).2 ≤ n + failures + 1 := by
  induction k generalizing n with
  | zero => exact ⟨0, 0, "", rfl, rfl, Nat.le_succ n⟩
  | succ k ih =>
    rw [loadTimes_succ_tally, loadTokenIn_tally]
    dsimp only
    generalize asked : (if (askedCommand? forge environment file).isSome then 1 else 0) = once
    have runs : once ≤ 1 := by
      rw [← asked]
      split <;> omega
    cases first : (loadToken forge environment file (behave n)).1 with
    | error e =>
      obtain ⟨failures, successes, t, sum, results, count⟩ := ih (n + once)
      have unchanged := loadToken_of_failed first
      refine ⟨failures + 1, successes, t, by omega, ?_, ?_⟩
      · rw [unchanged] at first ⊢
        rw [← first, results, List.replicate_succ, List.cons_append]
      · rw [unchanged]
        dsimp only
        omega
    | ok t =>
      have settled := settles_of_loaded writable first
      refine ⟨0, k + 1, t, by omega, ?_, ?_⟩
      · rw [settled.loadTimes, List.replicate_zero, List.nil_append, List.replicate_succ]
      · rw [settled.loadTimes]
        omega

/-! ### The whole -/

/-- **A token is kept, and only one that a command printed.**  A forge's token file can be written.

* A call changes it exactly if neither the variable nor the file gave a token and the command
  succeeded with more than blanks.  Then the file holds just the token that is returned.
* A call that fails does so for want of authentication, and leaves the file as it is.
* A call after one that found a token finds the same, and leaves the file as it is, whatever the
  command would do now.
* Calls one after another fail, if at all, before they find one and the same token.  The command,
  which may do something else each time, is run once for each failure at most, and once more. -/
theorem token_is_kept (forge : ForgeConfig) (environment : String → Option String)
    (file : TokenFile) (writable : file.writable = true) :
    (∀ run, (loadToken forge environment file run).2 ≠ file ↔
      variableToken? forge environment = none ∧ file.token? = none ∧
        ∃ t, Prints forge run t ∧
          loadToken forge environment file run = (.ok t, .holding t)) ∧
    (∀ run e, (loadToken forge environment file run).1 = .error e →
      (∃ reason, e = .auth reason) ∧ (loadToken forge environment file run).2 = file) ∧
    (∀ run t, (loadToken forge environment file run).1 = .ok t → ∀ other,
      loadToken forge environment (loadToken forge environment file run).2 other =
        (.ok t, (loadToken forge environment file run).2)) ∧
    ∀ behave k, ∃ failures successes t, failures + successes = k ∧
      ((loadTimes forge environment (tally behave) k file).run 0).1.1 =
        List.replicate failures (.error (.noToken forge.name forge.tokenVariable)) ++
          List.replicate successes (.ok t) ∧
      ((loadTimes forge environment (tally behave) k file).run 0).2 ≤ failures + 1 := by
  refine ⟨fun run => loadToken_file_ne_iff writable, fun run e failed => ?_,
    fun run t loaded other => (settles_of_loaded writable loaded).loadToken other,
    fun behave k => ?_⟩
  · have unchanged := loadToken_of_failed failed
    rw [unchanged] at failed ⊢
    exact ⟨⟨_, (Except.error.inj failed).symm⟩, rfl⟩
  · obtain ⟨failures, successes, t, sum, results, count⟩ :=
      loadTimes_tally forge environment behave writable k 0
    exact ⟨failures, successes, t, sum, results, by omega⟩

/-- A forge with a command for its token. -/
def sampleVault : ForgeConfig := ⟨"home", .gitea, "forge.example", some "TOKEN", some "token"⟩

/-- A command that fails the first time, and then prints another token each time, between blanks. -/
def sampleCommand (n : Nat) (_ : String) : Option CommandResult :=
  some ⟨Utf8.encode (' ' :: Char.ofNat (0x61 + n) :: ['\n']), if n = 0 then 1 else 0⟩

/-- Of three calls the first fails, and the other two find what the command prints the second time;
it is not run a third time. -/
theorem token_is_kept_sample :
    (⟨none, true⟩ : TokenFile).writable = true ∧
      loadToken sampleVault (fun _ => none) ⟨none, true⟩ (sampleCommand 1) =
        (.ok "b", .holding "b") ∧
      loadToken sampleVault (fun _ => none) (.holding "b") (sampleCommand 2) =
        (.ok "b", .holding "b") ∧
      ((loadTimes sampleVault (fun _ => none) (tally sampleCommand) 3 ⟨none, true⟩).run 0).2 = 2 := by
  obtain ⟨-, -, again, -⟩ := token_is_kept sampleVault (fun _ => none) ⟨none, true⟩ rfl
  have first : loadToken sampleVault (fun _ => none) ⟨none, true⟩ (sampleCommand 1) =
      (.ok "b", .holding "b") := by
    have unset : variableToken? sampleVault (fun _ => none) = none := rfl
    have unstored : (⟨none, true⟩ : TokenFile).token? = none := rfl
    have printed : commandToken? sampleVault (sampleCommand 1) = some "b" := by decide +kernel
    rw [loadToken, unset, unstored, printed]
    rfl
  have second := again (sampleCommand 1) "b" (by rw [first]) (sampleCommand 2)
  rw [first] at second
  exact ⟨rfl, first, second, by decide +kernel⟩

end RepoBrowser
