import RepoBrowser.Proofs.Machine.Drawing
import RepoBrowser.Proofs.Session.Press

/-!
# What stops a session

A session that is run on a machine, with its screen drawn at any time on screens of any size, is
stopped by an id that cannot be abbreviated or by a lack of memory, and by nothing else.

* `Abbreviable` — an id that can be abbreviated, by its bytes;
* `LogMessage.ids`, `History.ids` — the ids that are brought, and those of the commits that are held;
* `Browser.exists_id_of_fault`, `exists_id_of_drawFault` — a fault is that of such an id;
* `Session.meetInWords`, `Occasion`, `runInWords` — what happens to a session on a machine;
* `meetInWords_eq`, `within_of_meet`, `exists_id_of_meet` — one happening;
* `Explains`, `Accounts`, `runInWords_accounts` — a run from any session within bounds;
* `only_ids_stop` — a run from the start.
-/

namespace RepoBrowser

open Time (Instant)

/-! ### Ids -/

theorem utf8ByteSize_ofList_cons (c : Char) (s : List Char) :
    (String.ofList (c :: s)).utf8ByteSize = c.utf8Size + (String.ofList s).utf8ByteSize := by
  rw [String.ofList_cons, String.utf8ByteSize_append, String.utf8ByteSize_singleton]

/-- A text is cut after `n` bytes if it has no more, or if some of its characters have them. -/
theorem cutAfterByte?_isSome_iff {n : Nat} {s : List Char} :
    (cutAfterByte? n s).isSome ↔ (String.ofList s).utf8ByteSize ≤ n ∨
      ∃ s₁ s₂, s = s₁ ++ s₂ ∧ (String.ofList s₁).utf8ByteSize = n := by
  induction s generalizing n with
  | nil => exact ⟨fun _ => .inl (Nat.zero_le n), fun _ => by unfold cutAfterByte?; rfl⟩
  | cons c s ih =>
    cases n with
    | zero => exact ⟨fun _ => .inr ⟨[], c :: s, rfl, rfl⟩, fun _ => rfl⟩
    | succ n =>
      have first : (∃ s₁ s₂, c :: s = s₁ ++ s₂ ∧ (String.ofList s₁).utf8ByteSize = n + 1) ↔
          ∃ s₁ s₂, s = s₁ ++ s₂ ∧ c.utf8Size + (String.ofList s₁).utf8ByteSize = n + 1 := by
        constructor
        · rintro ⟨s₁, s₂, cut, bytes⟩
          cases s₁ with
          | nil => exact nomatch bytes
          | cons d s₁ =>
            obtain ⟨rfl, rfl⟩ := List.cons.inj cut
            exact ⟨s₁, s₂, rfl, utf8ByteSize_ofList_cons .. ▸ bytes⟩
        · rintro ⟨s₁, s₂, rfl, bytes⟩
          exact ⟨c :: s₁, s₂, rfl, utf8ByteSize_ofList_cons .. ▸ bytes⟩
      rw [first, utf8ByteSize_ofList_cons]
      show (if _ then _ else _ : Option (List Char)).isSome ↔ _
      split
      · rename_i fits
        rw [Option.isSome_map, ih]
        exact or_congr (by omega) (exists₂_congr fun s₁ s₂ => and_congr_right' (by omega))
      · rename_i splits
        refine iff_of_false nofun ?_
        rintro (whole | ⟨s₁, s₂, -, bytes⟩) <;> omega

/-- An id that can be abbreviated: it is no longer than its abbreviation, or has a boundary between
characters where this ends. -/
def Abbreviable (id : String) : Prop :=
  id.utf8ByteSize ≤ shortIdBytes ∨ String.Pos.Raw.IsValid id ⟨shortIdBytes⟩

theorem shortId?_isSome_iff {id : String} : (shortId? id).isSome ↔ Abbreviable id := by
  unfold shortId? Abbreviable
  rw [cutAfterByte?_isSome_iff, String.ofList_toList, String.Pos.Raw.isValid_iff_exists_append]
  refine or_congr_right ⟨?_, ?_⟩
  · rintro ⟨s₁, s₂, cut, bytes⟩
    refine ⟨String.ofList s₁, String.ofList s₂, ?_, congrArg String.Pos.Raw.mk bytes.symm⟩
    rw [← String.ofList_append, ← cut, String.ofList_toList]
  · rintro ⟨s₁, s₂, rfl, place⟩
    refine ⟨s₁.toList, s₂.toList, String.toList_append, ?_⟩
    rw [String.ofList_toList]
    exact (congrArg String.Pos.Raw.byteIdx place).symm

theorem splitFault?_eq_some_iff {id : String} {f : Fault} :
    splitFault? id = some f ↔ ¬ Abbreviable id ∧ f = .splitId id := by
  rw [← shortId?_isSome_iff]
  unfold splitFault?
  cases shortId? id <;> simp [eq_comm]

/-- The ids of commits that a result brings. -/
def LogMessage.ids : LogMessage → List String
  | .pageLoaded _ page => page.items.map (·.id)
  | .detailLoaded d => [d.id]
  | .pageFailed .. | .detailFailed .. => []

/-- The ids of commits that an action brings. -/
def Action.ids : Action → List String
  | .log _ m => m.ids
  | _ => []

namespace History

variable {h : History} {i : Input} {m : LogMessage} {f : Fault} {out : History × List Request}

/-- The ids of the commits that have been loaded. -/
def ids (h : History) : List String := h.commits.map (·.id)

theorem Response.ids_eq (r : Response h i out) : out.1.ids = h.ids := by
  cases r with
  | moved _ _ turn => exact congrArg (List.map (·.id)) turn.commits_eq.2
  | _ => rfl

/-- A commit that is there after a result has been there, or is brought. -/
theorem Receipt.ids (r : Receipt h m out) : ∀ id ∈ out.1.ids, id ∈ h.ids ∨ id ∈ m.ids := by
  intro id known
  unfold History.ids at known ⊢
  cases r with
  | @pageAdded number page _ _ turn =>
    rw [turn.commits_eq.2] at known
    exact List.mem_append.mp (List.map_append ▸ known)
  | _ => exact .inl known

/-- What the status line cannot say is the id of a commit. -/
theorem exists_id_of_statusFault (fault : h.statusFault? = some f) :
    ∃ id ∈ h.ids, ¬ Abbreviable id ∧ f = .splitId id := by
  obtain ⟨c, selected, split⟩ := Option.bind_eq_some_iff.mp fault
  exact ⟨c.id, List.mem_map_of_mem (List.mem_of_getElem? selected), splitFault?_eq_some_iff.mp split⟩

/-- What cannot be drawn is the id of a commit. -/
theorem exists_id_of_drawFault (fault : h.drawFault? = some f) :
    ∃ id ∈ h.ids, ¬ Abbreviable id ∧ f = .splitId id := by
  unfold drawFault? at fault
  split at fault
  · exact nomatch fault
  · obtain ⟨c, listed, split⟩ := List.exists_of_findSome?_eq_some fault
    exact ⟨c.id, List.mem_map_of_mem listed, splitFault?_eq_some_iff.mp split⟩

/-- What cannot be taken in is the id that a result brings. -/
theorem exists_id_of_receiveFault (fault : h.receiveFault? m = some f) :
    ∃ id ∈ m.ids, ¬ Abbreviable id ∧ f = .splitId id := by
  cases m with
  | detailLoaded d =>
    simp only [receiveFault?] at fault
    split at fault
    · exact ⟨d.id, List.mem_singleton_self d.id, splitFault?_eq_some_iff.mp fault⟩
    · cases fault
  | pageLoaded | pageFailed | detailFailed => cases fault

end History

namespace Browser

variable {b b' : Browser} {a : Action} {f : Fault} {n : Nat} {rs : List Request}

theorem Change.ids (c : Change b a b' rs) :
    ∀ id ∈ b'.history.ids, id ∈ b.history.ids ∨ id ∈ a.ids := by
  intro id known
  cases c with
  | selected | resolved => exact absurd known List.not_mem_nil
  | @logReceived r m => exact (b.history.receive_receipt m).ids id known
  | @commitsInput i =>
    rw [(b.history.input_response i).ids_eq] at known
    exact .inl known
  | _ => exact .inl known

/-- **A fault of an action** is that of an id that it brings, or of a commit that is there. -/
theorem exists_id_of_fault (fault : b.fault? a = some f) :
    ∃ id, (id ∈ b.history.ids ∨ id ∈ a.ids) ∧ ¬ Abbreviable id ∧ f = .splitId id := by
  rw [fault?_eq] at fault
  rcases Option.or_eq_some_iff.mp fault with received | ⟨-, refreshed⟩
  · cases a with
    | log g m =>
      simp only [receivedFault?] at received
      split at received
      · cases received
      · obtain ⟨id, brought, split⟩ := History.exists_id_of_receiveFault received
        exact ⟨id, .inr brought, split⟩
    | _ => cases received
  · split at refreshed
    · unfold refreshFault? at refreshed
      split at refreshed
      · obtain ⟨id, known, split⟩ := History.exists_id_of_statusFault refreshed
        exact ⟨id, (b.act_change a).ids id known, split⟩
      · cases refreshed
    · cases refreshed

theorem exists_id_of_drawFault (fault : b.drawFault? = some f) :
    ∃ id ∈ b.history.ids, ¬ Abbreviable id ∧ f = .splitId id := by
  unfold drawFault? at fault
  split at fault
  · exact History.exists_id_of_drawFault fault
  · exact nomatch fault

theorem Bounded.mono (s : b.Bounded n) : b.Bounded (n + 1) :=
  ⟨s.fitted, s.low, Nat.le_succ_of_le s.generation, s.commits, s.pages.mono, s.files, s.pagers⟩

/-- A browser within bounds that fits in memory and on a screen. -/
structure Within (n : Nat) (b : Browser) : Prop where
  bounded : b.Bounded n
  fits : b.held ≤ memory
  small : b.layout.totalHeight ≤ maxExtent

theorem Within.update (w : b.Within n) (words : a.IsInWords) (hu : b.update a = .ok (b', rs))
    (fits : b'.held ≤ memory) : b'.Within (n + 1) where
  bounded := by
    obtain ⟨-, applied⟩ := checked_eq_ok_iff.mp hu
    have kept := w.bounded.apply w.fits words
    rw [applied] at kept
    exact kept
  fits := fits
  small := by
    rw [(w.bounded.fitted.update hu).laidOut]
    exact w.small

theorem ids_of_update (hu : b.update a = .ok (b', rs)) :
    ∀ id ∈ b'.history.ids, id ∈ b.history.ids ∨ id ∈ a.ids := by
  obtain ⟨c, l, change, rfl⟩ := change_of_update hu
  exact change.ids

end Browser

/-! ### What happens to a session -/

namespace Session

/-- A session for a repository. -/
def newInWords (name : String) (layout : Layout) : Except Halt Session := do
  let browser ← Browser.ofLayoutInWords layout
  return { browser, name }

/-- What an action does. -/
def updateInWords (s : Session) (a : Action) : Except Halt Session := do
  let (browser, requests) ← s.browser.updateInWords a
  return ({ s with browser } : Session).ask requests

/-- What a key does. -/
def handleKeyInWords (s : Session) (k : Key) : Except Halt Session :=
  let s := { s with notice := none }
  match k.code with
  | .character 'q' => .ok { s with quits := true }
  | .character 'o' | .character 'y' => .ok s
  | .character 'r' => .ok s.lookUp
  | _ => s.updateInWords (.key k)

/-- What an event does. -/
def handleInWords (s : Session) : Event → Except Halt Session
  | .start => .ok s.lookUp
  | .tick => .ok s
  | .key k => s.handleKeyInWords k
  | .mouse m => s.updateInWords (.mouse m)
  | .resized width height => s.updateInWords (.resized width (height - helpHeight))

/-- What comes of something that happens. -/
def meetInWords (s : Session) : Happening → Except Halt Session
  | .event e => s.handleInWords e
  | .action a => s.updateInWords a
  | .taken => .ok s.takeRequests.2

/-- Something happens to a session, or its screen is drawn. -/
inductive Occasion where
  | meets (x : Happening)
  | draws (now : Instant) (width height : Nat)

/-- What a sequence of occasions leads to, as long as there is memory. -/
def runInWords (s : Session) : List Occasion → Except Halt Session
  | [] => .ok s
  | .meets x :: rest => do
    let t ← s.meetInWords x
    if t.browser.held ≤ memory then t.runInWords rest else .error .exhausted
  | .draws now w h :: rest => do
    let _ ← s.drawInWords now w h
    s.runInWords rest

namespace Occasion

/-- What happens, if anything does. -/
def happening? : Occasion → Option Happening
  | .meets x => some x
  | .draws .. => none

/-- Whether it is an event or an action. -/
def counts : Occasion → Bool
  | .meets (.event _) | .meets (.action _) => true
  | .meets .taken | .draws .. => false

/-- The sizes that it gives are words. -/
def IsInWords : Occasion → Prop
  | .meets (.event (.resized width height)) => width ≤ maxExtent ∧ height ≤ maxExtent
  | .meets (.action a) => a.IsInWords
  | .meets _ => True
  | .draws _ width height => width ≤ maxExtent ∧ height ≤ maxExtent

/-- The ids of commits that it brings. -/
def ids : Occasion → List String
  | .meets (.action a) => a.ids
  | .meets _ | .draws .. => []

end Occasion

variable {s t : Session} {a : Action} {f : Fault} {x : Happening} {o : Occasion} {n : Nat}
variable {os rest : List Occasion} {halt : Halt}

/-! ### One happening -/

/-- A key is for the session itself or for its browser. -/
theorem exists_of_handleKey (s : Session) (k : Key) :
    (∃ t : Session, s.handleKey k = .ok t ∧ s.handleKeyInWords k = .ok t ∧ t.browser = s.browser) ∨
      ∃ t : Session, s.handleKey k = t.update (.key k) ∧
        s.handleKeyInWords k = t.updateInWords (.key k) ∧ t.browser = s.browser := by
  unfold handleKey handleKeyInWords
  dsimp only
  cases k.code with
  | character c =>
    by_cases own : c = 'q' ∨ c = 'o' ∨ c = 'y' ∨ c = 'r'
    · rcases own with rfl | rfl | rfl | rfl <;> exact .inl ⟨_, rfl, rfl, rfl⟩
    · refine .inr ⟨{ s with notice := none }, ?_, ?_, rfl⟩ <;> split <;> simp_all
  | _ => exact .inr ⟨{ s with notice := none }, rfl, rfl, rfl⟩

/-- **What happens is nothing to the browser, or an action on it** that counts. -/
theorem exists_of_meet (s : Session) (x : Happening) :
    (∃ t : Session, s.meet x = .ok t ∧ s.meetInWords x = .ok t ∧ t.browser = s.browser) ∨
      ∃ (a : Action) (t : Session), s.meet x = t.update a ∧ s.meetInWords x = t.updateInWords a ∧
        t.browser = s.browser ∧ (Occasion.meets x).counts = true ∧
        ((Occasion.meets x).IsInWords → a.IsInWords) ∧
        ∀ id ∈ a.ids, id ∈ (Occasion.meets x).ids := by
  cases x with
  | action a => exact .inr ⟨a, s, rfl, rfl, rfl, rfl, id, fun _ => id⟩
  | taken => exact .inl ⟨_, rfl, rfl, rfl⟩
  | event e =>
    cases e with
    | start | tick => exact .inl ⟨_, rfl, rfl, rfl⟩
    | mouse m => exact .inr ⟨_, s, rfl, rfl, rfl, rfl, fun _ => trivial, fun _ => id⟩
    | resized w h =>
      exact .inr ⟨_, s, rfl, rfl, rfl, rfl,
        fun words => ⟨words.1, Nat.le_trans (Nat.sub_le _ _) words.2⟩, fun _ => id⟩
    | key k =>
      rcases s.exists_of_handleKey k with still | ⟨t, handled, inWords, same⟩
      · exact .inl still
      · exact .inr ⟨_, t, handled, inWords, same, rfl, fun _ => trivial, fun _ => id⟩

/-- How often things have happened after an occasion. -/
def tallied (n : Nat) (o : Occasion) : Nat := n + if o.counts then 1 else 0

theorem tallied_of_counts (counts : o.counts = true) : tallied n o = n + 1 := by
  unfold tallied
  rw [if_pos counts]

theorem updateInWords_eq (within : s.browser.Within n) (few : n + 1 ≤ Word.bits32.greatest)
    (words : a.IsInWords) : s.updateInWords a = (s.update a).mapError .fault := by
  unfold updateInWords update Browser.update
  rw [Browser.updateInWords_eq within.bounded within.fits few words]
  cases s.browser.fault? a <;> rfl

/-- **What happens does what it is meant to**, unless an id cannot be abbreviated. -/
theorem meetInWords_eq (within : s.browser.Within n)
    (few : tallied n (.meets x) ≤ Word.bits32.greatest) (words : (Occasion.meets x).IsInWords) :
    s.meetInWords x = (s.meet x).mapError .fault := by
  rcases s.exists_of_meet x with ⟨t, met, inWords, -⟩ | ⟨a, t, met, inWords, same, counts, small, -⟩
  · rw [met, inWords]
    rfl
  · rw [tallied_of_counts counts] at few
    rw [met, inWords]
    exact updateInWords_eq (same ▸ within) few (small words)

/-- What happens keeps the bounds as long as there is memory. -/
theorem within_of_meet (within : s.browser.Within n) (words : (Occasion.meets x).IsInWords)
    (met : s.meet x = .ok t) (fits : t.browser.held ≤ memory) :
    t.browser.Within (tallied n (.meets x)) := by
  rcases s.exists_of_meet x with ⟨u, still, -, same⟩ | ⟨a, u, acted, -, same, counts, small, -⟩
  · obtain rfl := Except.ok.inj (still.symm.trans met)
    rw [same]
    unfold tallied
    split
    · exact ⟨within.bounded.mono, within.fits, within.small⟩
    · exact within
  · obtain ⟨rs, hu⟩ := browser_of_update (acted.symm.trans met)
    rw [same] at hu
    rw [tallied_of_counts counts]
    exact within.update (small words) hu fits

/-- A commit that is there after something has happened has been there, or is brought. -/
theorem ids_of_meet (met : s.meet x = .ok t) :
    ∀ id ∈ t.browser.history.ids, id ∈ s.browser.history.ids ∨ id ∈ (Occasion.meets x).ids := by
  intro id known
  rcases s.exists_of_meet x with ⟨u, still, -, same⟩ | ⟨a, u, acted, -, same, -, -, brings⟩
  · obtain rfl := Except.ok.inj (still.symm.trans met)
    exact .inl (same ▸ known)
  · obtain ⟨rs, hu⟩ := browser_of_update (acted.symm.trans met)
    rw [same] at hu
    exact (Browser.ids_of_update hu id known).imp_right (brings id)

/-- A fault is that of an id that is brought, or of a commit that is there. -/
theorem exists_id_of_meet (met : s.meet x = .error f) :
    ∃ id, (id ∈ s.browser.history.ids ∨ id ∈ (Occasion.meets x).ids) ∧ ¬ Abbreviable id ∧
      f = .splitId id := by
  rcases s.exists_of_meet x with ⟨u, still, -⟩ | ⟨a, u, acted, -, same, -, -, brings⟩
  · exact nomatch still.symm.trans met
  · have fault : s.browser.fault? a = some f := by
      rw [acted] at met
      unfold update Browser.update at met
      rw [same] at met
      cases found : s.browser.fault? a with
      | none =>
        rw [found] at met
        exact nomatch met
      | some g =>
        rw [found] at met
        exact congrArg some (Except.error.inj met)
    obtain ⟨id, known, bad⟩ := Browser.exists_id_of_fault fault
    exact ⟨id, known.imp_right (brings id), bad⟩

/-! ### A run -/

theorem runInWords_meets_ok (met : s.meetInWords x = .ok t) : s.runInWords (.meets x :: rest)
    = if t.browser.held ≤ memory then t.runInWords rest else .error .exhausted := by
  rw [runInWords, met]
  rfl

theorem runInWords_meets_error (met : s.meetInWords x = .error halt) :
    s.runInWords (.meets x :: rest) = .error halt := by
  rw [runInWords, met]
  rfl

theorem runInWords_draws {now : Instant} {w h : Nat} {fault : Option Fault} {screen : Screen}
    (drawn : s.drawInWords now w h = stopped fault screen) :
    s.runInWords (.draws now w h :: rest) = stopped fault () >>= fun _ => s.runInWords rest := by
  rw [runInWords, drawn, stopped_bind]

/-- Why a run from a session stops: an id that is there or brought cannot be abbreviated, or there
is a session on the way that does not fit in memory. -/
def Explains (s : Session) (os : List Occasion) : Halt → Prop
  | .fault (.splitId id) =>
    (id ∈ s.browser.history.ids ∨ ∃ o ∈ os, id ∈ o.ids) ∧ ¬ Abbreviable id
  | .exhausted => ∃ happened t, happened <+: os.filterMap Occasion.happening? ∧
      s.run happened = .ok t ∧ memory < t.browser.held
  | .overflow | .underflow | .outside => False

/-- A result is what the run is meant to lead to, or it is explained. -/
def Accounts (s : Session) (os : List Occasion) : Except Halt Session → Prop
  | .ok t => s.run (os.filterMap Occasion.happening?) = .ok t
  | .error halt => s.Explains os halt

variable {result : Except Halt Session}

/-- Why the rest of a run stops is why the run does. -/
theorem Explains.after (met : s.meet x = .ok t) (why : t.Explains rest halt) :
    s.Explains (.meets x :: rest) halt := by
  match halt, why with
  | .fault (.splitId id), ⟨known, bad⟩ =>
    refine ⟨?_, bad⟩
    rcases known with there | ⟨o, later, brought⟩
    · exact (ids_of_meet met id there).imp_right fun brought => ⟨_, List.mem_cons_self, brought⟩
    · exact .inr ⟨o, List.mem_cons_of_mem _ later, brought⟩
  | .exhausted, ⟨happened, u, way, reached, large⟩ =>
    exact ⟨x :: happened, u, List.cons_prefix_cons.mpr ⟨rfl, way⟩,
      run_cons_eq_ok_iff.mpr ⟨t, met, reached⟩, large⟩

theorem Accounts.after (met : s.meet x = .ok t) (rests : t.Accounts rest result) :
    s.Accounts (.meets x :: rest) result := by
  cases result with
  | ok u => exact run_cons_eq_ok_iff.mpr ⟨t, met, rests⟩
  | error halt => exact Explains.after met rests

theorem Accounts.afterDrawing {now : Instant} {w h : Nat} (rests : s.Accounts rest result) :
    s.Accounts (.draws now w h :: rest) result := by
  match result, rests with
  | .ok u, ran => exact ran
  | .error (.fault (.splitId id)), ⟨known, bad⟩ =>
    exact ⟨known.imp_right fun ⟨o, later, brought⟩ => ⟨o, List.mem_cons_of_mem _ later, brought⟩, bad⟩
  | .error .exhausted, why => exact why

/-- **A run leads where it is meant to, or it is explained why it stops.**  By induction on what
happens: from one occasion to the next the session stays within bounds. -/
theorem runInWords_accounts (within : s.browser.Within n)
    (few : n + os.countP Occasion.counts ≤ Word.bits32.greatest) (words : ∀ o ∈ os, o.IsInWords) :
    s.Accounts os (s.runInWords os) := by
  induction os generalizing s n with
  | nil => exact rfl
  | cons o rest ih =>
    have first := words o List.mem_cons_self
    have others : ∀ o ∈ rest, o.IsInWords := fun o later => words o (List.mem_cons_of_mem _ later)
    rw [List.countP_cons] at few
    cases o with
    | meets x =>
      have count : tallied n (.meets x) + rest.countP Occasion.counts ≤ Word.bits32.greatest := by
        unfold tallied
        omega
      have inWords := meetInWords_eq within (Nat.le_of_add_right_le count) first
      cases met : s.meet x with
      | error f =>
        rw [met] at inWords
        rw [runInWords_meets_error inWords]
        obtain ⟨id, known, bad, rfl⟩ := exists_id_of_meet met
        exact ⟨known.imp_right fun brought => ⟨_, List.mem_cons_self, brought⟩, bad⟩
      | ok t =>
        rw [met] at inWords
        rw [runInWords_meets_ok inWords]
        split
        · rename_i fits
          exact (ih (within_of_meet within first met fits) count others).after met
        · rename_i large
          exact ⟨[x], t, List.cons_prefix_cons.mpr ⟨rfl, List.nil_prefix⟩,
            run_cons_eq_ok_iff.mpr ⟨t, met, rfl⟩, Nat.lt_of_not_le large⟩
    | draws now w h =>
      have rests := ih within (Nat.le_trans (by omega) few) others
      rw [runInWords_draws (drawInWords_eq within.fits within.small now first.1 first.2)]
      cases drawn : s.drawFault? with
      | none => exact rests.afterDrawing
      | some f =>
        obtain ⟨id, there, bad, rfl⟩ := Browser.exists_id_of_drawFault drawn
        exact ⟨.inl there, bad⟩

/-! ### From the start -/

theorem newInWords_eq (name : String) {layout : Layout} (small : layout.totalHeight ≤ maxExtent) :
    newInWords name layout = .ok (new name layout) := by
  unfold newInWords
  rw [Browser.ofLayoutInWords_eq small]
  rfl

theorem within_new (name : String) {layout : Layout} (small : layout.totalHeight ≤ maxExtent) :
    (new name layout).browser.Within 0 :=
  ⟨Browser.bounded_ofLayout layout, Nat.zero_le memory, small⟩

/-- **Only ids stop a session.**  A session begins with a layout whose row counts add up to a word,
and fewer than 2³² events and actions happen to it; in between its screen is drawn, at any size.  On
a machine this leads where it is meant to, or stops because there is no more memory, or because of
an id that is brought and cannot be abbreviated; no sum, difference or index stops it.  If all ids
that are brought can be abbreviated, none does. -/
theorem only_ids_stop (name : String) (layout : Layout) (small : layout.totalHeight ≤ maxExtent)
    (os : List Occasion) (few : os.countP Occasion.counts < 2 ^ 32)
    (words : ∀ o ∈ os, o.IsInWords) :
    (new name layout).Accounts os (newInWords name layout >>= (·.runInWords os)) ∧
    ((∀ o ∈ os, ∀ id ∈ o.ids, Abbreviable id) →
      (newInWords name layout >>= (·.runInWords os)) = .error .exhausted ∨
        ∃ s, (newInWords name layout >>= (·.runInWords os)) = .ok s) := by
  have begun : (newInWords name layout >>= (·.runInWords os)) = (new name layout).runInWords os := by
    rw [newInWords_eq name small]
    rfl
  have count : 0 + os.countP Occasion.counts ≤ Word.bits32.greatest := by
    rw [Nat.zero_add]
    exact Nat.le_of_lt_succ few
  have accounts := runInWords_accounts (within_new name small) count words
  rw [begun]
  refine ⟨accounts, fun good => ?_⟩
  match (new name layout).runInWords os, accounts with
  | .ok s, _ => exact .inr ⟨s, rfl⟩
  | .error .exhausted, _ => exact .inl rfl
  | .error (.fault (.splitId id)), ⟨known, bad⟩ =>
    rcases known with there | ⟨o, occurs, brought⟩
    · exact absurd there List.not_mem_nil
    · exact absurd (good o occurs id brought) bad

/-- A visit to a repository that has one commit. -/
def sampleVisit (id : String) : List Occasion :=
  [.draws ⟨0, 0⟩ 0 0,
    .meets (.event (.resized 40 12)),
    .meets (.action (.selectRepository Source.sample.ticket.repository)),
    .meets (.action (.referenceResolved 1 Source.sample.reference)),
    .meets .taken,
    .meets (.action (.log 1 (.pageLoaded 1 ⟨[⟨id, "begin", "Zoë", ⟨0, 0⟩⟩], none⟩))),
    .meets (.event (.key ⟨.backTab, {}⟩)),
    .meets (.event (.key ⟨.backTab, {}⟩)),
    .meets (.event (.key ⟨.backTab, {}⟩)),
    .meets (.event (.key ⟨.down, {}⟩)),
    .draws ⟨0, 0⟩ 40 12]

theorem sampleVisit_isInWords (id : String) : ∀ o ∈ sampleVisit id, o.IsInWords := by
  simp [sampleVisit, Occasion.IsInWords, Action.IsInWords, maxExtent]

theorem sampleVisit_ids (id : String) : ∀ o ∈ sampleVisit id, ∀ x ∈ o.ids, x = id := by
  simp [sampleVisit, Occasion.ids, Action.ids, LogMessage.ids]

/-- A visit goes well, although the screen has no rows at first and the row behind the last is asked
for; with an id whose seventh byte is inside a character it stops where the commits are shown. -/
theorem only_ids_stop_sample :
    (∃ s, (newInWords "sample" {} >>= (·.runInWords (sampleVisit "abcdéf01"))) = .ok s ∧
      (new "sample" {}).run ((sampleVisit "abcdéf01").filterMap Occasion.happening?) = .ok s) ∧
    (newInWords "sample" {} >>= (·.runInWords (sampleVisit "abcdefé0")))
      = .error (.fault (.splitId "abcdefé0")) ∧ ¬ Abbreviable "abcdefé0" := by
  have visit := fun id => only_ids_stop "sample" {} (by decide) (sampleVisit id)
    (lt_of_le_of_lt List.countP_le_length (show 11 < 2 ^ 32 by decide)) (sampleVisit_isInWords id)
  refine ⟨?_, rfl, (visit "abcdefé0").1.2⟩
  have good : ∀ o ∈ sampleVisit "abcdéf01", ∀ id ∈ o.ids, Abbreviable id := fun o occurs id brought =>
    sampleVisit_ids _ o occurs id brought ▸ .inr (by decide)
  rcases (visit "abcdéf01").2 good with exhausted | ⟨s, ends⟩
  · exact nomatch exhausted
  · have leads := (visit "abcdéf01").1
    rw [ends] at leads
    exact ⟨s, ends, leads⟩

end Session

end RepoBrowser
