import RepoBrowser.Proofs.Browser.Agreement
import RepoBrowser.Proofs.Explorer.Waiting
import RepoBrowser.Proofs.History.Waiting
import RepoBrowser.Proofs.Subject

/-!
# Texts on screen, and the results that replace them

A browser shows three texts: the readme, a file and the changes of a commit.

* `Pane`, `Browser.pager`, `Browser.opening?` — the places where they are shown, and what is open
  there;
* `Browser.Takes` — the results that a pane takes for its own;
* `Change.pager_eq`, `Change.pager_moved` — as long as a pane stays open and takes no result, its
  text is the same; only commands move the window over it;
* `Explorer.Served`, `Change.served` — a file that has come is no longer waited for.
-/

namespace RepoBrowser

/-- Where texts are shown. -/
inductive Pane where
  | readme | file | changes
  deriving DecidableEq, Repr

/-- The window over a text has moved or has another size; the text is the same. -/
def Pager.Moved (p q : Pager) : Prop :=
  ∃ w h n, q = { p with width := w, height := h, offset := n }

namespace Pager.Moved

variable {p q r : Pager}

theorem refl (p : Pager) : p.Moved p := ⟨p.width, p.height, p.offset, rfl⟩

theorem of_eq (h : q = p) : p.Moved q := h ▸ refl p

theorem trans (h : p.Moved q) (h' : q.Moved r) : p.Moved r := by
  obtain ⟨w, k, n, rfl⟩ := h
  obtain ⟨w', k', n', rfl⟩ := h'
  exact ⟨w', k', n', rfl⟩

theorem loading_eq (h : p.Moved q) : q.loading = p.loading := by
  obtain ⟨w, k, n, rfl⟩ := h
  rfl

theorem of_input (p : Pager) (i : Input) : p.Moved (p.input i) := by
  obtain ⟨n, hn⟩ := p.input_eq i
  exact ⟨p.width, p.height, n, hn⟩

theorem of_setSize (p : Pager) (w h : Nat) : p.Moved (p.setSize w h) := ⟨w, h, _, rfl⟩

end Pager.Moved

/-! ### Files -/

namespace Explorer

variable {x y : Explorer} {i : Input} {m : FilesMessage} {out : Explorer × List Request}
  {f : String}

/-- A file that is open and no longer loading is not waited for. -/
def Served (x : Explorer) : Prop :=
  ∀ f, x.opened = some f → x.viewer.loading = false → x.pending = none

theorem served_of_closed (closed : x.opened = none) : Served x :=
  fun _ opened => nomatch closed.symm.trans opened

theorem served_of_idle (idle : x.pending = none) : Served x := fun _ _ _ => idle

theorem Response.served (r : Response x i out) (h : Served x) : Served out.1 := by
  cases r with
  | ignored => exact h
  | closed => exact served_of_closed rfl
  | scrolled =>
    exact fun f opened still => h f opened ((x.viewer.loading_input i).symm.trans still)
  | recalled => exact served_of_idle rfl
  | entered closed => exact served_of_closed closed
  | strayed closed => exact served_of_closed closed
  | openedFile => exact fun _ _ still => nomatch still
  | left closed => exact served_of_closed (x.leaveDirectory_opened.trans closed)
  | moved closed => exact served_of_closed closed

theorem Receipt.served (r : Receipt x m y) (h : Served x) : Served y := by
  cases r with
  | dropped => exact h
  | listed => exact served_of_idle (x.keepListing_pending _ _)
  | _ => exact served_of_idle rfl

/-- As long as a file stays open an input scrolls through it at most. -/
theorem Response.viewer_moved (r : Response x i out) (before : x.opened = some f)
    (after : out.1.opened = some f) : x.viewer.Moved out.1.viewer := by
  cases r with
  | ignored => exact .refl _
  | closed => exact nomatch after
  | scrolled => exact .of_input _ i
  | recalled closed | entered closed | strayed closed | openedFile closed | left closed
  | moved closed => exact nomatch closed.symm.trans before

/-- An explorer opens no commit. -/
theorem Response.fetchCommit_notMem (r : Response x i out) (t : Ticket) (id : String) :
    .fetchCommit t id ∉ out.2 := by
  cases r with
  | entered | openedFile => exact fun hmem => nomatch List.mem_singleton.mp hmem
  | _ => exact List.not_mem_nil

end Explorer

/-! ### Changes of commits -/

namespace History

variable {h : History} {i : Input} {m : LogMessage} {out : History × List Request} {id : String}

/-- As long as changes stay open an input scrolls through them at most. -/
theorem Response.diff_moved (r : Response h i out) (before : h.opened = some id)
    (after : out.1.opened = some id) : h.diff.Moved out.1.diff := by
  cases r with
  | ignored => exact .refl _
  | closed => exact nomatch after
  | scrolled => exact .of_input _ i
  | entered closed | moved closed => exact nomatch closed.symm.trans before

theorem Turn.opened_eq (t : Turn h out) : out.1.opened = h.opened := by
  cases t <;> rfl

theorem Receipt.opened_eq (r : Receipt h m out) : out.1.opened = h.opened := by
  cases r with
  | pageAdded _ turn => exact turn.opened_eq
  | _ => rfl

theorem Turn.diff_eq (t : Turn h out) : out.1.diff = h.diff := by
  cases t <;> rfl

/-- A result about anything else leaves the changes that are open. -/
theorem Receipt.diff_eq (r : Receipt h m out) (opened : h.opened = some id)
    (foreign : m.commit? ≠ some id) : out.1.diff = h.diff := by
  cases r with
  | dropped => rfl
  | pageAdded _ turn => exact turn.diff_eq
  | pageMissed => rfl
  | detailShown opened' => exact absurd (opened'.symm.trans opened) foreign
  | detailMissed opened' => exact absurd (opened'.symm.trans opened) foreign

/-- Nothing is opened while changes are open. -/
theorem Response.fetchCommit_notMem (r : Response h i out) (before : h.opened = some id)
    (t : Ticket) (other : String) : .fetchCommit t other ∉ out.2 := by
  cases r with
  | entered closed | moved closed => exact nomatch closed.symm.trans before
  | _ => exact List.not_mem_nil

theorem Receipt.fetchCommit_notMem (r : Receipt h m out) (t : Ticket) (other : String) :
    .fetchCommit t other ∉ out.2 := by
  cases r with
  | pageAdded _ turn =>
    cases turn with
    | rests => exact List.not_mem_nil
    | asks => exact fun hmem => nomatch List.mem_singleton.mp hmem
  | _ => exact List.not_mem_nil

end History

/-! ### Panes -/

namespace Browser

/-- The pager of a pane. -/
def pager (b : Browser) : Pane → Pager
  | .readme => b.readme
  | .file => b.explorer.viewer
  | .changes => b.history.diff

/-- What a pane is open for: the number of the selection, and the path of the file or the id of the
commit.  The readme is open always. -/
def opening? (b : Browser) : Pane → Option (Nat × String)
  | .readme => some (b.generation, "")
  | .file => b.explorer.opened.map (b.generation, ·)
  | .changes => b.history.opened.map (b.generation, ·)

/-- The results that a pane takes for its own. -/
def Takes (b : Browser) (a : Action) : Pane → Prop
  | .readme => a.subject? = some .readme ∧ a.generation? = some b.generation
  | .file => ∃ m, a = .files b.generation m ∧ b.explorer.pending = some m.path
  | .changes => ∃ m id, a = .log b.generation m ∧ b.history.opened = some id ∧ m.commit? = some id

variable {b b' : Browser} {a : Action} {rs : List Request} {p : Pane} {o : Nat × String}

theorem opening?_file (h : b.opening? .file = some o) :
    b.explorer.opened = some o.2 ∧ b.generation = o.1 := by
  obtain ⟨f, opened, rfl⟩ := Option.map_eq_some_iff.mp h
  exact ⟨opened, rfl⟩

theorem opening?_changes (h : b.opening? .changes = some o) :
    b.history.opened = some o.2 ∧ b.generation = o.1 := by
  obtain ⟨id, opened, rfl⟩ := Option.map_eq_some_iff.mp h
  exact ⟨opened, rfl⟩

/-- What is open is open for the current selection. -/
theorem generation_of_opening? (h : b.opening? p = some o) : b.generation = o.1 := by
  cases p with
  | readme => exact congrArg Prod.fst (Option.some.inj h)
  | file => exact (opening?_file h).2
  | changes => exact (opening?_changes h).2

theorem not_takes_of_command (command : a.generation? = none) : ¬ b.Takes a p := by
  cases p with
  | readme => exact fun takes => nomatch command.symm.trans takes.2
  | file =>
    rintro ⟨m, rfl, -⟩
    exact nomatch command
  | changes =>
    rintro ⟨m, id, rfl, -⟩
    exact nomatch command

/-- **As long as a pane stays open and takes no result, its text is the same.**  Only a command
moves the window over it. -/
theorem Change.pager_moved (c : b.Change a b' rs) (p : Pane) (before : b.opening? p = some o)
    (after : b'.opening? p = some o) (foreign : ¬ b.Takes a p) :
    (b.pager p).Moved (b'.pager p) ∧ (a.generation? ≠ none → b'.pager p = b.pager p) := by
  have same : b'.generation = b.generation :=
    (generation_of_opening? after).trans (generation_of_opening? before).symm
  cases p with
  | readme =>
    cases c with
    | selected r => exact absurd same (Nat.succ_ne_self _)
    | readmeShown | readmeMissed => exact absurd ⟨rfl, rfl⟩ foreign
    | resized w h => exact ⟨.of_setSize _ _ _, fun result => absurd rfl result⟩
    | @readmeInput i =>
      exact ⟨.of_input _ i, fun result => absurd i.action_generation? result⟩
    | _ => exact ⟨.refl _, fun _ => rfl⟩
  | file =>
    obtain ⟨before, -⟩ := opening?_file before
    obtain ⟨after, -⟩ := opening?_file after
    cases c with
    | selected r => exact absurd same (Nat.succ_ne_self _)
    | resolved => exact nomatch after
    | @filesReceived r m _ =>
      have kept : b.explorer.receive m = b.explorer :=
        Explorer.receive_of_ne fun pending => foreign ⟨m, rfl, pending⟩
      have kept : (b.explorer.receive m).viewer = b.explorer.viewer := by rw [kept]
      exact ⟨Pager.Moved.of_eq kept, fun _ => kept⟩
    | resized w h => exact ⟨.of_setSize _ _ _, fun result => absurd rfl result⟩
    | @filesInput i =>
      exact ⟨(b.explorer.input_response i).viewer_moved before after,
        fun result => absurd i.action_generation? result⟩
    | _ => exact ⟨.refl _, fun _ => rfl⟩
  | changes =>
    obtain ⟨before, -⟩ := opening?_changes before
    obtain ⟨after, -⟩ := opening?_changes after
    cases c with
    | selected r => exact absurd same (Nat.succ_ne_self _)
    | resolved => exact nomatch after
    | @logReceived r m _ =>
      have kept : (b.history.receive m).1.diff = b.history.diff :=
        (b.history.receive_receipt m).diff_eq before fun about => foreign ⟨m, _, rfl, before, about⟩
      exact ⟨Pager.Moved.of_eq kept, fun _ => kept⟩
    | resized w h => exact ⟨.of_setSize _ _ _, fun result => absurd rfl result⟩
    | @commitsInput i =>
      exact ⟨(b.history.input_response i).diff_moved before after,
        fun result => absurd i.action_generation? result⟩
    | _ => exact ⟨.refl _, fun _ => rfl⟩

/-- Nothing is opened while changes are open. -/
theorem Change.fetchCommit_notMem (c : b.Change a b' rs) (before : b.opening? .changes = some o)
    (after : b'.opening? .changes = some o) (t : Ticket) (id : String) :
    .fetchCommit t id ∉ rs := by
  have same : b'.generation = b.generation :=
    (generation_of_opening? after).trans (generation_of_opening? before).symm
  obtain ⟨before, -⟩ := opening?_changes before
  obtain ⟨after, -⟩ := opening?_changes after
  cases c with
  | selected r => exact absurd same (Nat.succ_ne_self _)
  | resolved => exact nomatch after
  | @logReceived r m _ => exact (b.history.receive_receipt m).fetchCommit_notMem t id
  | @filesInput i r _ _ error =>
    exact (b.explorer.input_response i).fetchCommit_notMem t id
  | @commitsInput i => exact (b.history.input_response i).fetchCommit_notMem before t id
  | _ => exact List.not_mem_nil

/-! ### What is open, and what is no longer waited for -/

/-- Nothing is open before the reference is known, and a file that has come is not waited for. -/
structure Served (b : Browser) : Prop where
  closed : b.stage ≠ .ready → b.explorer.opened = none ∧ b.history.opened = none
  file : b.explorer.Served

/-- **Every change keeps that.** -/
theorem Change.served (c : b.Change a b' rs) (hb : Agrees b) (h : Served b) : Served b' := by
  cases c with
  | selected r => exact ⟨fun _ => ⟨rfl, rfl⟩, Explorer.served_of_closed rfl⟩
  | resolved => exact ⟨fun stage => absurd rfl stage, Explorer.served_of_closed rfl⟩
  | @logReceived r m _ =>
    refine ⟨fun stage => ?_, h.file⟩
    obtain ⟨closed, closed'⟩ := h.closed stage
    exact ⟨closed, (b.history.receive_receipt m).opened_eq.trans closed'⟩
  | @filesReceived r m _ =>
    refine ⟨fun stage => ?_, (b.explorer.receive_receipt m).served h.file⟩
    obtain ⟨closed, closed'⟩ := h.closed stage
    exact ⟨(b.explorer.receive_receipt m).opened_eq.trans closed, closed'⟩
  | @filesInput i r _ tab error =>
    refine ⟨fun stage => ?_, (b.explorer.input_response i).served h.file⟩
    obtain ⟨ht, -⟩ := hb.rests stage
    exact absurd (tab.symm.trans ht) (by decide)
  | @commitsInput i r _ tab error =>
    refine ⟨fun stage => ?_, h.file⟩
    obtain ⟨ht, -⟩ := hb.rests stage
    exact absurd (tab.symm.trans ht) (by decide)
  | _ => exact ⟨h.closed, h.file⟩

/-- **A result neither opens nor closes anything.** -/
theorem Change.opening?_eq (c : b.Change a b' rs) (h : Served b) (result : a.generation? ≠ none)
    (p : Pane) : b'.opening? p = b.opening? p := by
  cases c with
  | selected => exact absurd rfl result
  | noted command | tabbed command => exact absurd command result
  | resized => exact absurd rfl result
  | @readmeInput i => exact absurd i.action_generation? result
  | @filesInput i => exact absurd i.action_generation? result
  | @commitsInput i => exact absurd i.action_generation? result
  | resolved selected stage =>
    obtain ⟨closed, closed'⟩ := h.closed (by rw [stage]; decide)
    cases p with
    | readme => rfl
    | file => exact (congrArg (Option.map _) closed).symm
    | changes => exact (congrArg (Option.map _) closed').symm
  | @logReceived r m _ =>
    cases p with
    | changes => exact congrArg (Option.map _) (b.history.receive_receipt m).opened_eq
    | _ => rfl
  | @filesReceived r m _ =>
    cases p with
    | file => exact congrArg (Option.map _) (b.explorer.receive_receipt m).opened_eq
    | _ => rfl
  | _ => cases p <;> rfl

end Browser

end RepoBrowser
