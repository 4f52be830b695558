import Mathlib.Logic.Relation
import RepoBrowser.Proofs.Exchange.Basic
import RepoBrowser.Proofs.Explorer.Contents
import RepoBrowser.Proofs.Explorer.Waiting

/-!
# Walking through the directories of a source

An explorer that has begun with a source is given inputs and other sizes at any time, and each of
its requests is answered once at most, in any order, with any outcome that the forge can give.

* `Request.path?`, `Reply.path?_eq` — the path by which requests and results are told apart;
* `Walk` — an explorer, its requests in flight, and what it has asked for and has been answered;
* `Walk.Step`, `Walk.Reachable`, `Walk.Later` — what can happen, and what it leads to;
* `Reachable.drawnFrom`, `Reachable.given` — what is kept and shown are answers of the forge;
* `Explorer.Placed`, `Reachable.placed` — where an explorer is, and what it shows there;
* `reachable_sample` — a walk to begin concrete runs with.

A request is numbered when it is made, so that equal requests can be told apart.  Neither the
numbers nor the record of what has happened has an influence on what happens.
-/

namespace RepoBrowser

/-! ### Requests for directories and files -/

/-- The path that a request for a directory or a file is about. -/
def Request.path? : Request → Option String
  | .fetchListing _ _ path | .fetchFile _ _ path => some path
  | .resolveRepository _ | .fetchReadme _ | .resolveReference _ | .fetchCommits ..
  | .fetchCommit .. => none

/-- The request for a directory of a source. -/
abbrev Source.listing (s : Source) (path : String) : Request :=
  .fetchListing s.ticket s.reference path

/-- The request for a file of a source. -/
abbrev Source.file (s : Source) (path : String) : Request :=
  .fetchFile s.ticket s.reference path

/-- A result is about the path that was asked for. -/
theorem Reply.path?_eq {r : Reply} {g : Nat} {m : FilesMessage} (result : r.action = .files g m) :
    r.request.path? = some m.path := by
  obtain ⟨q, o⟩ := r
  cases q with
  | fetchListing t n path =>
    cases o <;>
    · obtain ⟨-, rfl⟩ := Action.files.inj result
      rfl
  | fetchFile t n path =>
    cases o <;>
    · obtain ⟨-, rfl⟩ := Action.files.inj result
      rfl
  | _ => cases o <;> exact nomatch result

/-- A listing that arrives is the answer to a request for it. -/
theorem Reply.eq_listing {r : Reply} {g : Nat} {path : String} {raw : List Entry} {s : Source}
    (result : r.action = .files g (.listing path raw)) (source : r.request.IsFrom s) :
    r = ⟨s.listing path, .ok raw⟩ := by
  obtain ⟨q, o⟩ := r
  cases q with
  | fetchListing t n asked =>
    obtain rfl : s.ticket = t := (Option.some.inj source.ticket).symm
    obtain rfl : s.reference = n := source.reference n rfl
    cases o with
    | error e => exact nomatch (Action.files.inj result).2
    | ok es =>
      obtain ⟨rfl, rfl⟩ := FilesMessage.listing.inj (Action.files.inj result).2
      rfl
  | fetchFile t n asked => cases o <;> exact nomatch (Action.files.inj result).2
  | _ => cases o <;> exact nomatch result

/-- A text that arrives is the answer to a request for it. -/
theorem Reply.eq_file {r : Reply} {g : Nat} {path content : String} {s : Source}
    (result : r.action = .files g (.file path content)) (source : r.request.IsFrom s) :
    r = ⟨s.file path, .ok content⟩ := by
  obtain ⟨q, o⟩ := r
  cases q with
  | fetchFile t n asked =>
    obtain rfl : s.ticket = t := (Option.some.inj source.ticket).symm
    obtain rfl : s.reference = n := source.reference n rfl
    cases o with
    | error e => exact nomatch (Action.files.inj result).2
    | ok text =>
      obtain ⟨rfl, rfl⟩ := FilesMessage.file.inj (Action.files.inj result).2
      rfl
  | fetchListing t n asked => cases o <;> exact nomatch (Action.files.inj result).2
  | _ => cases o <;> exact nomatch result

namespace Explorer

variable {x y : Explorer} {i : Input} {m : FilesMessage} {out : Explorer × List Request}
  {s : Source}

/-- **An input makes one request at most**: for a directory that is not known, or for a file. -/
theorem Response.requests (r : Response x i out) (source : x.source = some s) :
    out.2 = [] ∨ (∃ path, out.2 = [s.listing path] ∧ x.listings.lookup path = none) ∨
      ∃ path, out.2 = [s.file path] := by
  cases r with
  | @entered e s' _ _ _ unknown source' =>
    obtain rfl : s' = s := Option.some.inj (source'.symm.trans source)
    exact .inr (.inl ⟨e.path, rfl, unknown⟩)
  | @openedFile e s' _ _ _ source' =>
    obtain rfl : s' = s := Option.some.inj (source'.symm.trans source)
    exact .inr (.inr ⟨e.path, rfl⟩)
  | _ => exact .inl rfl

theorem leaveDirectory_listings (x : Explorer) : x.leaveDirectory.listings = x.listings := by
  unfold leaveDirectory
  split <;> rfl

/-- No input changes what is kept. -/
theorem Response.listings_eq (r : Response x i out) : out.1.listings = x.listings := by
  cases r with
  | left => exact x.leaveDirectory_listings
  | _ => rfl

/-- A listing that is kept is in place of any other of its path. -/
theorem keepListing_lookup (x : Explorer) (path other : String) (raw : List Entry) :
    (x.keepListing path raw).listings.lookup other
      = if other = path then some (sortEntries raw) else x.listings.lookup other := by
  rw [← Listings.lookup_insert]
  unfold keepListing
  dsimp only
  split <;> rfl

/-- What is known stays known. -/
theorem keepListing_known (x : Explorer) (path : String) (raw : List Entry) {other : String}
    (known : x.listings.lookup other ≠ none) :
    (x.keepListing path raw).listings.lookup other ≠ none := by
  rw [keepListing_lookup]
  split
  · exact Option.some_ne_none _
  · exact known

theorem keepListing_path (x : Explorer) (path : String) (raw : List Entry) :
    (x.keepListing path raw).path = x.path := by
  unfold keepListing
  dsimp only
  split <;> rfl

theorem keepListing_history (x : Explorer) (path : String) (raw : List Entry) :
    (x.keepListing path raw).history = x.history := by
  unfold keepListing
  dsimp only
  split <;> rfl

theorem Receipt.path_eq (r : Receipt x m y) : y.path = x.path := by
  cases r with
  | listed => exact x.keepListing_path _ _
  | _ => rfl

theorem Receipt.history_eq (r : Receipt x m y) : y.history = x.history := by
  cases r with
  | listed => exact x.keepListing_history _ _
  | _ => rfl

/-- **A result adds the listing that it brings**, if it is waited for, and nothing else. -/
theorem Receipt.lookup_eq (r : Receipt x m y) (path : String) :
    y.listings.lookup path = x.listings.lookup path ∨
      ∃ raw, m = .listing path raw ∧ x.pending = some path ∧
        y.listings.lookup path = some (sortEntries raw) := by
  cases r with
  | @listed p raw pending =>
    rw [keepListing_lookup]
    split
    · rename_i same
      subst same
      exact .inr ⟨raw, rfl, pending, rfl⟩
    · exact .inl rfl
  | _ => exact .inl rfl

/-! ### Where an explorer is -/

/-- An explorer shows what is kept about the directory it is in, and nothing if nothing is kept.
Among the entries only this directory is waited for.  All the directories above it are known, and so
is the one in which a file was opened.  An error is shown only in place of what is not known. -/
structure Placed (s : Source) (x : Explorer) : Prop where
  source : x.source = some s
  entries : x.entries = (x.listings.lookup x.path).getD []
  here : ∀ p, x.opened = none → x.pending = some p → p = x.path ∧ x.listings.lookup p = none
  inside : ∀ f, x.opened = some f → x.listings.lookup x.path ≠ none
  above : ∀ v ∈ x.history, x.listings.lookup v.path ≠ none
  fine : x.listings.lookup x.path ≠ none → x.error = none

theorem placed_start (x : Explorer) (s : Source) : Placed s (x.start s).1 where
  source := rfl
  entries := rfl
  here := fun _ _ pending => ⟨(Option.some.inj pending).symm, rfl⟩
  inside := fun _ => (nomatch ·)
  above := fun _ visit => absurd visit List.not_mem_nil
  fine := fun _ => rfl

theorem Placed.setSize (p : Placed s x) (width height : Nat) : Placed s (x.setSize width height) :=
  ⟨p.source, p.entries, p.here, p.inside, p.above, p.fine⟩

/-- Entries that are shown are kept. -/
theorem Placed.lookup_eq (p : Placed s x) (shown : x.entries ≠ []) :
    x.listings.lookup x.path = some x.entries := by
  have here := p.entries
  cases known : x.listings.lookup x.path with
  | none =>
    rw [known] at here
    exact absurd here shown
  | some es =>
    rw [known] at here
    exact congrArg some here.symm

theorem Placed.lookup_of_entry (p : Placed s x) {e : Entry} {k : Nat}
    (entry : x.entries[k]? = some e) : x.listings.lookup x.path = some x.entries :=
  p.lookup_eq (List.ne_nil_of_mem (List.mem_of_getElem? entry))

/-- Going into a directory leaves one behind that is known. -/
theorem Placed.above_visit (p : Placed s x) {e : Entry} (entry : x.entries[x.selected]? = some e)
    (path : String) : ∀ v ∈ (x.visit path).history, x.listings.lookup v.path ≠ none := by
  intro v visit
  rcases List.mem_cons.mp visit with rfl | visit
  · rw [show x.listings.lookup x.path = some x.entries from p.lookup_of_entry entry]
    exact Option.some_ne_none _
  · exact p.above v visit

theorem Placed.leaveDirectory (p : Placed s x) (closed : x.opened = none) :
    Placed s x.leaveDirectory := by
  unfold Explorer.leaveDirectory
  split
  · exact p
  · rename_i v rest history
    refine ⟨p.source, rfl, fun _ _ => (nomatch ·), fun f opened => ?_, fun u visit => ?_,
      fun _ => rfl⟩
    · exact nomatch closed.symm.trans opened
    · exact p.above u (history ▸ List.mem_cons_of_mem v visit)

theorem Response.placed (r : Response x i out) (p : Placed s x) : Placed s out.1 := by
  cases r with
  | ignored => exact p
  | closed opened =>
    exact ⟨p.source, p.entries, fun _ _ => (nomatch ·), fun _ => (nomatch ·), p.above, p.fine⟩
  | scrolled => exact ⟨p.source, p.entries, p.here, p.inside, p.above, p.fine⟩
  | @recalled e es closed entry _ known =>
    refine ⟨p.source, ?_, fun _ _ => (nomatch ·), fun f opened => ?_, p.above_visit entry e.path,
      fun _ => rfl⟩
    · show es = (x.listings.lookup e.path).getD []
      rw [known]
      rfl
    · exact nomatch closed.symm.trans opened
  | @entered e s' closed entry _ unknown =>
    refine ⟨p.source, ?_, fun q _ pending => ?_, fun f opened => ?_, p.above_visit entry e.path,
      fun _ => rfl⟩
    · show [] = (x.listings.lookup e.path).getD []
      rw [unknown]
      rfl
    · obtain rfl := Option.some.inj pending
      exact ⟨rfl, unknown⟩
    · exact nomatch closed.symm.trans opened
  | strayed _ _ source => exact nomatch source.symm.trans p.source
  | openedFile _ entry =>
    refine ⟨p.source, p.entries, fun _ => (nomatch ·), fun f _ => ?_, p.above, p.fine⟩
    show x.listings.lookup x.path ≠ none
    rw [p.lookup_of_entry entry]
    exact Option.some_ne_none _
  | left closed => exact p.leaveDirectory closed
  | moved => exact ⟨p.source, p.entries, p.here, p.inside, p.above, p.fine⟩

theorem Placed.keepListing (p : Placed s x) (path : String) (raw : List Entry) :
    Placed s (x.keepListing path raw) := by
  refine ⟨(x.keepListing_source path raw).trans p.source, ?entries, fun q _ pending => ?here,
    fun f opened => ?inside, fun v visit => ?above, fun known => ?fine⟩
  case entries =>
    rw [keepListing_lookup, keepListing_path]
    unfold Explorer.keepListing
    dsimp only
    split
    · rename_i here
      rw [if_pos here.symm]
      rfl
    · rename_i elsewhere
      rw [if_neg (Ne.symm elsewhere)]
      exact p.entries
  case here => exact nomatch (x.keepListing_pending path raw).symm.trans pending
  case inside =>
    rw [keepListing_path]
    have opened : x.opened = some f := (x.keepListing_opened path raw).symm.trans opened
    exact x.keepListing_known path raw (p.inside f opened)
  case above =>
    rw [keepListing_history] at visit
    exact x.keepListing_known path raw (p.above v visit)
  case fine =>
    rw [keepListing_lookup, keepListing_path] at known
    unfold Explorer.keepListing
    dsimp only
    split
    · rfl
    · rename_i elsewhere
      rw [if_neg (Ne.symm elsewhere)] at known
      exact p.fine known

theorem Receipt.placed (r : Receipt x m y) (p : Placed s x) : Placed s y := by
  cases r with
  | dropped => exact p
  | listed => exact p.keepListing _ _
  | shown =>
    exact ⟨p.source, p.entries, fun _ _ => (nomatch ·), p.inside, p.above, p.fine⟩
  | fileMissed =>
    exact ⟨p.source, p.entries, fun _ _ => (nomatch ·), p.inside, p.above, p.fine⟩
  | @listingMissed path reason pending closed =>
    refine ⟨p.source, p.entries, fun _ _ => (nomatch ·), p.inside, p.above, fun known => ?_⟩
    -- what is waited for among the entries is not known
    obtain ⟨rfl, unknown⟩ := p.here path closed pending
    exact absurd unknown known

end Explorer

/-! ### Walks -/

/-- Something that has happened to the request of a number. -/
inductive Record where
  | asked (number : Nat) (q : Request)
  | answered (number : Nat) (r : Reply)

/-- An explorer with its requests in flight and the record of what has happened to its requests, the
latest first. -/
structure Walk where
  explorer : Explorer
  inFlight : Multiset (Nat × Request)
  trace : List Record

namespace Walk

/-- Makes requests, with numbers that no other request has. -/
def ask (w : Walk) : List Request → Walk
  | [] => w
  | q :: qs =>
    ask { w with
      inFlight := (w.trace.length, q) ::ₘ w.inFlight
      trace := .asked w.trace.length q :: w.trace } qs

/-- Goes on with another explorer, and makes the requests that come with it. -/
def goOn (w : Walk) (out : Explorer × List Request) : Walk :=
  ({ w with explorer := out.1 } : Walk).ask out.2

/-- An explorer, whatever it was used for before, begins with a source. -/
def begin (x : Explorer) (s : Source) : Walk := (⟨x, 0, []⟩ : Walk).goOn (x.start s)

/-- What can happen: an input, a change of the size, or the answer to a request in flight. -/
inductive Step (forge : Forge Set) : Walk → Walk → Prop
  | input {w : Walk} (i : Input) : Step forge w (w.goOn (w.explorer.input i))
  | resized {w : Walk} (width height : Nat) :
      Step forge w { w with explorer := w.explorer.setSize width height }
  | answered {w : Walk} {n : Nat} {r : Reply} {rest : Multiset (Nat × Request)} {g : Nat}
      {m : FilesMessage} (flying : w.inFlight = (n, r.request) ::ₘ rest)
      (given : r.outcome ∈ forge.ask r.request.query) (result : r.action = .files g m) :
      Step forge w ⟨w.explorer.receive m, rest, .answered n r :: w.trace⟩

/-- What can come of beginning with a source. -/
inductive Reachable (forge : Forge Set) (s : Source) : Walk → Prop
  | begin (x : Explorer) : Reachable forge s (begin x s)
  | step {w w' : Walk} : Reachable forge s w → Step forge w w' → Reachable forge s w'

/-- What can come of a walk later on. -/
def Later (forge : Forge Set) : Walk → Walk → Prop := Relation.ReflTransGen (Step forge)

variable {forge : Forge Set} {s : Source} {w w' : Walk} {out : Explorer × List Request}

theorem Reachable.later (h : Reachable forge s w) (later : Later forge w w') :
    Reachable forge s w' := by
  induction later with
  | refl => exact h
  | tail _ st ih => exact ih.step st

theorem ask_explorer (w : Walk) (qs : List Request) : (w.ask qs).explorer = w.explorer := by
  induction qs generalizing w with
  | nil => rfl
  | cons q qs ih => exact ih _

theorem mem_inFlight_ask {n : Nat} {q : Request} {qs : List Request}
    (h : (n, q) ∈ (w.ask qs).inFlight) : (n, q) ∈ w.inFlight ∨ q ∈ qs := by
  induction qs generalizing w with
  | nil => exact .inl h
  | cons p ps ih =>
    rcases ih h with h | h
    · rcases Multiset.mem_cons.mp h with h | h
      · exact .inr ((Prod.mk.inj h).2 ▸ List.mem_cons_self)
      · exact .inl h
    · exact .inr (List.mem_cons_of_mem p h)

theorem mem_inFlight_ask_of_mem {n : Nat} {q : Request} {qs : List Request}
    (h : (n, q) ∈ w.inFlight) : (n, q) ∈ (w.ask qs).inFlight := by
  induction qs generalizing w with
  | nil => exact h
  | cons p ps ih => exact ih (Multiset.mem_cons_of_mem h)

/-- What is asked for is in flight. -/
theorem exists_mem_inFlight_ask {q : Request} {qs : List Request} (h : q ∈ qs) :
    ∃ n, (n, q) ∈ (w.ask qs).inFlight := by
  induction qs generalizing w with
  | nil => exact absurd h List.not_mem_nil
  | cons p ps ih =>
    rcases List.mem_cons.mp h with rfl | h
    · refine ⟨w.trace.length, ?_⟩
      rw [ask]
      exact mem_inFlight_ask_of_mem (Multiset.mem_cons_self _ _)
    · exact ih h

theorem mem_trace_ask {record : Record} {qs : List Request} (h : record ∈ w.trace) :
    record ∈ (w.ask qs).trace := by
  induction qs generalizing w with
  | nil => exact h
  | cons p ps ih => exact ih (List.mem_cons_of_mem _ h)

theorem answered_of_mem_trace_ask {n : Nat} {r : Reply} {qs : List Request}
    (h : .answered n r ∈ (w.ask qs).trace) : .answered n r ∈ w.trace := by
  induction qs generalizing w with
  | nil => exact h
  | cons p ps ih =>
    rcases List.mem_cons.mp (ih h) with h | h
    · exact nomatch h
    · exact h

@[simp] theorem goOn_explorer (w : Walk) (out : Explorer × List Request) :
    (w.goOn out).explorer = out.1 := ask_explorer _ _

theorem goOn_trace_of_nil (none : out.2 = []) : (w.goOn out).trace = w.trace := by
  unfold goOn
  rw [none]
  rfl

theorem goOn_trace_of_singleton {q : Request} (one : out.2 = [q]) :
    (w.goOn out).trace = .asked w.trace.length q :: w.trace := by
  unfold goOn
  rw [one]
  rfl

theorem mem_inFlight_goOn {n : Nat} {q : Request} (h : (n, q) ∈ (w.goOn out).inFlight) :
    (n, q) ∈ w.inFlight ∨ q ∈ out.2 :=
  mem_inFlight_ask (w := { w with explorer := out.1 }) h

theorem mem_inFlight_goOn_of_mem {n : Nat} {q : Request} (h : (n, q) ∈ w.inFlight) :
    (n, q) ∈ (w.goOn out).inFlight :=
  mem_inFlight_ask_of_mem (w := { w with explorer := out.1 }) h

theorem exists_mem_inFlight_goOn {q : Request} (h : q ∈ out.2) :
    ∃ n, (n, q) ∈ (w.goOn out).inFlight := exists_mem_inFlight_ask h

theorem mem_trace_goOn {record : Record} (h : record ∈ w.trace) :
    record ∈ (w.goOn out).trace := mem_trace_ask (w := { w with explorer := out.1 }) h

theorem answered_of_mem_trace_goOn {n : Nat} {r : Reply}
    (h : .answered n r ∈ (w.goOn out).trace) : .answered n r ∈ w.trace :=
  answered_of_mem_trace_ask (w := { w with explorer := out.1 }) h

/-! ### What is kept and shown -/

theorem Reachable.placed (h : Reachable forge s w) : w.explorer.Placed s := by
  induction h with
  | begin x =>
    rw [Walk.begin, goOn_explorer]
    exact Explorer.placed_start x s
  | step _ st ih =>
    cases st with
    | input i =>
      rw [goOn_explorer]
      exact (Explorer.input_response _ i).placed ih
    | resized width height => exact ih.setSize width height
    | answered => exact (Explorer.receive_receipt _ _).placed ih

/-- Only requests to the source are in flight. -/
theorem Reachable.isFrom (h : Reachable forge s w) :
    ∀ n q, (n, q) ∈ w.inFlight → q.IsFrom s := by
  induction h with
  | begin x =>
    intro n q hq
    obtain ⟨-, rfl⟩ := Prod.mk.inj (Multiset.mem_singleton.mp hq)
    exact .fetchListing s ""
  | @step w _ hw st ih =>
    intro n q hq
    cases st with
    | input i =>
      rcases mem_inFlight_goOn hq with hq | hq
      · exact ih n q hq
      · obtain ⟨s', source, hfrom⟩ := (w.explorer.input_response i).isFrom q hq
        obtain rfl : s' = s := Option.some.inj (source.symm.trans hw.placed.source)
        exact hfrom
    | resized => exact ih n q hq
    | answered flying => exact ih n q (flying ▸ Multiset.mem_cons_of_mem hq)

/-- The directories that have been listed since the walk began. -/
def Listed (s : Source) (w : Walk) (path : String) (raw : List Entry) : Prop :=
  ∃ n, .answered n ⟨s.listing path, .ok raw⟩ ∈ w.trace

/-- The files that have been read since the walk began. -/
def Read (s : Source) (w : Walk) (path content : String) : Prop :=
  ∃ n, .answered n ⟨s.file path, .ok content⟩ ∈ w.trace

theorem drawnFrom_mono {x : Explorer} (d : x.DrawnFrom (w.Listed s) (w.Read s))
    (more : ∀ record ∈ w.trace, record ∈ w'.trace) : x.DrawnFrom (w'.Listed s) (w'.Read s) := by
  refine d.mono (fun path raw listed => ?_) fun path content read => ?_
  · obtain ⟨n, hn⟩ := listed
    exact ⟨n, more _ hn⟩
  · obtain ⟨n, hn⟩ := read
    exact ⟨n, more _ hn⟩

/-- **What is kept and shown are answers** that have come since the walk began. -/
theorem Reachable.drawnFrom (h : Reachable forge s w) :
    w.explorer.DrawnFrom (w.Listed s) (w.Read s) := by
  induction h with
  | begin x => exact Explorer.drawnFrom_nil rfl rfl rfl
  | @step w _ hw st ih =>
    cases st with
    | input i =>
      rw [goOn_explorer]
      exact drawnFrom_mono ((w.explorer.input_response i).drawnFrom ih) fun _ => mem_trace_goOn
    | resized width height => exact ih.setSize width height
    | @answered n r rest g m flying given result =>
      have hfrom : r.request.IsFrom s := hw.isFrom n r.request (flying ▸ Multiset.mem_cons_self _ _)
      have drawn : w.explorer.DrawnFrom (Listed s ⟨w.explorer.receive m, rest, _⟩)
          (Read s ⟨w.explorer.receive m, rest, _⟩) :=
        drawnFrom_mono ih fun _ => List.mem_cons_of_mem (Record.answered n r)
      refine (w.explorer.receive_receipt m).drawnFrom drawn ?_ ?_
      · rintro path raw rfl
        obtain rfl := Reply.eq_listing result hfrom
        exact ⟨n, List.mem_cons_self⟩
      · rintro path content rfl
        obtain rfl := Reply.eq_file result hfrom
        exact ⟨n, List.mem_cons_self⟩

/-- The forge has given every answer. -/
theorem Reachable.given (h : Reachable forge s w) :
    ∀ n r, .answered n r ∈ w.trace → r.outcome ∈ forge.ask r.request.query := by
  induction h with
  | begin x => exact fun n r hr => nomatch List.mem_singleton.mp hr
  | step _ st ih =>
    intro n r hr
    cases st with
    | input i => exact ih n r (answered_of_mem_trace_goOn hr)
    | resized => exact ih n r hr
    | answered _ given =>
      rcases List.mem_cons.mp hr with heq | hr
      · obtain ⟨-, rfl⟩ := Record.answered.inj heq
        exact given
      · exact ih n r hr

/-! ### Runs step by step -/

section Runs

variable {x y : Explorer} {flying rest : Multiset (Nat × Request)} {trace : List Record}
  {q : Request}

theorem Reachable.input (h : Reachable forge s ⟨x, flying, trace⟩) (i : Input)
    (step : x.input i = (y, [])) : Reachable forge s ⟨y, flying, trace⟩ := by
  have next := h.step (.input i)
  rw [show (⟨x, flying, trace⟩ : Walk).explorer.input i = (y, []) from step] at next
  exact next

theorem Reachable.inputAsking (h : Reachable forge s ⟨x, flying, trace⟩) (i : Input)
    (step : x.input i = (y, [q])) : Reachable forge s
      ⟨y, (trace.length, q) ::ₘ flying, .asked trace.length q :: trace⟩ := by
  have next := h.step (.input i)
  rw [show (⟨x, flying, trace⟩ : Walk).explorer.input i = (y, [q]) from step] at next
  exact next

theorem Reachable.answer (h : Reachable forge s ⟨x, flying, trace⟩) (n : Nat) (q : Request)
    (o : q.query.Outcome) {g : Nat} {m : FilesMessage} (here : flying = (n, q) ::ₘ rest)
    (given : o ∈ forge.ask q.query) (result : q.answer o = .files g m)
    (step : x.receive m = y) : Reachable forge s ⟨y, rest, .answered n ⟨q, o⟩ :: trace⟩ := by
  rw [← step]
  exact h.step (.answered (r := ⟨q, o⟩) here given result)

end Runs

/-! ### A sample -/

/-- A directory and a file, in the order of display. -/
def sampleEntries : List Entry :=
  [⟨"lib", "lib", .directory, 0⟩, ⟨"README.md", "README.md", .file, 6⟩]

theorem sortEntries_sampleEntries : sortEntries sampleEntries = sampleEntries :=
  List.mergeSort_of_pairwise (by decide)

/-- The sample with its root listed. -/
def sampleExplorer : Explorer where
  source := some Source.sample
  entries := sampleEntries
  listings := [("", sampleEntries)]

/-- The record of how the root of the sample came to be listed. -/
def sampleTrace : List Record :=
  [.answered 0 ⟨Source.sample.listing "", .ok sampleEntries⟩,
    .asked 0 (Source.sample.listing "")]

theorem receive_sampleEntries :
    (begin {} Source.sample).explorer.receive (.listing "" sampleEntries) = sampleExplorer := by
  show ((({} : Explorer).start Source.sample).1).keepListing "" sampleEntries = sampleExplorer
  unfold Explorer.keepListing
  rw [sortEntries_sampleEntries]
  rfl

theorem reachable_sample (given : .ok sampleEntries ∈ forge.ask (Source.sample.listing "").query) :
    Reachable forge Source.sample ⟨sampleExplorer, 0, sampleTrace⟩ := by
  have h : Reachable forge Source.sample (begin {} Source.sample) := .begin {}
  exact h.answer 0 (Source.sample.listing "") (.ok sampleEntries) rfl given rfl
    receive_sampleEntries

end Walk

end RepoBrowser
