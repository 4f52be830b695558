import RepoBrowser.Proofs.Exchange.Waiting
import RepoBrowser.Proofs.Explorer.Walk

/-!
# The way back

A directory that has been listed stays as it was listed, and each directory above the one that is
shown remembers by which entry it was left.  So the way back needs no request.

* `Entry.Before`, `pairwise_sortEntries` — the order of display;
* `Explorer.Trail` — each directory on the way back has the entry that leads to the one below it;
* `Forge.KeepsKindsApart`, `Reachable.apart` — no listing arrives for a file that is open;
* `Step.lookup_eq`, `Later.lookup_eq` — what is kept is never replaced;
* `Reachable.trail_of_apart`, `Reachable.trail` — the way back is there at any time;
* `listings_stay_and_lead_back` — what walking can rely on.
-/

namespace RepoBrowser

open Exchange (sampleForge sampleForge_separatesKinds)

/-- No path is listed both as a directory and as a file or a link.  Of the root, which nothing needs
to list, nothing is said. -/
def Forge.KeepsKindsApart (forge : Forge Set) : Prop :=
  ∀ r n path, forge.Lists r n path .directory →
    ¬ forge.Lists r n path .file ∧ ¬ forge.Lists r n path .symlink

theorem Forge.SeparatesKinds.keepsKindsApart {forge : Forge Set} (kinds : forge.SeparatesKinds) :
    forge.KeepsKindsApart := fun r n path listed => kinds r n path (.inr listed)

/-! ### The order of display -/

/-- Directories come before all else, and names in their order. -/
def Entry.Before (a b : Entry) : Prop :=
  (a.isDirectory = true ∧ b.isDirectory = false) ∨ (a.isDirectory = b.isDirectory ∧ a.name ≤ b.name)

theorem Entry.le_iff {a b : Entry} : a.le b = true ↔ a.Before b := by
  unfold Entry.le Entry.Before
  cases a.isDirectory <;> cases b.isDirectory <;> simp

theorem Entry.Before.trans {a b c : Entry} (h : a.Before b) (h' : b.Before c) : a.Before c := by
  rcases h with ⟨ha, hb⟩ | ⟨hab, hle⟩
  · rcases h' with ⟨hb', -⟩ | ⟨hbc, -⟩
    · exact nomatch hb.symm.trans hb'
    · exact .inl ⟨ha, hbc.symm.trans hb⟩
  · rcases h' with ⟨hb, hc⟩ | ⟨hbc, hle'⟩
    · exact .inl ⟨hab.trans hb, hc⟩
    · exact .inr ⟨hab.trans hbc, String.le_trans hle hle'⟩

theorem Entry.before_total (a b : Entry) : a.Before b ∨ b.Before a := by
  unfold Entry.Before
  cases a.isDirectory <;> cases b.isDirectory <;> simp [String.le_total]

theorem pairwise_sortEntries (es : List Entry) : (sortEntries es).Pairwise Entry.Before := by
  have sorted : (es.mergeSort Entry.le).Pairwise fun a b => a.le b = true := by
    refine List.pairwise_mergeSort (fun a b c hab hbc => ?_) (fun a b => ?_) es
    · exact Entry.le_iff.mpr ((Entry.le_iff.mp hab).trans (Entry.le_iff.mp hbc))
    · rw [Bool.or_eq_true, Entry.le_iff, Entry.le_iff]
      exact Entry.before_total a b
  exact sorted.imp Entry.le_iff.mp

/-! ### The way back -/

namespace Explorer

/-- The way back from a path: each directory on it has, where it was left, the entry that leads to
the one below it.  It ends at the root. -/
inductive Trail (ls : Listings) : String → List Visit → Prop
  | root : Trail ls "" []
  | under {v : Visit} {rest : List Visit} {es : List Entry} {e : Entry}
      (known : ls.lookup v.path = some es) (entry : es[v.selected]? = some e)
      (kind : e.kind = .directory) (above : Trail ls v.path rest) : Trail ls e.path (v :: rest)

variable {ls ls' : Listings} {path : String} {visits : List Visit} {x y : Explorer} {i : Input}
  {m : FilesMessage} {out : Explorer × List Request} {s : Source}

theorem Trail.mono (t : Trail ls path visits)
    (stay : ∀ p es, ls.lookup p = some es → ls'.lookup p = some es) : Trail ls' path visits := by
  induction t with
  | root => exact .root
  | under known entry kind _ ih => exact .under (stay _ _ known) entry kind ih

theorem Trail.exists_entry {v : Visit} {rest : List Visit} (t : Trail ls path (v :: rest)) :
    Trail ls v.path rest ∧ ∃ es e, ls.lookup v.path = some es ∧ es[v.selected]? = some e ∧
      e.kind = .directory ∧ e.path = path := by
  cases t with
  | under known entry kind above => exact ⟨above, _, _, known, entry, kind, rfl⟩

/-- The path below a visit is that of the visit before it, or the path that is shown. -/
theorem Trail.exists_entry_at (t : Trail ls path visits) {k : Nat} {v : Visit}
    (visit : visits[k]? = some v) : ∃ es e, ls.lookup v.path = some es ∧
      es[v.selected]? = some e ∧ e.kind = .directory ∧
      (path :: visits.map Visit.path)[k]? = some e.path := by
  induction t generalizing k with
  | root => exact nomatch visit
  | @under u rest es e known entry kind above ih =>
    cases k with
    | zero =>
      obtain rfl : u = v := Option.some.inj visit
      exact ⟨es, e, known, entry, kind, rfl⟩
    | succ k => exact ih visit

theorem Trail.leaveDirectory (t : Trail x.listings x.path x.history) :
    Trail x.leaveDirectory.listings x.leaveDirectory.path x.leaveDirectory.history := by
  unfold Explorer.leaveDirectory
  split
  · exact t
  · rename_i v rest history
    rw [history] at t
    exact t.exists_entry.1

/-- Going into the selected directory makes the way back longer by the one that is left. -/
theorem Trail.visit (t : Trail x.listings x.path x.history) (p : Placed s x) {e : Entry}
    (entry : x.entries[x.selected]? = some e) (kind : e.kind = .directory) :
    Trail x.listings e.path (⟨x.path, x.selected, x.offset⟩ :: x.history) :=
  .under (v := ⟨x.path, x.selected, x.offset⟩) (p.lookup_of_entry entry) entry kind t

theorem Response.trail (r : Response x i out) (p : Placed s x)
    (t : Trail x.listings x.path x.history) :
    Trail out.1.listings out.1.path out.1.history := by
  cases r with
  | recalled _ entry kind => exact t.visit p entry kind
  | entered _ entry kind => exact t.visit p entry kind
  | strayed _ _ source => exact nomatch source.symm.trans p.source
  | left => exact t.leaveDirectory
  | _ => exact t

/-- **Going back** needs no request, and shows what is kept about the directory above. -/
theorem input_back (closed : x.opened = none) (back : Move.ofInput? i = some .back) {v : Visit}
    {rest : List Visit} (history : x.history = v :: rest) :
    x.input i = ({ x with
      history := rest
      entries := (x.listings.lookup v.path).getD []
      path := v.path
      selected := v.selected
      offset := follow v.offset v.selected x.height
      pending := none
      error := none }, []) := by
  have leaves : x.input i = (x.leaveDirectory, []) := by
    unfold input
    rw [closed]
    dsimp only
    rw [back]
    rfl
  rw [leaves]
  unfold leaveDirectory
  rw [history]

/-- Nothing is shown that could be opened or gone back to. -/
structure Bare (x : Explorer) : Prop where
  entries : x.entries = []
  history : x.history = []
  closed : x.opened = none

theorem Bare.leaveDirectory_eq (b : x.Bare) : x.leaveDirectory = x := by
  unfold leaveDirectory
  rw [b.history]

/-- An input makes no request where there is nothing to open, and shows nothing either. -/
theorem Response.bare (r : Response x i out) (b : x.Bare) : out.2 = [] ∧ out.1.Bare := by
  have unselected : x.entries[x.selected]? = none := by
    rw [b.entries]
    rfl
  cases r with
  | closed opened => exact nomatch b.closed.symm.trans opened
  | scrolled opened => exact nomatch b.closed.symm.trans opened
  | recalled _ entry => exact nomatch unselected.symm.trans entry
  | entered _ entry => exact nomatch unselected.symm.trans entry
  | strayed _ entry => exact nomatch unselected.symm.trans entry
  | openedFile _ entry => exact nomatch unselected.symm.trans entry
  | left =>
    refine ⟨rfl, ?_⟩
    show x.leaveDirectory.Bare
    rw [b.leaveDirectory_eq]
    exact b
  | ignored => exact ⟨rfl, b⟩
  | moved => exact ⟨rfl, b.entries, b.history, b.closed⟩

/-- Going back makes no request, whether a file is open or not. -/
theorem input_back_requests (x : Explorer) (back : Move.ofInput? i = some .back) :
    (x.input i).2 = [] := by
  unfold input
  split
  · split <;> rfl
  · rw [back]
    rfl

end Explorer

namespace Walk

variable {forge : Forge Set} {s : Source} {w w' : Walk} {path : String} {es : List Entry}

/-! ### Directories and files -/

/-- What is kept was listed by the forge. -/
theorem Reachable.lists (h : Reachable forge s w)
    (known : w.explorer.listings.lookup path = some es) {e : Entry} (he : e ∈ es) :
    forge.Lists s.ticket.repository s.reference e.path e.kind := by
  obtain ⟨raw, ⟨n, answered⟩, rfl⟩ := h.drawnFrom.kept path es known
  exact ⟨path, raw, h.given n _ answered, e, List.mem_mergeSort.mp he, rfl, rfl⟩

theorem Reachable.lists_shown (h : Reachable forge s w) {e : Entry}
    (he : e ∈ w.explorer.entries) : forge.Lists s.ticket.repository s.reference e.path e.kind :=
  h.lists (h.placed.lookup_eq (List.ne_nil_of_mem he)) he

/-- What is opened as a file was listed as a file or a link. -/
theorem Reachable.opened_listed (h : Reachable forge s w) :
    ∀ f, w.explorer.opened = some f →
      forge.Lists s.ticket.repository s.reference f .file ∨
        forge.Lists s.ticket.repository s.reference f .symlink := by
  induction h with
  | begin x => exact fun _ => (nomatch ·)
  | @step w _ hw st ih =>
    intro f opened
    cases st with
    | input i =>
      rw [goOn_explorer] at opened
      rcases (w.explorer.input_response i).opened_eq opened with opened | ⟨e, he, kind, rfl⟩
      · exact ih f opened
      · have listed := hw.lists_shown he
        rcases kind with kind | kind
        · exact .inl (kind ▸ listed)
        · exact .inr (kind ▸ listed)
    | resized => exact ih f opened
    | @answered n r rest g m =>
      exact ih f ((w.explorer.receive_receipt m).opened_eq.symm.trans opened)

theorem goOn_inFlight_of_nil {out : Explorer × List Request} (none : out.2 = []) :
    (w.goOn out).inFlight = w.inFlight := by
  unfold goOn
  rw [none]
  rfl

/-- Nothing has come of beginning yet: only the root has been asked for, and nothing is shown. -/
structure AtFirst (s : Source) (w : Walk) : Prop where
  flying : ∃ n, w.inFlight = {(n, s.listing "")}
  bare : w.explorer.Bare

theorem atFirst_begin (x : Explorer) (s : Source) : AtFirst s (begin x s) :=
  ⟨⟨0, rfl⟩, rfl, rfl, rfl⟩

theorem AtFirst.input (a : AtFirst s w) (i : Input) : AtFirst s (w.goOn (w.explorer.input i)) := by
  obtain ⟨requests, bare⟩ := (w.explorer.input_response i).bare a.bare
  refine ⟨?_, ?_⟩
  · rw [goOn_inFlight_of_nil requests]
    exact a.flying
  · rw [goOn_explorer]
    exact bare

/-- What is asked for as a directory was listed as one, or it is the root and all that has been
asked for. -/
theorem Reachable.atFirst_or_listed (h : Reachable forge s w) :
    AtFirst s w ∨ ∀ n p, (n, s.listing p) ∈ w.inFlight →
      forge.Lists s.ticket.repository s.reference p .directory := by
  induction h with
  | begin x => exact .inl (atFirst_begin x s)
  | @step w _ hw st ih =>
    cases st with
    | input i =>
      rcases ih with first | listed
      · exact .inl (first.input i)
      · right
        intro n p flying
        rcases mem_inFlight_goOn flying with flying | asked
        · exact listed n p flying
        · obtain ⟨-, e, he, kind, rfl⟩ := (w.explorer.input_response i).listing_asked asked
          exact kind ▸ hw.lists_shown he
    | resized width height =>
      rcases ih with first | listed
      · exact .inl ⟨first.flying, first.bare.entries, first.bare.history, first.bare.closed⟩
      · exact .inr listed
    | @answered n r rest g m before =>
      right
      intro k p flying
      rcases ih with first | listed
      · -- the root was all that was in flight
        obtain ⟨k', only⟩ := first.flying
        obtain ⟨-, rfl⟩ := (Multiset.singleton_eq_cons_iff rest).mp (only.symm.trans before)
        exact absurd flying (Multiset.notMem_zero _)
      · exact listed k p (before ▸ Multiset.mem_cons_of_mem flying)

/-- **No listing arrives for a file that is open**, if the forge keeps the kinds apart. -/
theorem Reachable.apart (h : Reachable forge s w) (kinds : forge.KeepsKindsApart) {n : Nat}
    (flying : (n, s.listing path) ∈ w.inFlight) : w.explorer.opened ≠ some path := by
  intro opened
  rcases h.atFirst_or_listed with first | listed
  · exact nomatch first.bare.closed.symm.trans opened
  · obtain ⟨file, link⟩ := kinds s.ticket.repository s.reference path (listed n path flying)
    rcases h.opened_listed path opened with listed | listed
    · exact file listed
    · exact link listed

/-! ### What is kept -/

/-- **What is kept is never replaced.**  Among the entries only a directory that is not known is
waited for, and while a file is open only this file is. -/
theorem Step.lookup_eq (st : Step forge w w') (h : Reachable forge s w)
    (kinds : forge.KeepsKindsApart) (known : w.explorer.listings.lookup path = some es) :
    w'.explorer.listings.lookup path = some es := by
  cases st with
  | input i =>
    rw [goOn_explorer, (w.explorer.input_response i).listings_eq]
    exact known
  | resized => exact known
  | @answered n r rest g m flying given result =>
    rcases (w.explorer.receive_receipt m).lookup_eq path with same | ⟨raw, rfl, pending, -⟩
    · exact same.trans known
    · have hmem : (n, r.request) ∈ w.inFlight := flying ▸ Multiset.mem_cons_self _ _
      obtain rfl := Reply.eq_listing result (h.isFrom n _ hmem)
      cases opened : w.explorer.opened with
      | none =>
        obtain ⟨-, unknown⟩ := h.placed.here path opened pending
        exact nomatch unknown.symm.trans known
      | some f =>
        obtain rfl : path = f := h.drawnFrom.pending f path opened pending
        exact absurd opened (h.apart kinds hmem)

theorem Later.lookup_eq (later : Later forge w w') (h : Reachable forge s w)
    (kinds : forge.SeparatesKinds) (known : w.explorer.listings.lookup path = some es) :
    w'.explorer.listings.lookup path = some es := by
  induction later with
  | refl => exact known
  | tail before st ih => exact st.lookup_eq (h.later before) kinds.keepsKindsApart ih

/-- **The way back is there at any time.** -/
theorem Reachable.trail_of_apart (h : Reachable forge s w) (kinds : forge.KeepsKindsApart) :
    Explorer.Trail w.explorer.listings w.explorer.path w.explorer.history := by
  induction h with
  | begin x => exact .root
  | @step w _ hw st ih =>
    have stay : ∀ p es, w.explorer.listings.lookup p = some es → _ :=
      fun p es known => st.lookup_eq hw kinds known
    cases st with
    | input i =>
      rw [goOn_explorer]
      exact (w.explorer.input_response i).trail hw.placed ih
    | resized => exact ih
    | @answered n r rest g m =>
      have receipt := w.explorer.receive_receipt m
      show Explorer.Trail _ (w.explorer.receive m).path (w.explorer.receive m).history
      rw [receipt.path_eq, receipt.history_eq]
      exact ih.mono stay

theorem Reachable.trail (h : Reachable forge s w) (kinds : forge.SeparatesKinds) :
    Explorer.Trail w.explorer.listings w.explorer.path w.explorer.history :=
  h.trail_of_apart kinds.keepsKindsApart

/-- **Walking never loses a listing and never asks for one again**, in whatever order answers
arrive, as long as the forge keeps directories apart from files.

* A listing that is kept is an answer to the request for its path, with the same entries, the
  directories first and then by name.  It stays the same for good.
* Only a directory that is not kept is asked for.
* The entries on screen, if there are any, are what is kept about the path that is shown.
* Each directory on the way back is kept, and the entry at which it was left is the directory below
  it, down to the one that is shown.
* Going back makes no request.  It shows the directory above as it is kept, and the directory that
  was left is selected there.
* So whoever comes back to where a directory was left finds it as it was then: the path, the entries
  and the selection. -/
theorem listings_stay_and_lead_back (forge : Forge Set) (s : Source) (w : Walk)
    (kinds : forge.SeparatesKinds) (h : Reachable forge s w) :
    (∀ path es, w.explorer.listings.lookup path = some es →
      (∃ n raw, .answered n ⟨s.listing path, .ok raw⟩ ∈ w.trace ∧ es.Perm raw) ∧
      es.Pairwise Entry.Before ∧
      ∀ w', Later forge w w' → w'.explorer.listings.lookup path = some es) ∧
    (∀ i t n path, .fetchListing t n path ∈ (w.explorer.input i).2 →
      w.explorer.listings.lookup path = none) ∧
    (w.explorer.entries ≠ [] →
      w.explorer.listings.lookup w.explorer.path = some w.explorer.entries) ∧
    (∀ (k : Nat) v, w.explorer.history[k]? = some v → ∃ es e,
      w.explorer.listings.lookup v.path = some es ∧ es[v.selected]? = some e ∧
      e.kind = .directory ∧
      (w.explorer.path :: w.explorer.history.map Visit.path)[k]? = some e.path) ∧
    (∀ i, Move.ofInput? i = some .back → (w.explorer.input i).2 = []) ∧
    (∀ i v rest, Move.ofInput? i = some .back → w.explorer.opened = none →
      w.explorer.history = v :: rest → ∃ y e, w.explorer.input i = (y, []) ∧
        y.path = v.path ∧ w.explorer.listings.lookup v.path = some y.entries ∧
        y.selected = v.selected ∧ y.history = rest ∧
        y.entries[y.selected]? = some e ∧ e.kind = .directory ∧ e.path = w.explorer.path) ∧
    (∀ w', Later forge w w' → w.explorer.entries ≠ [] → w'.explorer.opened = none →
      w'.explorer.history = ⟨w.explorer.path, w.explorer.selected, w.explorer.offset⟩
        :: w.explorer.history →
      ∀ i, Move.ofInput? i = some .back → ∃ y, w'.explorer.input i = (y, []) ∧
        y.path = w.explorer.path ∧ y.entries = w.explorer.entries ∧
        y.selected = w.explorer.selected ∧ y.history = w.explorer.history) := by
  refine ⟨fun path es known => ⟨?answer, ?order, fun w' later => later.lookup_eq h kinds known⟩,
    fun i t n path asked => ?asked, h.placed.lookup_eq, fun k v visit =>
      (h.trail kinds).exists_entry_at visit, fun i => w.explorer.input_back_requests,
    fun i v rest back closed history => ?back, fun w' later shown closed history i back => ?again⟩
  case answer =>
    obtain ⟨raw, ⟨n, answered⟩, rfl⟩ := h.drawnFrom.kept path es known
    exact ⟨n, raw, answered, List.mergeSort_perm raw Entry.le⟩
  case order =>
    obtain ⟨raw, -, rfl⟩ := h.drawnFrom.kept path es known
    exact pairwise_sortEntries raw
  case asked =>
    rcases (w.explorer.input_response i).requests h.placed.source with
      none | ⟨p, one, unknown⟩ | ⟨p, one⟩
    · rw [none] at asked
      exact absurd asked List.not_mem_nil
    · rw [one] at asked
      obtain ⟨-, -, rfl⟩ := Request.fetchListing.inj (List.mem_singleton.mp asked)
      exact unknown
    · rw [one] at asked
      exact nomatch List.mem_singleton.mp asked
  case back =>
    have trail := h.trail kinds
    rw [history] at trail
    obtain ⟨-, es, e, known, entry, kind, here⟩ := trail.exists_entry
    refine ⟨_, e, Explorer.input_back closed back history, rfl, ?_, rfl, rfl, ?_, kind, here⟩
    · show _ = some ((w.explorer.listings.lookup v.path).getD [])
      rw [known]
      rfl
    · show ((w.explorer.listings.lookup v.path).getD [])[v.selected]? = some e
      rw [known]
      exact entry
  case again =>
    have known := later.lookup_eq h kinds (h.placed.lookup_eq shown)
    refine ⟨_, Explorer.input_back closed back history, rfl, ?_, rfl, rfl⟩
    show (w'.explorer.listings.lookup w.explorer.path).getD [] = w.explorer.entries
    rw [known]
    rfl

/-- A directory is gone into, left and gone into again, and the first of the two answers arrives.
The way back leads to the root, with the directory selected. -/
theorem listings_stay_and_lead_back_sample :
    sampleForge.SeparatesKinds ∧ ∃ w y e, Reachable sampleForge Source.sample w ∧
      w.inFlight = {(3, Source.sample.listing "lib")} ∧ w.explorer.path = "lib" ∧
      w.explorer.pending = none ∧
      w.explorer.input (.key ⟨.character 'h', {}⟩) = (y, []) ∧ y.path = "" ∧
      w.explorer.listings.lookup "" = some y.entries ∧ y.entries[y.selected]? = some e ∧
      e.kind = .directory ∧ e.path = "lib" := by
  have h : Reachable sampleForge Source.sample ⟨sampleExplorer, 0, sampleTrace⟩ :=
    reachable_sample rfl
  have h := h.inputAsking (.key ⟨.enter, {}⟩) rfl
  have h := h.input (.key ⟨.escape, {}⟩) rfl
  have h := h.inputAsking (.key ⟨.enter, {}⟩) rfl
  have h := h.answer 2 (Source.sample.listing "lib") (.ok []) (Multiset.cons_swap ..) rfl rfl rfl
  obtain ⟨-, -, -, -, -, back, -⟩ :=
    listings_stay_and_lead_back sampleForge Source.sample _ sampleForge_separatesKinds h
  obtain ⟨y, e, input, path, known, -, -, entry, kind, left⟩ :=
    back (.key ⟨.character 'h', {}⟩) ⟨"", 0, 0⟩ [] rfl rfl rfl
  exact ⟨sampleForge_separatesKinds, _, y, e, h, rfl, rfl, rfl, input, path, known, entry, kind,
    left⟩

end Walk

end RepoBrowser
