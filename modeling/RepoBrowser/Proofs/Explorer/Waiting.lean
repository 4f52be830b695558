import RepoBrowser.Proofs.Explorer.Response

/-!
# What an explorer waits for

* `Explorer.Wants` — the requests whose answers an explorer waits for;
* `Explorer.Poised` — an explorer that waits does so for what it shows;
* `Response.asked_or_wants`, `Receipt.wants` — what is waited for is asked for when the waiting
  begins, and a result about it ends the waiting;
* `Response.listing_asked`, `Response.opened_eq` — only directories are listed, and only files and
  links are opened.
-/

namespace RepoBrowser.Explorer

/-- The requests whose answers are waited for. -/
inductive Wants (x : Explorer) : Request → Prop
  | listing {s : Source} {path : String} (source : x.source = some s) (closed : x.opened = none)
      (pending : x.pending = some path) : Wants x (.fetchListing s.ticket s.reference path)
  | file {s : Source} {f : String} (source : x.source = some s) (opened : x.opened = some f)
      (pending : x.pending = some f) : Wants x (.fetchFile s.ticket s.reference f)

/-- Nothing is waited for without a source.  What is waited for among the entries is the directory
that is shown, which is not known yet.  While a file says that it is loading, it is waited for. -/
structure Poised (x : Explorer) : Prop where
  idle : x.source = none → x.pending = none
  here : ∀ p, x.opened = none → x.pending = some p → p = x.path ∧ x.listings.lookup p = none
  loading : ∀ f, x.opened = some f → x.viewer.loading = true → x.pending = some f

variable {x y : Explorer} {i : Input} {m : FilesMessage} {out : Explorer × List Request}
  {w : Request}

/-! ### The answers that are waited for -/

theorem not_wants_of_idle (idle : x.pending = none) : ¬ x.Wants w := by
  intro h
  cases h with
  | listing _ _ pending => exact nomatch idle.symm.trans pending
  | file _ _ pending => exact nomatch idle.symm.trans pending

theorem Wants.exists_source (h : x.Wants w) :
    ∃ s, x.source = some s ∧ w.ticket? = some s.ticket := by
  cases h with
  | listing source => exact ⟨_, source, rfl⟩
  | file source => exact ⟨_, source, rfl⟩

/-- An answer that is waited for becomes a result about the path that is pending. -/
theorem Wants.exists_message (h : x.Wants w) {t : Ticket} (ht : w.ticket? = some t)
    (o : w.query.Outcome) : ∃ m, w.answer o = .files t.generation m ∧ x.pending = some m.path := by
  cases h with
  | listing _ _ pending =>
    obtain rfl := Option.some.inj ht
    cases o <;> exact ⟨_, rfl, pending⟩
  | file _ _ pending =>
    obtain rfl := Option.some.inj ht
    cases o <;> exact ⟨_, rfl, pending⟩

/-- The source, what is open and what is pending are all that counts. -/
theorem Wants.of_eq (h : y.Wants w) (source : y.source = x.source) (opened : y.opened = x.opened)
    (pending : y.pending = x.pending) : x.Wants w := by
  cases h with
  | listing hs ho hp => exact .listing (source ▸ hs) (opened ▸ ho) (pending ▸ hp)
  | file hs ho hp => exact .file (source ▸ hs) (opened ▸ ho) (pending ▸ hp)

/-- After leaving a directory nothing is waited for, unless there was none to go back to. -/
theorem leaveDirectory_eq_or_idle (x : Explorer) :
    x.leaveDirectory = x ∨ x.leaveDirectory.pending = none := by
  unfold leaveDirectory
  split
  · exact .inl rfl
  · exact .inr rfl

theorem keepListing_pending (x : Explorer) (path : String) (entries : List Entry) :
    (x.keepListing path entries).pending = none := by
  unfold keepListing
  dsimp only
  split <;> rfl

theorem leaveDirectory_opened (x : Explorer) : x.leaveDirectory.opened = x.opened := by
  unfold leaveDirectory
  split <;> rfl

theorem keepListing_opened (x : Explorer) (path : String) (entries : List Entry) :
    (x.keepListing path entries).opened = x.opened := by
  unfold keepListing
  dsimp only
  split <;> rfl

theorem keepListing_viewer (x : Explorer) (path : String) (entries : List Entry) :
    (x.keepListing path entries).viewer = x.viewer := by
  unfold keepListing
  dsimp only
  split <;> rfl

/-- **What an input makes an explorer wait for is what it asks for**; an input that asks for nothing
makes it wait for nothing new. -/
theorem Response.asked_or_wants (r : Response x i out) (h : out.1.Wants w) :
    out.2 = [w] ∨ out.2 = [] ∧ x.Wants w := by
  cases r with
  | ignored => exact .inr ⟨rfl, h⟩
  | closed => exact absurd h (not_wants_of_idle rfl)
  | scrolled => exact .inr ⟨rfl, h.of_eq rfl rfl rfl⟩
  | recalled => exact absurd h (not_wants_of_idle rfl)
  | @entered e s closed _ _ _ source =>
    cases h with
    | listing hs _ hp =>
      obtain rfl := Option.some.inj (source.symm.trans hs)
      obtain rfl := Option.some.inj hp
      exact .inl rfl
    | file _ ho => exact nomatch closed.symm.trans ho
  | strayed => exact .inr ⟨rfl, h.of_eq rfl rfl rfl⟩
  | @openedFile e s _ _ _ source =>
    cases h with
    | listing _ ho => exact nomatch ho
    | file hs _ hp =>
      obtain rfl := Option.some.inj (source.symm.trans hs)
      obtain rfl := Option.some.inj hp
      exact .inl rfl
  | left =>
    rcases x.leaveDirectory_eq_or_idle with heq | idle
    · have h : x.leaveDirectory.Wants w := h
      rw [heq] at h
      exact .inr ⟨rfl, h⟩
    · exact absurd h (not_wants_of_idle idle)
  | moved => exact .inr ⟨rfl, h.of_eq rfl rfl rfl⟩

/-- **What an input makes an explorer wait for is asked for.** -/
theorem Response.wants (r : Response x i out) (h : out.1.Wants w) : w ∈ out.2 ∨ x.Wants w := by
  rcases r.asked_or_wants h with one | ⟨-, before⟩
  · rw [one]
    exact .inl (List.mem_singleton_self w)
  · exact .inr before

/-- An explorer that begins waits for the root. -/
theorem Wants.eq_of_start {s : Source} (h : (x.start s).1.Wants w) :
    w = .fetchListing s.ticket s.reference "" := by
  cases h with
  | listing source _ pending =>
    obtain rfl := Option.some.inj source
    obtain rfl := Option.some.inj pending
    rfl
  | file _ opened => exact nomatch opened

/-- **A result about what is waited for ends the waiting**, whatever it brings; any other result
changes nothing. -/
theorem Receipt.wants (r : Receipt x m y) (h : y.Wants w) :
    x.Wants w ∧ x.pending ≠ some m.path := by
  cases r with
  | dropped _ foreign => exact ⟨h, foreign⟩
  | listed => exact absurd h (not_wants_of_idle (x.keepListing_pending _ _))
  | shown => exact absurd h (not_wants_of_idle rfl)
  | fileMissed => exact absurd h (not_wants_of_idle rfl)
  | listingMissed => exact absurd h (not_wants_of_idle rfl)

/-! ### What is shown while waiting -/

/-- An explorer that waits for nothing is poised unless a file says that it is loading. -/
theorem poised_of_idle (idle : x.pending = none)
    (still : ∀ f, x.opened = some f → x.viewer.loading = false) : Poised x where
  idle := fun _ => idle
  here := fun p _ hp => nomatch idle.symm.trans hp
  loading := by
    intro f ho hl
    rw [still f ho] at hl
    exact nomatch hl

theorem Poised.setSize (p : Poised x) (width height : Nat) : Poised (x.setSize width height) :=
  ⟨p.idle, p.here, p.loading⟩

theorem Response.poised (r : Response x i out) (p : Poised x) : Poised out.1 := by
  cases r with
  | ignored => exact p
  | closed => exact poised_of_idle rfl fun _ => (nomatch ·)
  | scrolled =>
    refine ⟨p.idle, p.here, fun f ho hl => p.loading f ho ?_⟩
    rw [← x.viewer.loading_input i]
    exact hl
  | recalled closed => exact poised_of_idle rfl fun _ ho => nomatch closed.symm.trans ho
  | @entered e s closed _ _ unknown source =>
    refine ⟨fun hs => (nomatch hs.symm.trans source), fun q _ hp => ?_, fun f ho => ?_⟩
    · obtain rfl := Option.some.inj hp
      exact ⟨rfl, unknown⟩
    · exact nomatch closed.symm.trans ho
  | strayed closed _ source =>
    exact poised_of_idle (p.idle source) fun _ ho => nomatch closed.symm.trans ho
  | @openedFile e s _ _ _ source =>
    exact ⟨fun hs => (nomatch hs.symm.trans source), fun _ => (nomatch ·), fun _ ho _ => ho⟩
  | left closed =>
    rcases x.leaveDirectory_eq_or_idle with heq | idle
    · show Poised x.leaveDirectory
      rw [heq]
      exact p
    · refine poised_of_idle idle fun f ho => ?_
      exact nomatch closed.symm.trans (x.leaveDirectory_opened.symm.trans ho)
  | moved => exact ⟨p.idle, p.here, p.loading⟩

/-- A listing of the path of the file that is open would be taken for the file; none may come. -/
theorem Receipt.poised (r : Receipt x m y) (p : Poised x)
    (apart : ∀ path entries, m = .listing path entries → x.opened ≠ some path) : Poised y := by
  cases r with
  | dropped => exact p
  | @listed path entries pending =>
    refine poised_of_idle (x.keepListing_pending _ _) fun f ho => ?_
    have ho : x.opened = some f := (x.keepListing_opened path entries).symm.trans ho
    rw [keepListing_viewer, ← Bool.not_eq_true]
    intro hl
    obtain rfl := Option.some.inj (pending.symm.trans (p.loading f ho hl))
    exact apart path entries rfl ho
  | shown => exact poised_of_idle rfl fun _ _ => rfl
  | fileMissed => exact poised_of_idle rfl fun _ _ => rfl
  | listingMissed _ closed => exact poised_of_idle rfl fun _ ho => nomatch closed.symm.trans ho

/-! ### Directories and files -/

/-- Only a directory among the entries is asked for as one. -/
theorem Response.listing_asked (r : Response x i out) {t : Ticket} {n : Reference} {path : String}
    (h : .fetchListing t n path ∈ out.2) :
    x.source = some ⟨t, n⟩ ∧ ∃ e ∈ x.entries, e.kind = .directory ∧ e.path = path := by
  cases r with
  | @entered e s _ entry kind _ source =>
    obtain ⟨rfl, rfl, rfl⟩ := Request.fetchListing.inj (List.mem_singleton.mp h)
    exact ⟨source, e, List.mem_of_getElem? entry, kind, rfl⟩
  | openedFile => exact nomatch List.mem_singleton.mp h
  | _ => exact absurd h List.not_mem_nil

/-- Only a file or a link among the entries is opened as a file. -/
theorem Response.opened_eq (r : Response x i out) {f : String} (h : out.1.opened = some f) :
    x.opened = some f ∨
      ∃ e ∈ x.entries, (e.kind = .file ∨ e.kind = .symlink) ∧ e.path = f := by
  cases r with
  | closed => exact nomatch h
  | @openedFile e s _ entry kind _ =>
    exact .inr ⟨e, List.mem_of_getElem? entry, kind, Option.some.inj h⟩
  | left => exact .inl (x.leaveDirectory_opened.symm.trans h)
  | _ => exact .inl h

theorem Receipt.opened_eq (r : Receipt x m y) : y.opened = x.opened := by
  cases r with
  | listed => exact x.keepListing_opened _ _
  | _ => rfl

end RepoBrowser.Explorer
