import RepoBrowser.Proofs.Browser.Pane
import RepoBrowser.Proofs.Exchange.Waiting
import RepoBrowser.Proofs.Explorer.Walk

/-!
# Which answer is shown

A directory can be left while it is still being listed, and gone into again; a file can be closed
while it is still being read, and opened again.  Then two requests about one path are in flight, and
their answers are told by the path only.  The first answer that arrives is taken for the answer, and
any other is dropped, whichever of the requests it is to.

* `Inquiry`, `inquiry?` — the latest request about a path, and the first answer about it since;
* `Explorer.Presents`, `Explorer.Follows` — an answer is what is shown, and an inquiry is followed;
* `Explorer.Heeds` — all inquiries about what is shown are followed;
* `Response.heeds`, `Receipt.heeds` — so it stays, whatever happens;
* `first_answer_is_shown` — what is shown is the first answer since the latest request;
* `failure_hides_success` — the answer to the latest request can be dropped for an earlier failure.
-/

namespace RepoBrowser

open Exchange (sampleForge)

/-! ### Inquiries -/

/-- The latest request about a path, and the first answer about the path that has come since. -/
structure Inquiry where
  request : Request
  first : Option Reply

/-- Another answer comes. -/
def Inquiry.hear (c : Inquiry) (r : Reply) : Inquiry := { c with first := c.first.or (some r) }

/-- The inquiry about a path that a record, the latest first, ends in. -/
def inquiry? (path : String) : List Record → Option Inquiry
  | [] => none
  | .asked _ q :: trace => if q.path? = some path then some ⟨q, none⟩ else inquiry? path trace
  | .answered _ r :: trace =>
    if r.request.path? = some path then (inquiry? path trace).map (·.hear r)
    else inquiry? path trace

section Inquiries

variable {path : String} {n : Nat} {q : Request} {r : Reply} {trace later : List Record}
  {c : Inquiry}

theorem inquiry?_asked (about : q.path? = some path) :
    inquiry? path (.asked n q :: trace) = some ⟨q, none⟩ := if_pos about

theorem inquiry?_asked_of_ne (other : q.path? ≠ some path) :
    inquiry? path (.asked n q :: trace) = inquiry? path trace := if_neg other

theorem inquiry?_answered (about : r.request.path? = some path) :
    inquiry? path (.answered n r :: trace) = (inquiry? path trace).map (·.hear r) := if_pos about

theorem inquiry?_answered_of_ne (other : r.request.path? ≠ some path) :
    inquiry? path (.answered n r :: trace) = inquiry? path trace := if_neg other

/-- An inquiry is about its path. -/
theorem path?_of_inquiry? (inquiry : inquiry? path trace = some c) :
    c.request.path? = some path := by
  induction trace generalizing c with
  | nil => exact nomatch inquiry
  | cons record trace ih =>
    cases record with
    | asked n q =>
      by_cases about : q.path? = some path
      · rw [inquiry?_asked about] at inquiry
        rw [← Option.some.inj inquiry]
        exact about
      · rw [inquiry?_asked_of_ne about] at inquiry
        exact ih inquiry
    | answered n r =>
      by_cases about : r.request.path? = some path
      · rw [inquiry?_answered about] at inquiry
        obtain ⟨c', inquiry', rfl⟩ := Option.map_eq_some_iff.mp inquiry
        exact ih (c := c') inquiry'
      · rw [inquiry?_answered_of_ne about] at inquiry
        exact ih inquiry

/-- As long as nothing more is asked about the path, an inquiry hears the answers about it. -/
theorem inquiry?_append (asked : inquiry? path trace = some ⟨q, none⟩)
    (last : ∀ k q', .asked k q' ∈ later → q'.path? ≠ some path) :
    ∃ first, inquiry? path (later ++ trace) = some ⟨q, first⟩ ∧
      ∀ r, first = some r → ∃ k, .answered k r ∈ later ∧ r.request.path? = some path := by
  induction later with
  | nil => exact ⟨none, asked, fun _ => (nomatch ·)⟩
  | cons record later ih =>
    obtain ⟨first, inquiry, heard⟩ := ih fun k q' hq => last k q' (List.mem_cons_of_mem _ hq)
    have heard' : ∀ r, first = some r →
        ∃ k, .answered k r ∈ record :: later ∧ r.request.path? = some path := by
      intro r hr
      obtain ⟨k, hk, about⟩ := heard r hr
      exact ⟨k, List.mem_cons_of_mem _ hk, about⟩
    cases record with
    | asked k q' =>
      refine ⟨first, ?_, heard'⟩
      rw [List.cons_append, inquiry?_asked_of_ne (last k q' List.mem_cons_self), inquiry]
    | answered k r =>
      by_cases about : r.request.path? = some path
      · refine ⟨first.or (some r), ?_, fun r' hr' => ?_⟩
        · rw [List.cons_append, inquiry?_answered about, inquiry]
          rfl
        · cases first with
          | none =>
            obtain rfl : r = r' := Option.some.inj hr'
            exact ⟨k, List.mem_cons_self, about⟩
          | some r₀ => exact heard' r' hr'
      · refine ⟨first, ?_, heard'⟩
        rw [List.cons_append, inquiry?_answered_of_ne about, inquiry]

/-- An inquiry that has heard an answer hears no other. -/
theorem inquiry?_append_of_heard (heard : inquiry? path trace = some ⟨q, some r⟩)
    (last : ∀ k q', .asked k q' ∈ later → q'.path? ≠ some path) :
    inquiry? path (later ++ trace) = some ⟨q, some r⟩ := by
  induction later with
  | nil => exact heard
  | cons record later ih =>
    have inquiry := ih fun k q' hq => last k q' (List.mem_cons_of_mem _ hq)
    cases record with
    | asked k q' =>
      rw [List.cons_append, inquiry?_asked_of_ne (last k q' List.mem_cons_self), inquiry]
    | answered k r' =>
      rw [List.cons_append]
      by_cases about : r'.request.path? = some path
      · rw [inquiry?_answered about, inquiry]
        rfl
      · rw [inquiry?_answered_of_ne about, inquiry]

end Inquiries

namespace Explorer

/-! ### What is shown -/

/-- The request for what is shown: the file that is open, or the directory. -/
def shown? (x : Explorer) : Option Request :=
  x.source.map fun s =>
    match x.opened with
    | some f => s.file f
    | none => s.listing x.path

/-- An answer is what is shown: the entries or the text that it brings and no error, or else the
error that it tells. -/
inductive Presents (x : Explorer) : Reply → Prop
  | entries {t : Ticket} {n : Reference} {raw : List Entry} (closed : x.opened = none)
      (entries : x.entries = sortEntries raw) (fine : x.error = none) :
      Presents x ⟨.fetchListing t n x.path, .ok raw⟩
  | unlisted {t : Ticket} {n : Reference} {e : Error} (closed : x.opened = none)
      (error : x.error = some (unloadedMessage (shownPath x.path) e)) :
      Presents x ⟨.fetchListing t n x.path, .error e⟩
  | text {t : Ticket} {n : Reference} {f content : String} (opened : x.opened = some f)
      (shows : x.viewer.Shows content f) (still : x.viewer.loading = false)
      (fine : x.viewer.error = none) : Presents x ⟨.fetchFile t n f, .ok content⟩
  | unread {t : Ticket} {n : Reference} {f : String} {e : Error} (opened : x.opened = some f)
      (error : x.viewer.error = some (unloadedMessage (shownPath f) e)) :
      Presents x ⟨.fetchFile t n f, .error e⟩

/-- An inquiry about a path is followed: the answer is waited for, or the first one is shown. -/
structure Follows (x : Explorer) (path : String) (c : Inquiry) : Prop where
  waits : c.first = none → x.pending = some path
  presents : ∀ r, c.first = some r → r.request = c.request → x.Presents r

/-- What is kept is the first answer, as long as no file of this path has been asked for since. -/
def Keeps (s : Source) (x : Explorer) (trace : List Record) : Prop :=
  ∀ path es c, x.listings.lookup path = some es → inquiry? path trace = some c →
    c.request = s.listing path → ∃ raw, c.first = some ⟨s.listing path, .ok raw⟩ ∧
      es = sortEntries raw

/-- What is waited for has been asked for and not been answered, and what is kept and shown is what
was answered first. -/
structure Heeds (s : Source) (x : Explorer) (trace : List Record) : Prop where
  awaited : ∀ q path, x.Wants q → q.path? = some path → inquiry? path trace = some ⟨q, none⟩
  kept : Keeps s x trace
  shown : ∀ path c, x.shown? = some c.request → inquiry? path trace = some c → x.Follows path c

variable {s : Source} {x y : Explorer} {path : String} {c : Inquiry} {r : Reply} {q : Request}
  {n : Nat} {trace : List Record}

theorem shown?_of_closed (source : x.source = some s) (closed : x.opened = none) :
    x.shown? = some (s.listing x.path) := by
  unfold shown?
  rw [source, closed]
  rfl

theorem shown?_of_opened {f : String} (source : x.source = some s) (opened : x.opened = some f) :
    x.shown? = some (s.file f) := by
  unfold shown?
  rw [source, opened]
  rfl

/-- What is shown is a directory or a file of the source. -/
theorem Placed.exists_path (p : Placed s x) (shown : x.shown? = some q) :
    ∃ path, q.path? = some path := by
  cases opened : x.opened with
  | none =>
    rw [← Option.some.inj ((shown?_of_closed p.source opened).symm.trans shown)]
    exact ⟨x.path, rfl⟩
  | some f =>
    rw [← Option.some.inj ((shown?_of_opened p.source opened).symm.trans shown)]
    exact ⟨f, rfl⟩

/-- The window and the selection do not matter. -/
theorem Presents.of_moved (h : x.Presents r) (opened : y.opened = x.opened) (path : y.path = x.path)
    (entries : y.entries = x.entries) (error : y.error = x.error)
    (viewer : x.viewer.Moved y.viewer) : y.Presents r := by
  obtain ⟨a, b, k, hviewer⟩ := viewer
  cases h with
  | entries closed hentries fine =>
    rw [← path]
    exact .entries (opened.trans closed) (entries.trans hentries) (error.trans fine)
  | unlisted closed herror =>
    rw [← path] at herror ⊢
    exact .unlisted (opened.trans closed) (error.trans herror)
  | text hopened shows still fine =>
    refine .text (opened.trans hopened) ?_ ?_ ?_ <;> rw [hviewer]
    · exact shows
    · exact still
    · exact fine
  | unread hopened herror =>
    refine .unread (opened.trans hopened) ?_
    rw [hviewer]
    exact herror

theorem Follows.of_moved (h : x.Follows path c) (opened : y.opened = x.opened)
    (here : y.path = x.path) (entries : y.entries = x.entries) (error : y.error = x.error)
    (pending : y.pending = x.pending) (viewer : x.viewer.Moved y.viewer) : y.Follows path c where
  waits := fun silent => pending.trans (h.waits silent)
  presents := fun r first same =>
    (h.presents r first same).of_moved opened here entries error viewer

/-- What has just been asked for is waited for. -/
theorem follows_asked {p : String} (about : q.path? = some p) (pending : x.pending = some p)
    (request : c.request = q) (inquiry : inquiry? path (.asked n q :: trace) = some c) :
    x.Follows path c := by
  have same : some path = some p := by rw [← path?_of_inquiry? inquiry, request, about]
  obtain rfl := Option.some.inj same
  rw [inquiry?_asked about] at inquiry
  obtain rfl := Option.some.inj inquiry
  exact ⟨fun _ => pending, fun r => (nomatch ·)⟩

/-- A directory that is known is shown as it was answered first. -/
theorem Placed.follows_known (p : Placed s x) (kept : Keeps s x trace) (closed : x.opened = none)
    (known : x.listings.lookup x.path ≠ none) (shown : x.shown? = some c.request)
    (inquiry : inquiry? path trace = some c) : x.Follows path c := by
  have request : s.listing x.path = c.request :=
    Option.some.inj ((shown?_of_closed p.source closed).symm.trans shown)
  have same : some path = some x.path := by
    rw [← path?_of_inquiry? inquiry, ← request]
    rfl
  obtain rfl := Option.some.inj same
  obtain ⟨es, hes⟩ := Option.ne_none_iff_exists'.mp known
  obtain ⟨raw, first, rfl⟩ := kept _ es c hes inquiry request.symm
  have entries : x.entries = sortEntries raw := by
    rw [p.entries, hes]
    rfl
  refine ⟨fun silent => (nomatch first.symm.trans silent), fun r hr _ => ?_⟩
  obtain rfl := Option.some.inj (first.symm.trans hr)
  exact .entries closed entries (p.fine known)

/-! ### Inputs -/

theorem Heeds.setSize (h : Heeds s x trace) (width height : Nat) :
    Heeds s (x.setSize width height) trace where
  awaited := fun q path wants about => h.awaited q path (wants.of_eq rfl rfl rfl) about
  kept := h.kept
  shown := fun path c shown inquiry =>
    (h.shown path c shown inquiry).of_moved rfl rfl rfl rfl rfl (.of_setSize ..)

/-- An explorer that begins waits for the root. -/
theorem heeds_start (x : Explorer) (s : Source) (n : Nat) :
    Heeds s (x.start s).1 [.asked n (s.listing "")] where
  awaited := by
    intro q path wants about
    obtain rfl := wants.eq_of_start
    exact inquiry?_asked about
  kept := fun _ _ _ known => nomatch known
  shown := fun path c shown inquiry =>
    follows_asked (q := s.listing "") rfl rfl (Option.some.inj shown).symm inquiry

section Inputs

variable {w : Walk} {i : Input} {out : Explorer × List Request}

/-- What is kept is not asked for again as a directory. -/
theorem Response.keeps (r : Response w.explorer i out) (source : w.explorer.source = some s)
    (kept : Keeps s w.explorer w.trace) : Keeps s out.1 (w.goOn out).trace := by
  intro path es c known inquiry request
  rw [r.listings_eq] at known
  have other : ∀ q, out.2 = [q] → q.path? ≠ some path →
      ∃ raw, c.first = some ⟨s.listing path, .ok raw⟩ ∧ es = sortEntries raw := by
    intro q one other
    rw [Walk.goOn_trace_of_singleton one, inquiry?_asked_of_ne other] at inquiry
    exact kept path es c known inquiry request
  rcases r.requests source with none | ⟨p, one, unknown⟩ | ⟨p, one⟩
  · rw [Walk.goOn_trace_of_nil none] at inquiry
    exact kept path es c known inquiry request
  · refine other _ one fun same => ?_
    obtain rfl := Option.some.inj same
    exact nomatch unknown.symm.trans known
  · refine other _ one fun same => ?_
    rw [Walk.goOn_trace_of_singleton one, inquiry?_asked same] at inquiry
    obtain rfl := Option.some.inj inquiry
    exact nomatch request

/-- **What an input makes an explorer wait for has just been asked for.** -/
theorem Response.awaited (r : Response w.explorer i out)
    (awaited : ∀ q path, w.explorer.Wants q → q.path? = some path →
      inquiry? path w.trace = some ⟨q, none⟩) :
    ∀ q path, out.1.Wants q → q.path? = some path →
      inquiry? path (w.goOn out).trace = some ⟨q, none⟩ := by
  intro q path wants about
  rcases r.asked_or_wants wants with one | ⟨none, before⟩
  · rw [Walk.goOn_trace_of_singleton one]
    exact inquiry?_asked about
  · rw [Walk.goOn_trace_of_nil none]
    exact awaited q path before about

/-- After leaving a directory the one above is shown, which is known. -/
theorem leaveDirectory_eq_or_known (p : Placed s x) :
    x.leaveDirectory = x ∨
      x.leaveDirectory.listings.lookup x.leaveDirectory.path ≠ none := by
  unfold leaveDirectory
  split
  · exact .inl rfl
  · rename_i v rest history
    exact .inr (p.above v (history ▸ List.mem_cons_self))

theorem Response.heeds (r : Response w.explorer i out) (p : Placed s w.explorer)
    (h : Heeds s w.explorer w.trace) : Heeds s out.1 (w.goOn out).trace := by
  have placed : Placed s out.1 := r.placed p
  have keeps : Keeps s out.1 (w.goOn out).trace := r.keeps p.source h.kept
  refine ⟨r.awaited h.awaited, keeps, fun path c shown inquiry => ?_⟩
  cases r with
  | ignored => exact h.shown path c shown inquiry
  | @closed f opened => exact placed.follows_known keeps rfl (p.inside f opened) shown inquiry
  | scrolled =>
    exact (h.shown path c shown inquiry).of_moved rfl rfl rfl rfl rfl (.of_input ..)
  | @recalled e es closed _ _ known =>
    refine placed.follows_known keeps closed ?_ shown inquiry
    show w.explorer.listings.lookup e.path ≠ none
    rw [known]
    exact Option.some_ne_none es
  | @entered e s' closed _ _ _ source =>
    obtain rfl := Option.some.inj (source.symm.trans p.source)
    have request := shown.symm.trans (shown?_of_closed placed.source closed)
    exact follows_asked (q := s'.listing e.path) rfl rfl (Option.some.inj request) inquiry
  | strayed _ _ source => exact nomatch source.symm.trans p.source
  | @openedFile e s' _ _ _ source =>
    obtain rfl := Option.some.inj (source.symm.trans p.source)
    have request := shown.symm.trans (shown?_of_opened placed.source rfl)
    exact follows_asked (q := s'.file e.path) rfl rfl (Option.some.inj request) inquiry
  | left closed =>
    rcases leaveDirectory_eq_or_known p with same | known
    · have shown : w.explorer.leaveDirectory.shown? = some c.request := shown
      show w.explorer.leaveDirectory.Follows path c
      rw [same] at shown ⊢
      exact h.shown path c shown inquiry
    · have still := w.explorer.leaveDirectory_opened.trans closed
      exact placed.follows_known keeps still known shown inquiry
  | moved =>
    exact (h.shown path c shown inquiry).of_moved rfl rfl rfl rfl rfl (.refl _)

end Inputs

/-! ### Answers -/

section Answers

variable {m : FilesMessage} {g : Nat}

theorem Wants.pending_eq (wants : x.Wants q) (about : q.path? = some path) :
    x.pending = some path := by
  cases wants with
  | listing _ _ pending =>
    obtain rfl := Option.some.inj about
    exact pending
  | file _ _ pending =>
    obtain rfl := Option.some.inj about
    exact pending

theorem Wants.closed (wants : x.Wants q) (request : q = s.listing path) : x.opened = none := by
  cases wants with
  | listing _ closed => exact closed
  | file => exact nomatch request

theorem Receipt.eq_of_foreign (rc : Receipt x m y) (foreign : x.pending ≠ some m.path) : x = y := by
  cases rc with
  | dropped => rfl
  | listed pending => exact absurd pending foreign
  | shown pending => exact absurd pending foreign
  | fileMissed pending => exact absurd pending foreign
  | listingMissed pending => exact absurd pending foreign

theorem Receipt.pending_eq_none (rc : Receipt x m y) (pending : x.pending = some m.path) :
    y.pending = none := by
  cases rc with
  | dropped _ foreign => exact absurd pending foreign
  | listed => exact x.keepListing_pending _ _
  | _ => rfl

theorem Receipt.shown?_eq (rc : Receipt x m y) : y.shown? = x.shown? := by
  unfold shown?
  rw [rc.source_eq, rc.opened_eq, rc.path_eq]

/-- What is waited for is what is shown. -/
theorem Placed.exists_wants (p : Placed s x)
    (single : ∀ f p, x.opened = some f → x.pending = some p → p = f)
    (pending : x.pending = some path) :
    ∃ q, x.Wants q ∧ q.path? = some path ∧ x.shown? = some q := by
  cases opened : x.opened with
  | none =>
    obtain ⟨rfl, -⟩ := p.here path opened pending
    exact ⟨_, .listing p.source opened pending, rfl, shown?_of_closed p.source opened⟩
  | some f =>
    obtain rfl := single f path opened pending
    exact ⟨_, .file p.source opened pending, rfl, shown?_of_opened p.source opened⟩

/-- **The answer that is waited for is shown** if it is to a request for what is shown. -/
theorem Receipt.presents (rc : Receipt x m y) (p : Placed s x) (result : r.action = .files g m)
    (pending : x.pending = some m.path) (shown : x.shown? = some r.request) : y.Presents r := by
  obtain ⟨q, o⟩ := r
  cases opened : x.opened with
  | none =>
    obtain rfl : s.listing x.path = q :=
      Option.some.inj ((shown?_of_closed p.source opened).symm.trans shown)
    cases o with
    | ok raw =>
      obtain ⟨-, rfl⟩ := Action.files.inj result
      cases rc with
      | dropped _ foreign => exact absurd pending foreign
      | listed =>
        have here : x.keepListing x.path raw = { x with
            pending := none
            listings := x.listings.insert x.path (sortEntries raw)
            entries := sortEntries raw
            error := none } := if_pos rfl
        rw [here]
        exact .entries opened rfl rfl
    | error e =>
      obtain ⟨-, rfl⟩ := Action.files.inj result
      cases rc with
      | dropped _ foreign => exact absurd pending foreign
      | fileMissed _ opened' => exact nomatch opened.symm.trans opened'
      | listingMissed => exact .unlisted opened rfl
  | some f =>
    obtain rfl : s.file f = q :=
      Option.some.inj ((shown?_of_opened p.source opened).symm.trans shown)
    cases o with
    | ok content =>
      obtain ⟨-, rfl⟩ := Action.files.inj result
      cases rc with
      | dropped _ foreign => exact absurd pending foreign
      | shown => exact .text opened (Pager.setContent_shows ..) rfl rfl
    | error e =>
      obtain ⟨-, rfl⟩ := Action.files.inj result
      cases rc with
      | dropped _ foreign => exact absurd pending foreign
      | fileMissed => exact .unread opened rfl
      | listingMissed _ closed => exact nomatch opened.symm.trans closed

/-- An answer leaves an inquiry as it is if it is about another path, or if the inquiry has heard
another answer. -/
theorem inquiry?_of_answered (inquiry : inquiry? path (.answered n r :: trace) = some c)
    (heard : ∀ c', r.request.path? = some path → c'.request = c.request →
      inquiry? path trace = some c' → c'.first ≠ none) : inquiry? path trace = some c := by
  by_cases about : r.request.path? = some path
  · rw [inquiry?_answered about] at inquiry
    obtain ⟨⟨q, first⟩, before, rfl⟩ := Option.map_eq_some_iff.mp inquiry
    cases first with
    | none => exact absurd rfl (heard ⟨q, none⟩ about rfl before)
    | some r' => exact before
  · rw [inquiry?_answered_of_ne about] at inquiry
    exact inquiry

/-- **An answer that is not waited for changes no inquiry that counts.**  What is kept has been
answered already, and so has what is shown if it is not waited for. -/
theorem Heeds.dropped (h : Heeds s x trace) (foreign : x.pending ≠ some m.path)
    (about : r.request.path? = some m.path) : Heeds s x (.answered n r :: trace) where
  awaited := by
    intro q path wants ask
    have other : r.request.path? ≠ some path := by
      intro same
      obtain rfl := Option.some.inj (about.symm.trans same)
      exact foreign (wants.pending_eq ask)
    rw [inquiry?_answered_of_ne other]
    exact h.awaited q path wants ask
  kept := by
    intro path es c known inquiry request
    refine h.kept path es c known (inquiry?_of_answered inquiry ?_) request
    intro c' _ same before silent
    obtain ⟨raw, first, -⟩ := h.kept path es c' known before (same.trans request)
    exact nomatch first.symm.trans silent
  shown := by
    intro path c shown inquiry
    refine h.shown path c shown (inquiry?_of_answered inquiry ?_)
    intro c' about' same before silent
    obtain rfl := Option.some.inj (about.symm.trans about')
    exact foreign ((h.shown _ c' (same ▸ shown) before).waits silent)

/-- **An answer that is waited for is the first one**, and is kept or shown. -/
theorem Heeds.taken (h : Heeds s x trace) (p : Placed s x) (rc : Receipt x m y)
    (single : ∀ f p, x.opened = some f → x.pending = some p → p = f)
    (pending : x.pending = some m.path) (source : r.request.IsFrom s)
    (result : r.action = .files g m) : Heeds s y (.answered n r :: trace) := by
  have about : r.request.path? = some m.path := Reply.path?_eq result
  obtain ⟨q, wants, ask, shown⟩ := p.exists_wants single pending
  have now : inquiry? m.path (.answered n r :: trace) = some ⟨q, some r⟩ := by
    rw [inquiry?_answered about, h.awaited q m.path wants ask]
    rfl
  refine ⟨fun q' path wants' => ?awaited, fun path es c known inquiry request => ?kept,
    fun path c shown' inquiry => ?shown⟩
  case awaited => exact absurd wants' (not_wants_of_idle (rc.pending_eq_none pending))
  case kept =>
    rcases rc.lookup_eq path with same | ⟨raw, rfl, -, hraw⟩
    · rw [same] at known
      by_cases here : path = m.path
      · -- what is waited for as a directory is not kept
        subst here
        obtain rfl := Option.some.inj (now.symm.trans inquiry)
        obtain ⟨-, unknown⟩ := p.here m.path (wants.closed request) pending
        exact nomatch unknown.symm.trans known
      · have other : r.request.path? ≠ some path := by
          rw [about]
          exact fun same => here (Option.some.inj same).symm
        rw [inquiry?_answered_of_ne other] at inquiry
        exact h.kept path es c known inquiry request
    · obtain rfl := Option.some.inj (now.symm.trans inquiry)
      obtain rfl := Reply.eq_listing result source
      exact ⟨raw, rfl, Option.some.inj (known.symm.trans hraw)⟩
  case shown =>
    rw [rc.shown?_eq] at shown'
    have request : q = c.request := Option.some.inj (shown.symm.trans shown')
    have same : some path = some m.path := by
      rw [← path?_of_inquiry? inquiry, ← request, ask]
    obtain rfl := Option.some.inj same
    obtain rfl := Option.some.inj (now.symm.trans inquiry)
    refine ⟨(nomatch ·), fun r' hr' same => ?_⟩
    obtain rfl := Option.some.inj hr'
    rw [← same] at shown'
    exact rc.presents p result pending shown'

theorem Receipt.heeds (rc : Receipt x m y) (p : Placed s x)
    (single : ∀ f p, x.opened = some f → x.pending = some p → p = f) (h : Heeds s x trace)
    (source : r.request.IsFrom s) (result : r.action = .files g m) :
    Heeds s y (.answered n r :: trace) := by
  by_cases pending : x.pending = some m.path
  · exact h.taken p rc single pending source result
  · obtain rfl := rc.eq_of_foreign pending
    exact h.dropped pending (Reply.path?_eq result)

end Answers

end Explorer

namespace Walk

variable {forge : Forge Set} {s : Source} {w : Walk}

/-- **All inquiries about what is shown are followed**, whatever happens. -/
theorem Reachable.heeds (h : Reachable forge s w) : w.explorer.Heeds s w.trace := by
  induction h with
  | begin x => exact Explorer.heeds_start x s 0
  | @step w _ hw st ih =>
    cases st with
    | input i =>
      rw [goOn_explorer]
      exact (w.explorer.input_response i).heeds hw.placed ih
    | resized width height => exact ih.setSize width height
    | @answered n r rest g m flying _ result =>
      have source := hw.isFrom n r.request (flying ▸ Multiset.mem_cons_self _ _)
      exact (w.explorer.receive_receipt m).heeds hw.placed hw.drawnFrom.pending ih source result

/-- **What is waited for is in flight.** -/
theorem Reachable.wanted (h : Reachable forge s w) :
    ∀ q, w.explorer.Wants q → ∃ n, (n, q) ∈ w.inFlight := by
  induction h with
  | begin x =>
    intro q wants
    obtain rfl := Explorer.Wants.eq_of_start wants
    exact ⟨0, Multiset.mem_singleton_self _⟩
  | @step w _ hw st ih =>
    intro q wants
    cases st with
    | input i =>
      rw [goOn_explorer] at wants
      rcases (w.explorer.input_response i).wants wants with asked | before
      · exact exists_mem_inFlight_goOn asked
      · obtain ⟨n, flying⟩ := ih q before
        exact ⟨n, mem_inFlight_goOn_of_mem flying⟩
    | resized => exact ih q (wants.of_eq rfl rfl rfl)
    | @answered n r rest g m flying _ result =>
      obtain ⟨before, foreign⟩ := (w.explorer.receive_receipt m).wants wants
      obtain ⟨k, hk⟩ := ih q before
      rw [flying] at hk
      rcases Multiset.mem_cons.mp hk with same | hk
      · -- the answer to what is waited for would have ended the waiting
        obtain ⟨-, rfl⟩ := Prod.mk.inj same
        exact absurd (before.pending_eq (Reply.path?_eq result)) foreign
      · exact ⟨k, hk⟩

/-- **The first answer is what is shown.**  Something is shown, a directory or a file, that has been
asked for, and nothing more has been asked for about its path since.

* Once nothing is in flight any more, an answer about the path has come since.
* The first answer about the path is what is shown, if it is to such a request: what it brings and
  no error, or else its error.  So the answer to the latest request is shown unless another answer
  about the path, to a request that was made before, has come in between. -/
theorem first_answer_is_shown (forge : Forge Set) (s : Source) (w : Walk)
    (h : Reachable forge s w) (q : Request) (shown : w.explorer.shown? = some q) (n : Nat)
    (later earlier : List Record) (trace : w.trace = later ++ .asked n q :: earlier)
    (last : ∀ k q', .asked k q' ∈ later → q'.path? ≠ q.path?) :
    (w.inFlight = 0 → ∃ k r, .answered k r ∈ later ∧ r.request.path? = q.path?) ∧
    ∀ k r after before, later = after ++ .answered k r :: before → r.request = q →
      (∀ k' r', .answered k' r' ∈ before → r'.request.path? = q.path? → r' = r) →
      w.explorer.Presents r := by
  obtain ⟨path, about⟩ := h.placed.exists_path shown
  rw [about] at last ⊢
  have asked : inquiry? path (.asked n q :: earlier) = some ⟨q, none⟩ := inquiry?_asked about
  refine ⟨fun quiet => ?_, fun k r after before hlater request same => ?_⟩
  · obtain ⟨first, inquiry, heard⟩ := inquiry?_append asked last
    rw [← trace] at inquiry
    cases first with
    | none =>
      have pending := (h.heeds.shown path _ shown inquiry).waits rfl
      obtain ⟨q', wants, -⟩ := h.placed.exists_wants h.drawnFrom.pending pending
      obtain ⟨k, flying⟩ := h.wanted q' wants
      rw [quiet] at flying
      exact absurd flying (Multiset.notMem_zero _)
    | some r =>
      obtain ⟨k, hk, hr⟩ := heard r rfl
      exact ⟨k, r, hk, hr⟩
  · subst hlater
    have lastBefore : ∀ k q', .asked k q' ∈ before → q'.path? ≠ some path := fun k q' hq =>
      last k q' (List.mem_append_right _ (List.mem_cons_of_mem _ hq))
    have lastAfter : ∀ k q', .asked k q' ∈ after → q'.path? ≠ some path := fun k q' hq =>
      last k q' (List.mem_append_left _ hq)
    obtain ⟨first, inquiry, heard⟩ := inquiry?_append asked lastBefore
    have answered : inquiry? path (.answered k r :: (before ++ .asked n q :: earlier))
        = some ⟨q, some r⟩ := by
      rw [inquiry?_answered (by rw [request, about]), inquiry]
      cases first with
      | none => rfl
      | some r' =>
        obtain ⟨k', hk', about'⟩ := heard r' rfl
        rw [same k' r' hk' about']
        rfl
    have settled := inquiry?_append_of_heard answered lastAfter
    rw [List.append_assoc] at trace
    rw [show after ++ .answered k r :: (before ++ .asked n q :: earlier) = w.trace from
      trace.symm] at settled
    exact (h.heeds.shown path _ shown settled).presents r rfl request

/-- What is in the directory of the sample. -/
def sampleDirectory : List Entry := [⟨"main.rs", "lib/main.rs", .file, 6⟩]

/-- A forge that may fail at any time to list a directory. -/
def unreliableForge : Forge Set where
  name := "unreliable"
  ask
    | .directory _ _ path =>
      {.ok (if path = "" then sampleEntries else sampleDirectory), .error (.notFound path)}
    | q => sampleForge.ask q

/-- The directory of the sample cannot be listed at first; when it is gone into again, it is. -/
theorem first_answer_is_shown_sample :
    ∃ w, Reachable unreliableForge Source.sample w ∧ w.inFlight = 0 ∧
      .answered 2 ⟨Source.sample.listing "lib", .error (.notFound "lib")⟩ ∈ w.trace ∧
      w.explorer.shown? = some (Source.sample.listing "lib") ∧
      w.explorer.Presents ⟨Source.sample.listing "lib", .ok sampleDirectory⟩ := by
  have h : Reachable unreliableForge Source.sample ⟨sampleExplorer, 0, sampleTrace⟩ :=
    reachable_sample (.inl rfl)
  have h := h.inputAsking (.key ⟨.enter, {}⟩) rfl
  have h := h.answer 2 (Source.sample.listing "lib") (.error (.notFound "lib")) rfl (.inr rfl) rfl
    rfl
  have h := h.input (.key ⟨.escape, {}⟩) rfl
  have h := h.inputAsking (.key ⟨.enter, {}⟩) rfl
  have h := h.answer 4 (Source.sample.listing "lib") (.ok sampleDirectory) rfl (.inl rfl) rfl rfl
  obtain ⟨-, presents⟩ := first_answer_is_shown unreliableForge Source.sample _ h
    (Source.sample.listing "lib") rfl 4
    [.answered 4 ⟨Source.sample.listing "lib", .ok sampleDirectory⟩] _ rfl
    fun k q asked => nomatch List.mem_singleton.mp asked
  refine ⟨_, h, rfl, ?_, rfl, ?_⟩
  · exact List.mem_cons_of_mem _ (List.mem_cons_of_mem _ List.mem_cons_self)
  · exact presents 4 _ [] [] rfl rfl fun k r answered => absurd answered List.not_mem_nil

/-- **A failure hides a success.**  The directory of the sample is gone into, left and gone into
again.  The failure of the first request arrives while the second one is in flight, and is taken for
its answer.  So the listing that the second request brings is dropped, although it is the latest
request and was answered successfully: an error is shown, and no entries. -/
theorem failure_hides_success :
    ∃ (w : Walk) (later earlier : List Record),
      Reachable unreliableForge Source.sample w ∧ w.inFlight = 0 ∧
      w.explorer.shown? = some (Source.sample.listing "lib") ∧
      w.trace = later ++ .asked 3 (Source.sample.listing "lib") :: earlier ∧
      (∀ k q, .asked k q ∉ later) ∧
      .answered 3 ⟨Source.sample.listing "lib", .ok sampleDirectory⟩ ∈ later ∧
      w.explorer.entries = [] ∧
      w.explorer.error = some (unloadedMessage (shownPath "lib") (.notFound "lib")) := by
  have h : Reachable unreliableForge Source.sample ⟨sampleExplorer, 0, sampleTrace⟩ :=
    reachable_sample (.inl rfl)
  have h := h.inputAsking (.key ⟨.enter, {}⟩) rfl
  have h := h.input (.key ⟨.escape, {}⟩) rfl
  have h := h.inputAsking (.key ⟨.enter, {}⟩) rfl
  have h := h.answer 2 (Source.sample.listing "lib") (.error (.notFound "lib"))
    (Multiset.cons_swap ..) (.inr rfl) rfl rfl
  have h := h.answer 3 (Source.sample.listing "lib") (.ok sampleDirectory) rfl (.inl rfl) rfl rfl
  refine ⟨_, [.answered 3 _, .answered 2 _], _, h, rfl, rfl, rfl, fun k q asked => ?_,
    List.mem_cons_self, rfl, rfl⟩
  rcases List.mem_pair.mp asked with same | same
  · exact nomatch same
  · exact nomatch same

end Walk

end RepoBrowser
