import RepoBrowser.Proofs.Explorer.Response

/-!
# Where the contents of an explorer come from

`Explorer.DrawnFrom listings files x` says that every listing that is kept is one of the listings,
in the order of display; that the entries on screen, if there are any, are those of the directory
that is shown; and that the text on screen, while a file is open, is that of this file.  While a
file is open nothing but this file is waited for.
-/

namespace RepoBrowser.Explorer

/-- All that is shown comes from the given listings and files. -/
structure DrawnFrom (listings : String → List Entry → Prop) (files : String → String → Prop)
    (x : Explorer) : Prop where
  kept : ∀ path es, x.listings.lookup path = some es →
    ∃ raw, listings path raw ∧ es = sortEntries raw
  entries : x.entries ≠ [] → ∃ raw, listings x.path raw ∧ x.entries = sortEntries raw
  viewer : ∀ f, x.opened = some f → x.viewer.HoldsText →
    ∃ content, files f content ∧ x.viewer.Shows content f
  pending : ∀ f p, x.opened = some f → x.pending = some p → p = f

variable {listings listings' : String → List Entry → Prop} {files files' : String → String → Prop}
  {x y : Explorer} {i : Input} {m : FilesMessage} {out : Explorer × List Request}

theorem DrawnFrom.mono (d : DrawnFrom listings files x)
    (hl : ∀ path raw, listings path raw → listings' path raw)
    (hf : ∀ path content, files path content → files' path content) :
    DrawnFrom listings' files' x where
  kept := by
    intro path es hes
    obtain ⟨raw, hraw, heq⟩ := d.kept path es hes
    exact ⟨raw, hl path raw hraw, heq⟩
  entries := by
    intro hne
    obtain ⟨raw, hraw, heq⟩ := d.entries hne
    exact ⟨raw, hl _ raw hraw, heq⟩
  viewer := by
    intro f hopen ht
    obtain ⟨content, hc, hshows⟩ := d.viewer f hopen ht
    exact ⟨content, hf f content hc, hshows⟩
  pending := d.pending

/-- An explorer without entries and listings, in which no file is open, shows nothing. -/
theorem drawnFrom_nil (hl : x.listings = []) (he : x.entries = []) (closed : x.opened = none) :
    DrawnFrom listings files x where
  kept := by
    intro path es hes
    rw [hl] at hes
    exact nomatch hes
  entries := fun hne => absurd he hne
  viewer := fun f hopen => nomatch closed.symm.trans hopen
  pending := fun f p hopen => nomatch closed.symm.trans hopen

/-- While no file is open, only the listings and the entries count. -/
theorem DrawnFrom.of_closed (d : DrawnFrom listings files x) (hl : y.listings = x.listings)
    (he : y.entries ≠ [] → ∃ raw, listings y.path raw ∧ y.entries = sortEntries raw)
    (closed : y.opened = none) : DrawnFrom listings files y where
  kept := by
    intro path es hes
    rw [hl] at hes
    exact d.kept path es hes
  entries := he
  viewer := fun f hopen => nomatch closed.symm.trans hopen
  pending := fun f p hopen => nomatch closed.symm.trans hopen

/-- As long as the same is open, a viewer with the same text is as good. -/
theorem DrawnFrom.withViewer (d : DrawnFrom listings files x) {p : Pager}
    (text : p.HoldsText → x.viewer.HoldsText)
    (shows : ∀ content path, x.viewer.Shows content path → p.Shows content path) :
    DrawnFrom listings files { x with viewer := p } where
  kept := d.kept
  entries := d.entries
  viewer := by
    intro f hopen ht
    obtain ⟨content, hc, hshows⟩ := d.viewer f hopen (text ht)
    exact ⟨content, hc, shows _ _ hshows⟩
  pending := d.pending

theorem DrawnFrom.setSize (d : DrawnFrom listings files x) (width height : Nat) :
    DrawnFrom listings files (x.setSize width height) := by
  have hv := d.withViewer (p := x.viewer.setSize width height) id fun _ _ => id
  exact ⟨hv.kept, hv.entries, hv.viewer, hv.pending⟩

theorem DrawnFrom.leaveDirectory (d : DrawnFrom listings files x) (closed : x.opened = none) :
    DrawnFrom listings files x.leaveDirectory := by
  unfold Explorer.leaveDirectory
  split
  · exact d
  · rename_i v rest _
    refine d.of_closed rfl (fun hne => ?_) closed
    cases hes : x.listings.lookup v.path with
    | none =>
      rw [hes] at hne
      exact absurd rfl hne
    | some es => exact d.kept v.path es hes

theorem Response.drawnFrom (r : Response x i out) (d : DrawnFrom listings files x) :
    DrawnFrom listings files out.1 := by
  cases r with
  | ignored => exact d
  | closed => exact d.of_closed rfl d.entries rfl
  | scrolled =>
    exact d.withViewer (Pager.holdsText_input _ _).mp fun _ _ => (Pager.shows_input _ _ _ _).mpr
  | @recalled e entries closed _ _ known =>
    exact d.of_closed rfl (fun _ => d.kept e.path entries known) closed
  | entered closed => exact d.of_closed rfl (fun hne => absurd rfl hne) closed
  | strayed closed => exact d.of_closed rfl (fun hne => absurd rfl hne) closed
  | @openedFile e s =>
    refine ⟨d.kept, d.entries, fun f _ ht => ?_, fun f p hopen hp => ?_⟩
    · exact absurd ht (Pager.not_holdsText_setLoading _)
    · exact Option.some.inj (hp.symm.trans hopen)
  | left closed => exact d.leaveDirectory closed
  | moved closed => exact d.of_closed rfl d.entries closed

/-- A listing that is kept is found under its path, and no other listing is touched. -/
theorem DrawnFrom.keepListing (d : DrawnFrom listings files x) {path : String} {raw : List Entry}
    (hraw : listings path raw) : DrawnFrom listings files (x.keepListing path raw) := by
  have hkept : ∀ p es, (x.listings.insert path (sortEntries raw)).lookup p = some es →
      ∃ r, listings p r ∧ es = sortEntries r := by
    intro p es hes
    rw [Listings.lookup_insert] at hes
    split at hes
    · rename_i hp
      subst hp
      exact ⟨raw, hraw, (Option.some.inj hes).symm⟩
    · exact d.kept p es hes
  unfold Explorer.keepListing
  dsimp only
  split
  · rename_i hpath
    refine ⟨hkept, fun _ => ⟨raw, ?_, rfl⟩, d.viewer, fun f p _ hp => nomatch hp⟩
    rw [← hpath]
    exact hraw
  · exact ⟨hkept, d.entries, d.viewer, fun f p _ hp => nomatch hp⟩

/-- What a result brings has to be among the listings and files. -/
theorem Receipt.drawnFrom (r : Receipt x m y) (d : DrawnFrom listings files x)
    (hlisting : ∀ path raw, m = .listing path raw → listings path raw)
    (hfile : ∀ path content, m = .file path content → files path content) :
    DrawnFrom listings files y := by
  cases r with
  | dropped => exact d
  | @listed path raw _ => exact d.keepListing (hlisting path raw rfl)
  | @shown path content pending =>
    refine ⟨d.kept, d.entries, fun f hopen _ => ?_, fun f p _ hp => nomatch hp⟩
    obtain rfl : path = f := d.pending f path hopen pending
    exact ⟨content, hfile path content rfl, Pager.setContent_shows _ _ _⟩
  | @fileMissed f path reason =>
    have hv := d.withViewer (p := x.viewer.setError reason) Pager.HoldsText.of_setError
      fun _ _ hs => ⟨hs.1, hs.2⟩
    exact ⟨hv.kept, hv.entries, hv.viewer, fun f p _ hp => nomatch hp⟩
  | listingMissed _ closed => exact d.of_closed rfl d.entries closed

end RepoBrowser.Explorer
