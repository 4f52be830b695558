import RepoBrowser.Proofs.History.Response

/-!
# Where the contents of a history come from

`History.DrawnFrom pages details h` says that every commit of the history stands on one of the
pages, and that the changes on screen, while a commit is open, are among the details and have its
id.  It holds of a history that was reset, no input or change of the size affects it, and a result
affects it only by what it brings.
-/

namespace RepoBrowser.History

/-- All that is shown comes from the given pages and details. -/
structure DrawnFrom (pages : Page Commit → Prop) (details : CommitDetail → Prop) (h : History) :
    Prop where
  commits : ∀ c ∈ h.commits, ∃ p, pages p ∧ c ∈ p.items
  diff : ∀ id, h.opened = some id → h.diff.HoldsText →
    ∃ d, details d ∧ d.id = id ∧ h.diff.Shows (String.ofList (commitText d)) (diffPath id)

variable {pages pages' : Page Commit → Prop} {details details' : CommitDetail → Prop}
  {h : History} {i : Input} {m : LogMessage} {out : History × List Request}

theorem DrawnFrom.mono (d : DrawnFrom pages details h) (hp : ∀ p, pages p → pages' p)
    (hd : ∀ c, details c → details' c) : DrawnFrom pages' details' h where
  commits := by
    intro c hc
    obtain ⟨p, hpage, hmem⟩ := d.commits c hc
    exact ⟨p, hp p hpage, hmem⟩
  diff := by
    intro id hid ht
    obtain ⟨c, hc, heq, hshows⟩ := d.diff id hid ht
    exact ⟨c, hd c hc, heq, hshows⟩

/-- A history without commits, in which none is open, shows nothing. -/
theorem drawnFrom_nil (hc : h.commits = []) (closed : h.opened = none) :
    DrawnFrom pages details h where
  commits := by
    intro c hmem
    rw [hc] at hmem
    exact absurd hmem List.not_mem_nil
  diff := by
    intro id hid
    exact nomatch closed.symm.trans hid

/-- The commits, what is open and the text of its changes are all that counts. -/
theorem DrawnFrom.of_eq (d : DrawnFrom pages details h) {k : History}
    (commits : k.commits = h.commits) (opened : k.opened = h.opened)
    (text : k.diff.HoldsText → h.diff.HoldsText)
    (shows : ∀ content path, h.diff.Shows content path → k.diff.Shows content path) :
    DrawnFrom pages details k where
  commits := by
    intro c hc
    rw [commits] at hc
    exact d.commits c hc
  diff := by
    intro id hid ht
    rw [opened] at hid
    obtain ⟨c, hc, heq, hshows⟩ := d.diff id hid (text ht)
    exact ⟨c, hc, heq, shows _ _ hshows⟩

theorem DrawnFrom.setSize (d : DrawnFrom pages details h) (width height : Nat) :
    DrawnFrom pages details (h.setSize width height) :=
  d.of_eq rfl rfl (Pager.holdsText_setSize _ _ _).mp fun _ _ => (Pager.shows_setSize _ _ _ _ _).mpr

theorem Turn.drawnFrom (t : Turn h out) (d : DrawnFrom pages details h) :
    DrawnFrom pages details out.1 := by
  cases t with
  | rests => exact d
  | asks => exact d.of_eq rfl rfl id fun _ _ => id

theorem Response.drawnFrom (r : Response h i out) (d : DrawnFrom pages details h) :
    DrawnFrom pages details out.1 := by
  cases r with
  | ignored => exact d
  | closed => exact ⟨d.commits, fun id hid => nomatch hid⟩
  | scrolled =>
    exact d.of_eq rfl rfl (Pager.holdsText_input _ _).mp fun _ _ => (Pager.shows_input _ _ _ _).mpr
  | entered =>
    -- the old text is dropped before the new one is asked for
    exact ⟨d.commits, fun id _ ht => absurd ht (Pager.not_holdsText_setLoading _)⟩
  | moved _ _ turn => exact turn.drawnFrom (d.of_eq rfl rfl id fun _ _ => id)

/-- What a result brings has to be among the pages and details. -/
theorem Receipt.drawnFrom (r : Receipt h m out) (d : DrawnFrom pages details h)
    (hpage : ∀ n p, m = .pageLoaded n p → pages p)
    (hdetail : ∀ c, m = .detailLoaded c → details c) : DrawnFrom pages details out.1 := by
  cases r with
  | dropped => exact d
  | @pageAdded n page _ _ turn =>
    refine turn.drawnFrom ⟨fun c hc => ?_, d.diff⟩
    rcases List.mem_append.mp hc with hc | hc
    · exact d.commits c hc
    · exact ⟨page, hpage n page rfl, hc⟩
  | pageMissed => exact d.of_eq rfl rfl id fun _ _ => id
  | @detailShown c opened =>
    refine ⟨d.commits, fun id hid _ => ?_⟩
    obtain rfl : c.id = id := Option.some.inj (opened.symm.trans hid)
    exact ⟨c, hdetail c rfl, rfl, Pager.setContent_shows _ _ _⟩
  | detailMissed =>
    exact d.of_eq rfl rfl Pager.HoldsText.of_setError fun _ _ hs => ⟨hs.1, hs.2⟩

end RepoBrowser.History
