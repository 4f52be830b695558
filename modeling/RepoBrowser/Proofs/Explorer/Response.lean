import RepoBrowser.Explorer.Basic
import RepoBrowser.Proofs.Origin
import RepoBrowser.Proofs.Pager.Text

/-!
# What can happen to an explorer

* `Explorer.visit` — an explorer that has gone into a directory, before it shows the entries;
* `Response` — what comes of an input;
* `Explorer.Receipt` — what comes of a result; only the one whose path is waited for counts.
-/

namespace RepoBrowser

/-- The path that a result is about. -/
def FilesMessage.path : FilesMessage → String
  | .listing p _ | .file p _ | .failed p _ => p

namespace Explorer

/-- An explorer that has gone into a directory, with the entries yet to be put in. -/
def visit (x : Explorer) (path : String) : Explorer :=
  { x with
    history := ⟨x.path, x.selected, x.offset⟩ :: x.history
    path, selected := 0, offset := 0, error := none }

/-- What comes of an input. -/
inductive Response (x : Explorer) (i : Input) : Explorer × List Request → Prop
  | ignored : Response x i (x, [])
  | closed {f : String} (opened : x.opened = some f) : Response x i (x.closeFile, [])
  | scrolled {f : String} (opened : x.opened = some f) :
      Response x i ({ x with viewer := x.viewer.input i }, [])
  | recalled {e : Entry} {entries : List Entry} (closed : x.opened = none)
      (entry : x.entries[x.selected]? = some e) (kind : e.kind = .directory)
      (known : x.listings.lookup e.path = some entries) :
      Response x i ({ x.visit e.path with entries, pending := none }, [])
  | entered {e : Entry} {s : Source} (closed : x.opened = none)
      (entry : x.entries[x.selected]? = some e) (kind : e.kind = .directory)
      (unknown : x.listings.lookup e.path = none) (source : x.source = some s) :
      Response x i ({ x.visit e.path with entries := [], pending := some e.path },
        [.fetchListing s.ticket s.reference e.path])
  | strayed {e : Entry} (closed : x.opened = none)
      (entry : x.entries[x.selected]? = some e) (source : x.source = none) :
      Response x i ({ x.visit e.path with entries := [] }, [])
  | openedFile {e : Entry} {s : Source} (closed : x.opened = none)
      (entry : x.entries[x.selected]? = some e) (kind : e.kind = .file ∨ e.kind = .symlink)
      (source : x.source = some s) :
      Response x i
        ({ x with
            opened := some e.path
            pending := some e.path
            viewer := x.viewer.setLoading },
          [.fetchFile s.ticket s.reference e.path])
  | left (closed : x.opened = none) : Response x i (x.leaveDirectory, [])
  | moved (closed : x.opened = none) (m : Move) : Response x i (x.select m, [])

theorem openSelected_response (x : Explorer) (i : Input) (closed : x.opened = none) :
    Response x i x.openSelected := by
  unfold openSelected
  split
  · exact .ignored
  · rename_i e entry
    split
    · rename_i kind
      show Response x i (x.enterDirectory e.path)
      unfold enterDirectory
      dsimp only
      split
      · rename_i entries known
        exact .recalled closed entry kind known
      · rename_i unknown
        unfold askListing
        split
        · rename_i source
          exact .strayed closed entry source
        · rename_i s source
          exact .entered closed entry kind unknown source
    all_goals rename_i kind
    · show Response x i (x.openFile e.path)
      unfold openFile
      split
      · exact .ignored
      · rename_i s source
        exact .openedFile closed entry (.inl kind) source
    · show Response x i (x.openFile e.path)
      unfold openFile
      split
      · exact .ignored
      · rename_i s source
        exact .openedFile closed entry (.inr kind) source
    · exact .ignored

theorem input_response (x : Explorer) (i : Input) : Response x i (x.input i) := by
  unfold input
  split
  · rename_i f opened
    split
    · exact .closed opened
    · exact .scrolled opened
  · rename_i closed
    split
    · rename_i m _
      cases m with
      | enter => exact x.openSelected_response i closed
      | back => exact .left closed
      | up => exact .moved closed .up
      | down => exact .moved closed .down
      | pageUp => exact .moved closed .pageUp
      | pageDown => exact .moved closed .pageDown
      | top => exact .moved closed .top
      | bottom => exact .moved closed .bottom
    · exact .ignored

/-- What comes of a result. -/
inductive Receipt (x : Explorer) : FilesMessage → Explorer → Prop
  | dropped (m : FilesMessage) (foreign : x.pending ≠ some m.path) : Receipt x m x
  | listed {path : String} {entries : List Entry} (pending : x.pending = some path) :
      Receipt x (.listing path entries) (x.keepListing path entries)
  | shown {path content : String} (pending : x.pending = some path) :
      Receipt x (.file path content)
        { x with pending := none, viewer := x.viewer.setContent content path }
  | fileMissed {f path reason : String} (pending : x.pending = some path)
      (opened : x.opened = some f) :
      Receipt x (.failed path reason) { x with pending := none, viewer := x.viewer.setError reason }
  | listingMissed {path reason : String} (pending : x.pending = some path)
      (closed : x.opened = none) :
      Receipt x (.failed path reason) { x with pending := none, error := some reason }

/-- **A result about a path that is not waited for changes nothing.** -/
theorem receive_of_ne {x : Explorer} {m : FilesMessage} (foreign : x.pending ≠ some m.path) :
    x.receive m = x := by
  cases m <;> exact if_neg foreign

theorem receive_receipt (x : Explorer) (m : FilesMessage) : Receipt x m (x.receive m) := by
  by_cases pending : x.pending = some m.path
  · cases m with
    | listing path entries =>
      rw [show x.receive (.listing path entries) = x.keepListing path entries from if_pos pending]
      exact .listed pending
    | file path content =>
      rw [show x.receive (.file path content)
          = { x with pending := none, viewer := x.viewer.setContent content path }
          from if_pos pending]
      exact .shown pending
    | failed path reason =>
      simp only [receive, if_pos (show x.pending = some path from pending)]
      split
      · rename_i f opened
        exact .fileMissed pending opened
      · rename_i closed
        exact .listingMissed pending closed
  · rw [receive_of_ne pending]
    exact .dropped m pending

/-! ### The source, and where requests come from -/

variable {x : Explorer} {i : Input} {m : FilesMessage} {y : Explorer}
  {out : Explorer × List Request}

theorem leaveDirectory_source (x : Explorer) : x.leaveDirectory.source = x.source := by
  unfold leaveDirectory
  split <;> rfl

theorem keepListing_source (x : Explorer) (path : String) (entries : List Entry) :
    (x.keepListing path entries).source = x.source := by
  unfold keepListing
  dsimp only
  split <;> rfl

theorem Response.source_eq (r : Response x i out) : out.1.source = x.source := by
  cases r with
  | left => exact x.leaveDirectory_source
  | _ => rfl

theorem Receipt.source_eq (r : Receipt x m y) : y.source = x.source := by
  cases r with
  | listed => exact x.keepListing_source _ _
  | _ => rfl

theorem Response.isFrom (t : Response x i out) :
    ∀ r ∈ out.2, ∃ s, x.source = some s ∧ r.IsFrom s := by
  cases t with
  | @entered e s _ _ _ _ source =>
    intro r hr
    rw [List.mem_singleton.mp hr]
    exact ⟨s, source, .fetchListing s _⟩
  | @openedFile e s _ _ _ source =>
    intro r hr
    rw [List.mem_singleton.mp hr]
    exact ⟨s, source, .fetchFile s _⟩
  | _ => exact fun r hr => absurd hr List.not_mem_nil

/-- An explorer that waits for nothing is not changed by any result. -/
theorem receive_of_pending_eq_none (idle : x.pending = none) : x.receive m = x :=
  receive_of_ne (by rw [idle]; exact (Option.some_ne_none _).symm)

theorem start_eq (x : Explorer) (s : Source) :
    x.start s = ({ x.reset with source := some s, pending := some "" },
      [.fetchListing s.ticket s.reference ""]) := rfl

end Explorer

end RepoBrowser
