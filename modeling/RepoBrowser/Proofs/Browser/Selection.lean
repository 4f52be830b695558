import RepoBrowser.Proofs.Browser.Equations
import RepoBrowser.Proofs.Browser.Size

/-!
# A selection forgets the past

What a browser is after a repository has been selected depends on four things only: how it was laid
out, its size, how many selections there have been, and the headline that was announced.

* `Browser.blank` — a browser in which these are the same, and nothing else has happened;
* `Browser.selection` — a browser right after a repository has been selected;
* `update_selectRepository` — a selection is never stopped by a fault, and asks for two things;
* `Fitted.selection_blank` — a selection makes the same of both browsers;
* `selection_again` — to select the same again changes nothing but the number of the selection;
* `selection_forgets` — so nothing of an earlier repository is left, whatever was done with it.
-/

namespace RepoBrowser.Browser

variable {layout : Layout} {b : Browser}

/-- A browser of the same size, with the same count of selections and the same headline, to which
nothing has happened. -/
def blank (b : Browser) : Browser :=
  { (ofLayout b.layout).setSize b.width b.height with
    generation := b.generation
    headline := b.headline }

/-- A browser right after a repository has been selected, with its status line. -/
def selection (b : Browser) (r : Repository) : Browser := (b.select r).1.refresh

theorem selection_eq (b : Browser) (r : Repository) :
    b.selection r = { (b.select r).1 with
      statusLine := b.statusLine.say ((b.select r).1.statusOf r) } := refresh_of_selected rfl

/-- The readme is what is shown first, and it has no fault. -/
theorem fault?_selectRepository (b : Browser) (r : Repository) :
    b.fault? (.selectRepository r) = none := rfl

/-- **A selection always succeeds**, and asks for the readme and for the reference. -/
theorem update_selectRepository (b : Browser) (r : Repository) :
    b.update (.selectRepository r) = .ok (b.selection r,
      [.fetchReadme ⟨b.generation + 1, r⟩, .resolveReference ⟨b.generation + 1, r⟩]) :=
  update_eq_ok_iff.mpr ⟨b.fault?_selectRepository r, rfl⟩

/-! ### What a selection leaves -/

theorem Fitted.activate_eq (f : Fitted layout b) (t : Tab) :
    b.tabs.activate t = b.blank.tabs.activate t := by
  obtain ⟨hw, hk⟩ := Prod.mk.inj f.tabs
  show (⟨t, b.tabs.row, b.tabs.frame, b.tabs.width, b.tabs.height⟩ : TabStrip)
    = ⟨t, b.layout.headerHeight + b.layout.headerFrame, b.layout.tabsFrame, b.width,
        b.layout.bodyHeight b.height⟩
  rw [f.row, f.frame, hw, hk, f.laidOut]

theorem Fitted.setLoading_eq (f : Fitted layout b) :
    b.readme.setLoading = b.blank.readme.setLoading := by
  obtain ⟨hw, hk⟩ := Prod.mk.inj f.readme
  show (⟨b.readme.placeholder, [], "", 0, b.readme.width, b.readme.height, true, none⟩ : Pager)
    = ⟨"No readme found.", [], "", 0, b.width, b.layout.bodyHeight b.height, true, none⟩
  rw [f.placeholder, hw, hk]

theorem Fitted.resetHistory_eq (f : Fitted layout b) :
    b.history.reset = b.blank.history.reset := by
  obtain ⟨hw, hk⟩ := Prod.mk.inj f.history.1
  show ({} : History).setSize b.history.width b.history.height
    = ({} : History).setSize b.width (b.layout.bodyHeight b.height)
  rw [hw, hk]

theorem Fitted.resetExplorer_eq (f : Fitted layout b) :
    b.explorer.reset = b.blank.explorer.reset := by
  obtain ⟨hw, hk⟩ := Prod.mk.inj f.explorer.1
  show ({} : Explorer).setSize b.explorer.width b.explorer.height
    = ({} : Explorer).setSize b.width (b.layout.bodyHeight b.height)
  rw [hw, hk]

theorem Fitted.say_eq (f : Fitted layout b) (status : Status) :
    b.statusLine.say status = b.blank.statusLine.say status := by
  obtain ⟨hw, hk⟩ := Prod.mk.inj f.statusLine
  show (⟨status, b.statusLine.width, b.statusLine.height⟩ : StatusLine)
    = ⟨status, b.width, b.layout.bodyHeight b.height⟩
  rw [hw, hk]

/-- What the status line said before is all that a selection itself leaves. -/
theorem Fitted.select_eq (f : Fitted layout b) (r : Repository) :
    (b.select r).1 = { (b.blank.select r).1 with statusLine := b.statusLine } := by
  show ({ b with
      generation := b.generation + 1
      headline := some (b.headlineFor r)
      activeTab := .readme
      tabs := b.tabs.activate .readme
      readme := b.readme.setLoading
      history := b.history.reset
      explorer := b.explorer.reset
      reference := none
      error := none
      stage := .resolving
      repository := some r } : Browser) = _
  rw [f.activate_eq, f.setLoading_eq, f.resetHistory_eq, f.resetExplorer_eq]
  rfl

/-- **A selection makes the same of a browser and of one to which nothing has happened.** -/
theorem Fitted.selection_blank (f : Fitted layout b) (r : Repository) :
    b.selection r = b.blank.selection r := by
  rw [selection_eq, selection_eq, f.say_eq, f.select_eq r]
  rfl

/-! ### The headline -/

/-- The headline after a selection has the address of the repository. -/
theorem headlineFor_url (b : Browser) (r : Repository) : (b.headlineFor r).url = r.url := by
  unfold headlineFor
  split
  · split
    · assumption
    · rfl
  · rfl

theorem headlineFor_of_url {item : Headline} (announced : b.headline = some item)
    {r : Repository} (url : item.url = r.url) : b.headlineFor r = item := by
  unfold headlineFor
  rw [announced]
  exact if_pos url

/-- **A headline stays only if it has the address of the repository.** -/
theorem headlineFor_eq_iff {item : Headline} (announced : b.headline = some item)
    (r : Repository) : b.headlineFor r = item ↔ item.url = r.url := by
  constructor
  · intro h
    rw [← h]
    exact b.headlineFor_url r
  · exact headlineFor_of_url announced

/-- Any other headline gives way to the repository's own. -/
theorem headlineFor_of_foreign {r : Repository}
    (foreign : ∀ item, b.headline = some item → item.url ≠ r.url) :
    b.headlineFor r = r.headline := by
  unfold headlineFor
  split
  · rename_i item announced
    exact if_neg (foreign item announced)
  · rfl

/-! ### Selecting the same again -/

/-- **To select the same again changes the number of the selection and nothing else.** -/
theorem selection_again (b : Browser) (r : Repository) :
    (b.selection r).selection r = { b.selection r with generation := b.generation + 2 } := by
  have headline : (b.selection r).headlineFor r = b.headlineFor r := by
    refine headlineFor_of_url (b := b.selection r) ?_ (b.headlineFor_url r)
    rw [selection_eq]
    rfl
  have hselect : ((b.selection r).select r).1
      = { b.selection r with generation := b.generation + 2 } := by
    show ({ b.selection r with
        generation := b.generation + 2
        headline := some ((b.selection r).headlineFor r) } : Browser) = _
    rw [headline]
    rfl
  rw [selection_eq, hselect]
  rfl

/-! ### Any two runs -/

/-- **A selection forgets the past.**  After any two sequences of actions, whatever repositories
were selected and whatever was shown of them, the selection of a repository leads to the same
browser, with all its views, and to the same two requests, if the size, the count of selections and
the headline were the same.  Selecting the repository once more changes the count only.  The
headline is kept if it has the address of the repository, and is its own otherwise. -/
theorem selection_forgets (layout : Layout) (past past' : List Action) (b b' : Browser)
    (h : (ofLayout layout).run past = .ok b) (h' : (ofLayout layout).run past' = .ok b')
    (size : b.width = b'.width ∧ b.height = b'.height) (generation : b.generation = b'.generation)
    (headline : b.headline = b'.headline) (r : Repository) :
    ∃ c, b.update (.selectRepository r) = .ok (c,
        [.fetchReadme ⟨b.generation + 1, r⟩, .resolveReference ⟨b.generation + 1, r⟩]) ∧
      b'.update (.selectRepository r) = .ok (c,
        [.fetchReadme ⟨b.generation + 1, r⟩, .resolveReference ⟨b.generation + 1, r⟩]) ∧
      c.generation = b.generation + 1 ∧
      c.update (.selectRepository r) = .ok ({ c with generation := b.generation + 2 },
        [.fetchReadme ⟨b.generation + 2, r⟩, .resolveReference ⟨b.generation + 2, r⟩]) ∧
      (∀ item, b.headline = some item → (c.headline = some item ↔ item.url = r.url)) ∧
      ((∀ item, b.headline = some item → item.url ≠ r.url) → c.headline = some r.headline) := by
  have fitted : Fitted layout b := run_fitted h
  have fitted' : Fitted layout b' := run_fitted h'
  have blank : b.blank = b'.blank := by
    unfold Browser.blank
    rw [fitted.laidOut, fitted'.laidOut, size.1, size.2, generation, headline]
  have same : b'.selection r = b.selection r :=
    (fitted'.selection_blank r).trans ((congrArg (selection · r) blank.symm).trans
      (fitted.selection_blank r).symm)
  have count : (b.selection r).generation = b.generation + 1 := by rw [selection_eq]; rfl
  have kept : (b.selection r).headline = some (b.headlineFor r) := by rw [selection_eq]; rfl
  refine ⟨b.selection r, b.update_selectRepository r, ?_, count, ?_, ?_, ?_⟩
  · rw [update_selectRepository, same, generation]
  · rw [update_selectRepository, selection_again, count]
  · intro item announced
    rw [kept, Option.some_inj]
    exact headlineFor_eq_iff announced r
  · intro foreign
    rw [kept, headlineFor_of_foreign foreign]

/-- The files of the sample are looked through until another look-up fails. -/
def pastInFiles : List Action :=
  [.resized 60 12, .selectRepository Source.sample.ticket.repository,
    .referenceResolved 1 Source.sample.reference,
    .files 1 (.listing "" [⟨"lib", "lib", .directory, 0⟩]), .tabChanged .files,
    .key ⟨.enter, {}⟩, .failed "gone", .selectHeadline ⟨"another", "elsewhere", ""⟩]

/-- The readme of another repository is loaded before the window gets its size. -/
def pastInReadme : List Action :=
  [.selectRepository { Source.sample.ticket.repository with name := "other" },
    .readmeLoaded 1 ⟨"# other", "README.md"⟩, .selectHeadline ⟨"another", "elsewhere", ""⟩,
    .resized 60 12]

/-- Nothing tells the two pasts apart once the sample is selected. -/
theorem selection_forgets_sample :
    ∃ b b' c : Browser, (ofLayout {}).run pastInFiles = .ok b ∧
      (ofLayout {}).run pastInReadme = .ok b' ∧ b.activeTab ≠ b'.activeTab ∧
      b.update (.selectRepository Source.sample.ticket.repository) = .ok (c,
        [.fetchReadme ⟨2, Source.sample.ticket.repository⟩,
          .resolveReference ⟨2, Source.sample.ticket.repository⟩]) ∧
      b'.update (.selectRepository Source.sample.ticket.repository) = .ok (c,
        [.fetchReadme ⟨2, Source.sample.ticket.repository⟩,
          .resolveReference ⟨2, Source.sample.ticket.repository⟩]) ∧
      c.headline = some Source.sample.ticket.repository.headline := by
  obtain ⟨c, selected, selected', -, -, -, own⟩ := selection_forgets {} pastInFiles pastInReadme
    _ _ rfl rfl ⟨rfl, rfl⟩ rfl rfl Source.sample.ticket.repository
  refine ⟨_, _, c, rfl, rfl, by decide, selected, selected', own ?_⟩
  intro item announced
  obtain rfl : (⟨"another", "elsewhere", ""⟩ : Headline) = item := Option.some.inj announced
  decide

end RepoBrowser.Browser
