import RepoBrowser.Proofs.Browser.Agreement
import RepoBrowser.Proofs.Browser.Equations
import RepoBrowser.Proofs.Session.Sizing
import RepoBrowser.Proofs.TabStrip

/-!
# A press finds the title under it

Where the titles of the tabs are on screen follows from how the rows are shared out and how the strip
is drawn; which tab a press of the left button is for is reckoned from the layout alone.

* `Pager.input_press`, `History.input_press`, `Explorer.input_press` — to the views a press is
  nothing;
* `Browser.act_press` — to the browser it is a change of the tab at most;
* `Layout.titleAt?` — the tab that a cell of the screen belongs to;
* `press_finds_title` — the screen and the press agree on it.
-/

namespace RepoBrowser

open Time (Instant)

variable {m : Mouse}

/-! ### The views -/

theorem Pager.input_press (p : Pager) (pressed : m.deed = .press .left) :
    p.input (.mouse m) = p := by
  show (p.wheel? m).getD p = p
  unfold Pager.wheel?
  rw [pressed]
  rfl

theorem ofInput?_press (pressed : m.deed = .press .left) : Move.ofInput? (.mouse m) = none := by
  show Move.ofWheel? m = none
  unfold Move.ofWheel?
  rw [pressed]

theorem History.input_press (h : History) (pressed : m.deed = .press .left) :
    h.input (.mouse m) = (h, []) := by
  unfold History.input
  rw [ofInput?_press pressed, h.diff.input_press pressed]
  split <;> rfl

theorem Explorer.input_press (x : Explorer) (pressed : m.deed = .press .left) :
    x.input (.mouse m) = (x, []) := by
  unfold Explorer.input
  rw [ofInput?_press pressed, x.viewer.input_press pressed]
  split <;> rfl

/-! ### The browser -/

namespace Browser

variable {b : Browser} {r : Repository}

/-- A browser that shows another tab. -/
def showing (b : Browser) (t : Tab) : Browser :=
  { b with activeTab := t, tabs := b.tabs.activate t }

theorem showing_activeTab (strip : b.tabs.active = b.activeTab) : b.showing b.activeTab = b := by
  have same : b.tabs.activate b.activeTab = b.tabs := by
    unfold TabStrip.activate
    rw [← strip]
  unfold showing
  rw [same]

theorem viewInput_press (b : Browser) (pressed : m.deed = .press .left) :
    b.viewInput (.mouse m) = (b, []) := by
  unfold viewInput
  rw [b.readme.input_press pressed, b.explorer.input_press pressed, b.history.input_press pressed]
  split <;> rfl

/-- **A press changes the tab at most**: to the one that it asks for. -/
theorem act_press (agrees : Agrees b) (ready : b.stage = .ready)
    (pressed : m.deed = .press .left) :
    b.act (.mouse m)
      = ⟨b.showing ((b.tabs.target? (.mouse m)).getD b.activeTab), [], true⟩ := by
  obtain ⟨r, selected⟩ := agrees.exists_repository ready
  show b.input (.mouse m) = _
  cases target : b.tabs.target? (.mouse m) with
  | none =>
    rw [input_of_view target selected, b.viewInput_press pressed, Option.getD_none,
      showing_activeTab agrees.strip]
  | some t =>
    have changed : b.changeTab t = b.showing t := if_pos ready
    have refreshes : b.tabRefreshes = true := decide_eq_true ready
    rw [input_of_target target, changed, refreshes, Option.getD_some]

end Browser

/-! ### The screen -/

/-- The tab whose title, with the blanks around it, has a cell of the screen. -/
def Layout.titleAt? (l : Layout) (column row : Nat) : Option Tab :=
  if row = l.headerHeight + l.headerFrame then TabStrip.owner? Tab.all column else none

namespace Session

variable {s : Session} {layout : Layout}

/-- A result is void for one who reads a part of it only if it is void. -/
theorem map_checked {α β : Type} (f : α → β) (fault : Option Fault) (result : α) :
    (checked fault result).map f = checked fault (f result) := by
  cases fault <;> rfl

/-- **What a press does to a session** that is ready. -/
theorem handle_press (agrees : Browser.Agrees s.browser) (fitted : Browser.Fitted layout s.browser)
    (ready : s.browser.stage = .ready) (pressed : m.deed = .press .left) {t : Tab}
    (found : (layout.titleAt? m.column m.row).getD s.browser.activeTab = t) :
    s.handle (.mouse m)
      = checked (if t = .commits then s.browser.history.statusFault? else none)
          { s with browser := (s.browser.showing t).refresh } := by
  have target : (s.browser.tabs.target? (.mouse m)).getD s.browser.activeTab = t := by
    rw [TabStrip.target?_press _ pressed, fitted.row]
    exact found
  have act := Browser.act_press agrees ready pressed
  rw [target] at act
  obtain ⟨r, selected⟩ := agrees.exists_repository ready
  have fault : s.browser.fault? (.mouse m)
      = if t = .commits then s.browser.history.statusFault? else none := by
    unfold Browser.fault?
    rw [act]
    simp only [Option.none_or, if_true]
    unfold Browser.refreshFault?
    simp [Browser.showing, selected]
  show s.update (.mouse m) = _
  unfold update Browser.update
  rw [map_checked, fault, Browser.apply_of_refreshes (by rw [act]), act]
  simp [ask]

/-- **A press finds the title under it.**  A session is ready, whatever has happened to it, and is
shown in a window of width `w` and height `h`, high enough for the rows around the body, that of the
titles and the one below the browser.  The row of the titles holds the strip, cut at the width.  A
press of the left button makes a tab active exactly if the cell that is pressed belongs to the title
of the tab or to a blank beside it; on any other cell the active tab stays.  Nothing else comes of
the press but that the status line is brought up to date, which can fail only for a commit. -/
theorem press_finds_title (name : String) (layout : Layout) (titled : 1 ≤ layout.tabsHeight)
    (w h : Nat) (roomy : 1 + layout.totalHeight ≤ h) (word : h ≤ maxExtent)
    (happened : List Happening) (s : Session) (hrun : (new name layout).run happened = .ok s)
    (ready : s.browser.stage = .ready) (now : Instant) (m : Mouse)
    (pressed : m.deed = .press .left) (t : Tab)
    (found : (layout.titleAt? m.column m.row).getD s.browser.activeTab = t) :
    (∃ row, (s.draw now w h)[layout.headerHeight + layout.headerFrame]? = some row ∧
      row.map (·.glyph) = TabStrip.stripCells w) ∧
    s.handle (.mouse m)
      = checked (if t = .commits then s.browser.history.statusFault? else none)
          { s with browser := (s.browser.showing t).refresh } ∧
    ∀ s', s.handle (.mouse m) = .ok s' →
      s'.browser.activeTab = t ∧ s'.browser.tabs.active = t := by
  have fitted : Browser.Fitted layout s.browser :=
    run_fitted hrun (Browser.fitted_ofLayout layout)
  have agrees : Browser.Agrees s.browser :=
    run_keeps Browser.Agrees.update (Browser.agrees_ofLayout layout) hrun
  have handled := handle_press agrees fitted ready pressed found
  refine ⟨⟨s.browser.tabs.titleRow w, ?_, s.browser.tabs.titleRow_glyphs w⟩, handled, ?_⟩
  · have header := s.browser.drawHeader_fills w (layout.headerHeight + layout.headerFrame)
    have first := s.browser.tabs.draw_titleRow w titled
    rw [fitted.frame] at first
    have shown : (s.browser.drawHeader w (layout.headerHeight + layout.headerFrame)
        ++ s.browser.tabs.draw w (layout.tabsHeight + layout.tabsFrame))[
          layout.headerHeight + layout.headerFrame]? = some (s.browser.tabs.titleRow w) := by
      rw [List.getElem?_append_right (Nat.le_of_eq header.1), header.1, Nat.sub_self, first]
    rw [s.draw_eq fitted.laidOut now w roomy word]
    -- nothing that stands below the strip changes what is in front of it
    have inside := (List.getElem?_eq_some_iff.mp shown).1
    simp only [List.append_assoc] at shown inside ⊢
    rw [← List.append_assoc, List.getElem?_append_left inside, shown]
  · intro s' ok
    rw [handled] at ok
    obtain ⟨-, rfl⟩ := checked_eq_ok_iff.mp ok
    obtain ⟨l, hl⟩ := (s.browser.showing t).refresh_eq
    rw [hl]
    exact ⟨rfl, rfl⟩

/-- In a window of twelve columns the second title is cut; a press on what is left of it is for its
tab, and one on the divider in front of it is for none. -/
theorem press_finds_title_sample :
    ∃ s, (new "sample" {}).run [.event (.resized 12 9),
        .action (.selectRepository Source.sample.ticket.repository),
        .action (.referenceResolved 1 Source.sample.reference)] = .ok s ∧
      (∀ now : Instant, ∃ row, (s.draw now 12 9)[3]? = some row ∧
        row.map (·.glyph) = " Readme │ Fi".toList.map fun c => [c]) ∧
      (∀ s', s.handle (.mouse ⟨.press .left, 11, 3⟩) = .ok s' → s'.browser.activeTab = .files) ∧
      ∀ s', s.handle (.mouse ⟨.press .left, 8, 3⟩) = .ok s' → s'.browser.activeTab = .readme := by
  have press := press_finds_title "sample" {} (by decide) 12 9 (by decide) (by decide)
    [.event (.resized 12 9), .action (.selectRepository Source.sample.ticket.repository),
      .action (.referenceResolved 1 Source.sample.reference)] _ rfl rfl
  refine ⟨_, rfl, fun now => ?_, fun s' ok => ?_, fun s' ok => ?_⟩
  · obtain ⟨⟨row, shown, cells⟩, -⟩ := press now ⟨.press .left, 11, 3⟩ rfl .files (by decide)
    exact ⟨row, shown, cells.trans (by decide)⟩
  · obtain ⟨-, -, active⟩ := press ⟨0, 0⟩ ⟨.press .left, 11, 3⟩ rfl .files (by decide)
    exact (active s' ok).1
  · obtain ⟨-, -, active⟩ := press ⟨0, 0⟩ ⟨.press .left, 8, 3⟩ rfl .readme (by decide)
    exact (active s' ok).1

end Session

end RepoBrowser
