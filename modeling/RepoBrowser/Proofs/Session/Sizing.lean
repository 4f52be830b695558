import RepoBrowser.Proofs.Browser.Size
import RepoBrowser.Proofs.Browser.Status
import RepoBrowser.Proofs.Screen.Filling

/-!
# Sizing and drawing agree

The views learn their size when the window changes its size, and the screen is divided anew each
time it is drawn.  Both reckon with the same rows around the body, so that a view is drawn into an
area of just the size that it was told.

* `addWords?`, `Layout.wantedWords?` — the sums that drawing makes, in words of 16 bits;
* `Layout.saturated`, `saturated_eq` — the sum that sizing makes, which stops at the greatest word;
* `Layout.areas_eq` — the areas of a screen that is high enough, one below the other;
* `Session.Happening`, `Session.run` — all that can happen to a session;
* `run_size` — the size of a browser is the one that the window was given last;
* `sizing_and_drawing_agree` — what the views were told and what they are drawn into.
-/

namespace RepoBrowser

open Time (Instant)
open Number

/-! ### Sums of rows -/

/-- The sum of two words of 16 bits, if it is one. -/
def addWords? (a b : Nat) : Option Nat := if a + b ≤ maxExtent then some (a + b) else none

/-- The sum of two words of 16 bits, or the greatest one. -/
def addSaturating (a b : Nat) : Nat := min (a + b) maxExtent

theorem addWords?_eq_some {a b : Nat} (fits : a + b ≤ maxExtent) :
    addWords? a b = some (a + b) := if_pos fits

namespace Layout

/-- The heights that the four areas want, each computed as a word of 16 bits. -/
def wantedWords? (l : Layout) (h : Nat) : Option (List Nat) := do
  let header ← addWords? l.headerHeight l.headerFrame
  let tabs ← addWords? l.tabsHeight l.tabsFrame
  let body ← addWords? (l.bodyHeight h) l.bodyFrame
  return [header, tabs, body, l.statusHeight]

/-- The rows that are not the body's, added up one after the other. -/
def saturated (l : Layout) : Nat :=
  [l.headerHeight, l.headerFrame, l.statusHeight, l.tabsHeight, l.tabsFrame].foldl addSaturating
    l.bodyFrame

theorem saturated_eq (l : Layout) : l.saturated = l.chromeHeight := by
  simp only [saturated, List.foldl, addSaturating, chromeHeight, totalHeight]
  omega

variable {l : Layout} {h : Nat}

theorem bodyHeight_eq (roomy : l.totalHeight ≤ h) (word : h ≤ maxExtent) :
    l.bodyHeight h = h - l.totalHeight := by
  unfold bodyHeight
  rw [chromeHeight_eq (Nat.le_trans roomy word)]

/-- On a screen that is high enough no sum is greater than the screen. -/
theorem wantedWords?_eq (roomy : l.totalHeight ≤ h) (word : h ≤ maxExtent) :
    l.wantedWords? h = some (l.wanted h) := by
  have body := bodyHeight_eq roomy word
  unfold totalHeight at roomy body
  unfold wantedWords?
  rw [addWords?_eq_some (by omega), addWords?_eq_some (by omega), addWords?_eq_some (by omega)]
  rfl

/-- The four areas want all rows of the screen. -/
theorem total_wanted (roomy : l.totalHeight ≤ h) (word : h ≤ maxExtent) :
    total (l.wanted h) = h := by
  have body := bodyHeight_eq roomy word
  unfold totalHeight at roomy body
  simp only [wanted, total_cons, total_nil]
  omega

/-- **The areas of a screen that is high enough** have the heights that they want. -/
theorem areas_eq (roomy : l.totalHeight ≤ h) (word : h ≤ maxExtent) :
    l.areas h = ⟨l.headerHeight + l.headerFrame, l.tabsHeight + l.tabsFrame,
      l.bodyHeight h + l.bodyFrame, l.statusHeight⟩ := by
  unfold areas
  rw [Stack.shares_eq (Nat.le_of_eq (total_wanted roomy word))]
  rfl

end Layout

/-! ### The size of a browser -/

namespace Browser

variable {b b' : Browser} {a : Action} {rs : List Request}

/-- Only a change of the size changes the size. -/
theorem Change.extent_eq (c : Change b a b' rs) (still : a.isResize = false) :
    b'.width = b.width ∧ b'.height = b.height := by
  cases c with
  | resized => exact nomatch still
  | _ => exact ⟨rfl, rfl⟩

theorem extent_of_update (hu : b.update a = .ok (b', rs)) (still : a.isResize = false) :
    b'.width = b.width ∧ b'.height = b.height := by
  obtain ⟨c, l, change, rfl⟩ := change_of_update hu
  exact change.extent_eq still

theorem extent_of_resized {w h : Nat} (hu : b.update (.resized w h) = .ok (b', rs)) :
    b'.width = w ∧ b'.height = h := by
  obtain ⟨-, l, rfl⟩ := act_of_update hu
  exact ⟨rfl, rfl⟩

end Browser

/-! ### What can happen to a session -/

namespace Session

/-- What can happen to a session: an event, an action that came of a request, or that the requests
which wait are taken to be performed. -/
inductive Happening where
  | event (e : Event)
  | action (a : Action)
  | taken
  deriving DecidableEq, Repr

/-- Whether the window gets another size. -/
def Happening.resizes : Happening → Bool
  | .event (.resized ..) => true
  | .event _ | .taken => false
  | .action a => a.isResize

/-- What comes of it. -/
def meet (s : Session) : Happening → Except Fault Session
  | .event e => s.handle e
  | .action a => s.update a
  | .taken => .ok s.takeRequests.2

/-- What a sequence of happenings leads to, unless a fault stops the program. -/
def run (s : Session) : List Happening → Except Fault Session
  | [] => .ok s
  | x :: rest =>
    match s.meet x with
    | .error f => .error f
    | .ok s' => s'.run rest

variable {s s' s'' : Session} {x : Happening} {layout : Layout}

theorem run_cons_eq_ok_iff {rest : List Happening} :
    s.run (x :: rest) = .ok s'' ↔ ∃ s', s.meet x = .ok s' ∧ s'.run rest = .ok s'' := by
  rw [run]
  cases s.meet x with
  | error f => simp
  | ok s' => simp

theorem run_append_eq_ok_iff {before after : List Happening} :
    s.run (before ++ after) = .ok s'' ↔ ∃ s', s.run before = .ok s' ∧ s'.run after = .ok s'' := by
  induction before generalizing s with
  | nil => simp [run]
  | cons x before ih =>
    rw [List.cons_append, run_cons_eq_ok_iff]
    constructor
    · rintro ⟨t, hmeet, hrun⟩
      obtain ⟨s', hbefore, hafter⟩ := ih.mp hrun
      exact ⟨s', run_cons_eq_ok_iff.mpr ⟨t, hmeet, hbefore⟩, hafter⟩
    · rintro ⟨s', hbefore, hafter⟩
      obtain ⟨t, hmeet, hrun⟩ := run_cons_eq_ok_iff.mp hbefore
      exact ⟨t, hmeet, ih.mpr ⟨s', hrun, hafter⟩⟩

/-- An action on a session is one on its browser; what that asks for waits behind what waits
already. -/
theorem exists_requests_of_update {a : Action} (h : s.update a = .ok s') :
    ∃ rs, s.browser.update a = .ok (s'.browser, rs) ∧ s'.waiting = s.waiting ++ rs := by
  unfold update at h
  cases hu : s.browser.update a with
  | error f =>
    rw [hu] at h
    exact nomatch h
  | ok out =>
    rw [hu] at h
    obtain rfl := Except.ok.inj h
    exact ⟨out.2, rfl, rfl⟩

theorem browser_of_update {a : Action} (h : s.update a = .ok s') :
    ∃ rs, s.browser.update a = .ok (s'.browser, rs) :=
  (exists_requests_of_update h).imp fun _ => And.left

/-- The last row of the window is that of the help. -/
theorem browser_of_resize {w h : Nat} (hr : s.resize w h = .ok s') :
    ∃ rs, s.browser.update (.resized w (h - 1)) = .ok (s'.browser, rs) := browser_of_update hr

/-- A key is for the session itself or for its browser. -/
theorem browser_of_handleKey {k : Key} (h : s.handleKey k = .ok s') :
    s'.browser = s.browser ∨ ∃ rs, s.browser.update (.key k) = .ok (s'.browser, rs) := by
  unfold handleKey at h
  dsimp only at h
  split at h
  case h_5 => exact .inr (browser_of_update (s := { s with notice := none }) h)
  all_goals exact .inl (congrArg Session.browser (Except.ok.inj h)).symm

/-- **What happens to a session leaves its browser alone or is an action on it**, which gives it a
size only if the window gets one. -/
theorem exists_action_of_meet (h : s.meet x = .ok s') : s'.browser = s.browser ∨
    ∃ a rs, s.browser.update a = .ok (s'.browser, rs) ∧
      (x.resizes = false → a.isResize = false) := by
  cases x with
  | event e =>
    cases e with
    | start => exact .inl (congrArg Session.browser (Except.ok.inj h)).symm
    | tick => exact .inl (congrArg Session.browser (Except.ok.inj h)).symm
    | key k =>
      rcases browser_of_handleKey h with same | ⟨rs, hu⟩
      · exact .inl same
      · exact .inr ⟨_, rs, hu, fun _ => rfl⟩
    | mouse m =>
      obtain ⟨rs, hu⟩ := browser_of_update h
      exact .inr ⟨_, rs, hu, fun _ => rfl⟩
    | resized w k =>
      obtain ⟨rs, hu⟩ := browser_of_resize h
      exact .inr ⟨_, rs, hu, (nomatch ·)⟩
  | action a =>
    obtain ⟨rs, hu⟩ := browser_of_update h
    exact .inr ⟨a, rs, hu, id⟩
  | taken => exact .inl (congrArg Session.browser (Except.ok.inj h)).symm

/-- **What every update of a browser keeps is kept in every session.** -/
theorem run_keeps {P : Browser → Prop}
    (keeps : ∀ {b b' a rs}, P b → b.update a = .ok (b', rs) → P b') {xs : List Happening}
    (begun : P s.browser) (h : s.run xs = .ok s') : P s'.browser := by
  induction xs generalizing s with
  | nil =>
    obtain rfl : s = s' := Except.ok.inj h
    exact begun
  | cons x xs ih =>
    obtain ⟨t, hmeet, hrun⟩ := run_cons_eq_ok_iff.mp h
    refine ih ?_ hrun
    rcases exists_action_of_meet hmeet with same | ⟨a, rs, hu, -⟩
    · rw [same]
      exact begun
    · exact keeps begun hu

/-! ### The size of the window -/

theorem meet_extent (h : s.meet x = .ok s') (still : x.resizes = false) :
    s'.browser.width = s.browser.width ∧ s'.browser.height = s.browser.height := by
  rcases exists_action_of_meet h with same | ⟨a, rs, hu, small⟩
  · rw [same]
    exact ⟨rfl, rfl⟩
  · exact Browser.extent_of_update hu (small still)

theorem run_fitted {xs : List Happening} (h : s.run xs = .ok s')
    (f : Browser.Fitted layout s.browser) : Browser.Fitted layout s'.browser :=
  run_keeps Browser.Fitted.update f h

theorem run_extent {xs : List Happening} (h : s.run xs = .ok s')
    (still : ∀ x ∈ xs, x.resizes = false) :
    s'.browser.width = s.browser.width ∧ s'.browser.height = s.browser.height := by
  induction xs generalizing s with
  | nil =>
    obtain rfl : s = s' := Except.ok.inj h
    exact ⟨rfl, rfl⟩
  | cons x xs ih =>
    obtain ⟨t, hmeet, hrun⟩ := run_cons_eq_ok_iff.mp h
    obtain ⟨hw, hk⟩ := meet_extent hmeet (still x List.mem_cons_self)
    obtain ⟨hw', hk'⟩ := ih hrun fun y hy => still y (List.mem_cons_of_mem x hy)
    exact ⟨hw'.trans hw, hk'.trans hk⟩

/-- **The size of the browser is the one that the window was given last**, less the row of the
help, and all parts of the browser fit. -/
theorem run_size {name : String} {w h : Nat} {before after : List Happening}
    (still : ∀ x ∈ after, x.resizes = false)
    (hrun : (new name layout).run (before ++ .event (.resized w h) :: after) = .ok s) :
    Browser.Fitted layout s.browser ∧ s.browser.width = w ∧ s.browser.height = h - helpHeight := by
  have fitted : Browser.Fitted layout s.browser :=
    run_fitted hrun (Browser.fitted_ofLayout layout)
  obtain ⟨t, -, hrest⟩ := run_append_eq_ok_iff.mp hrun
  obtain ⟨t', hmeet, hafter⟩ := run_cons_eq_ok_iff.mp hrest
  obtain ⟨rs, hu⟩ := browser_of_resize hmeet
  obtain ⟨hw, hk⟩ := Browser.extent_of_resized hu
  obtain ⟨hw', hk'⟩ := run_extent hafter still
  exact ⟨fitted, hw'.trans hw, hk'.trans hk⟩

/-! ### The screen -/

/-- The screen of a window that is high enough: the areas of the browser, one below the other, and
the help. -/
theorem draw_eq (s : Session) (laidOut : s.browser.layout = layout) (now : Instant) (w : Nat)
    {h : Nat} (roomy : 1 + layout.totalHeight ≤ h) (word : h ≤ maxExtent) :
    s.draw now w h
      = s.browser.drawHeader w (layout.headerHeight + layout.headerFrame)
        ++ s.browser.tabs.draw w (layout.tabsHeight + layout.tabsFrame)
        ++ (blankScreen w layout.bodyTop .plain
          ++ s.browser.drawView now w (h - 1 - layout.totalHeight)
          ++ blankScreen w (layout.bodyFrame - layout.bodyTop) .plain)
        ++ s.browser.drawStatus w layout.statusHeight ++ paragraph w 1 .plain [s.footLine] := by
  have roomy' : layout.totalHeight ≤ h - 1 := by omega
  have word' : h - 1 ≤ maxExtent := by omega
  have foot : min h 1 = 1 := by omega
  unfold draw Browser.draw helpHeight
  dsimp only
  rw [foot, laidOut, Layout.areas_eq roomy' word', Layout.bodyHeight_eq roomy' word']
  dsimp only
  rw [← laidOut, Browser.drawBody_eq]

/-- **Sizing and drawing agree.**  A window has been given the width `w` and the height `h`, which
is enough for the rows around the body and the one below the browser.  Whatever happened before and
whatever else has happened since, all parts of the browser hold the width `w` and the height that
these rows leave.  When the window is drawn no sum of heights exceeds a word of 16 bits.  The areas
of the header, the tabs, the body and the status line follow one another and fill all rows but the
last one, and the active view is drawn into an area of just the size that it holds. -/
theorem sizing_and_drawing_agree (name : String) (layout : Layout) (w h : Nat)
    (roomy : 1 + layout.totalHeight ≤ h) (word : h ≤ maxExtent) (before after : List Happening)
    (still : ∀ x ∈ after, x.resizes = false) (s : Session)
    (hrun : (new name layout).run (before ++ .event (.resized w h) :: after) = .ok s)
    (now : Instant) :
    (s.browser.tabs.size = (w, h - 1 - layout.totalHeight) ∧
      s.browser.statusLine.size = (w, h - 1 - layout.totalHeight) ∧
      s.browser.readme.size = (w, h - 1 - layout.totalHeight) ∧
      s.browser.history.Spans (w, h - 1 - layout.totalHeight) ∧
      s.browser.explorer.Spans (w, h - 1 - layout.totalHeight)) ∧
    layout.wantedWords? (h - 1) = some
      [layout.headerHeight + layout.headerFrame, layout.tabsHeight + layout.tabsFrame,
        h - 1 - layout.totalHeight + layout.bodyFrame, layout.statusHeight] ∧
    (layout.headerHeight + layout.headerFrame) + (layout.tabsHeight + layout.tabsFrame)
      + (h - 1 - layout.totalHeight + layout.bodyFrame) + layout.statusHeight = h - 1 ∧
    s.draw now w h
      = s.browser.drawHeader w (layout.headerHeight + layout.headerFrame)
        ++ s.browser.tabs.draw w (layout.tabsHeight + layout.tabsFrame)
        ++ (blankScreen w layout.bodyTop .plain
          ++ s.browser.drawView now w (h - 1 - layout.totalHeight)
          ++ blankScreen w (layout.bodyFrame - layout.bodyTop) .plain)
        ++ s.browser.drawStatus w layout.statusHeight ++ paragraph w 1 .plain [s.footLine] ∧
    (s.browser.drawHeader w (layout.headerHeight + layout.headerFrame)).Fills w
      (layout.headerHeight + layout.headerFrame) ∧
    (s.browser.tabs.draw w (layout.tabsHeight + layout.tabsFrame)).Fills w
      (layout.tabsHeight + layout.tabsFrame) ∧
    (s.browser.drawView now w (h - 1 - layout.totalHeight)).Fills w
      (h - 1 - layout.totalHeight) ∧
    (s.browser.drawStatus w layout.statusHeight).Fills w layout.statusHeight ∧
    (s.draw now w h).Fills w h := by
  obtain ⟨fitted, hwidth, hheight⟩ := run_size still hrun
  have roomy' : layout.totalHeight ≤ h - 1 := by omega
  have word' : h - 1 ≤ maxExtent := by omega
  have body : layout.bodyHeight (h - 1) = h - 1 - layout.totalHeight :=
    Layout.bodyHeight_eq roomy' word'
  have size : s.browser.bodySize = (w, h - 1 - layout.totalHeight) := by
    unfold Browser.bodySize
    rw [hwidth, hheight, fitted.laidOut, ← body]
    rfl
  have words : layout.wantedWords? (h - 1) = some
      [layout.headerHeight + layout.headerFrame, layout.tabsHeight + layout.tabsFrame,
        h - 1 - layout.totalHeight + layout.bodyFrame, layout.statusHeight] := by
    rw [Layout.wantedWords?_eq roomy' word', ← body]
    rfl
  have sum : (layout.headerHeight + layout.headerFrame) + (layout.tabsHeight + layout.tabsFrame)
      + (h - 1 - layout.totalHeight + layout.bodyFrame) + layout.statusHeight = h - 1 := by
    unfold Layout.totalHeight at roomy' ⊢
    omega
  have drawn := s.draw_eq fitted.laidOut now w roomy word
  have header := s.browser.drawHeader_fills w (layout.headerHeight + layout.headerFrame)
  have tabs := s.browser.tabs.draw_fills w (layout.tabsHeight + layout.tabsFrame)
  have view := s.browser.drawView_fills now w (h - 1 - layout.totalHeight)
  have status := s.browser.drawStatus_fills w layout.statusHeight
  refine ⟨⟨fitted.tabs.trans size, fitted.statusLine.trans size, fitted.readme.trans size,
    size ▸ fitted.history, size ▸ fitted.explorer⟩, words, sum, drawn, header, tabs, view, status,
    ?_⟩
  -- the areas of the browser, and the row of the help below them
  have rows : (s.browser.layout.areas (h - 1)).rows = h - 1 := by
    rw [fitted.laidOut, Layout.areas_eq roomy' word', body]
    exact sum
  have foot : min h 1 = 1 := by omega
  have browser := s.browser.draw_fills now w (h - 1)
  refine browser.append (paragraph_fills w _ .plain [s.footLine]) ?_
  rw [rows, helpHeight, foot]
  omega

/-- A repository is selected in a small window and its files arrive in a larger one, of whose 14
rows the body has 8, two of them for its frame. -/
theorem sizing_and_drawing_agree_sample :
    ∃ s : Session, (new "sample" { headerHeight := 1, bodyFrame := 2 }).run
        ([.event .start, .event (.resized 20 5),
          .action (.selectRepository Source.sample.ticket.repository), .taken]
          ++ .event (.resized 60 14)
            :: [.action (.referenceResolved 1 Source.sample.reference), .taken,
              .action (.files 1 (.listing "" [⟨"lib", "lib", .directory, 0⟩])),
              .action (.tabChanged .files), .event (.key ⟨.down, {}⟩)]) = .ok s ∧
      s.browser.activeTab = .files ∧ s.browser.explorer.Spans (60, 6) ∧
      ∀ now : Instant,
        (s.browser.drawView now 60 6).Fills 60 6 ∧ (s.draw now 60 14).Fills 60 14 := by
  have agree := sizing_and_drawing_agree "sample" { headerHeight := 1, bodyFrame := 2 } 60 14
    (by decide) (by decide)
    [.event .start, .event (.resized 20 5),
      .action (.selectRepository Source.sample.ticket.repository), .taken]
    [.action (.referenceResolved 1 Source.sample.reference), .taken,
      .action (.files 1 (.listing "" [⟨"lib", "lib", .directory, 0⟩])),
      .action (.tabChanged .files), .event (.key ⟨.down, {}⟩)] (by decide) _ rfl
  refine ⟨_, rfl, rfl, (agree ⟨0, 0⟩).1.2.2.2.2, fun now => ?_⟩
  obtain ⟨-, -, -, -, -, -, view, -, whole⟩ := agree now
  exact ⟨view, whole⟩

end Session

end RepoBrowser
