import RepoBrowser.Proofs.Browser.Equations
import RepoBrowser.Proofs.History.Run
import RepoBrowser.Proofs.Origin

/-!
# Each view goes its own way

Of the readme, the history and the explorer none looks at another one, nor at the tabs.  What a view
is given is decided by a part of the browser that looks at none of them in turn.

* `Router`, `Router.step` — what decides where things go, with the layout, the selection and the
  tabs, and how it goes on by itself;
* `Delivery` — what a view can be given;
* `View`, `readmeView`, `historyView`, `explorerView` — the tab of a view, the results that are for
  it, and what it makes of what it is given;
* `Router.notice?`, `Router.input?` — what a view is given whether its tab is shown or not, and what
  it is given only then;
* `Router.step_of_stale`, `Router.notice?_of_stale` — a result for another selection goes nowhere;
* `router_act`, `views_act` — one action in a browser is one step of the router, and at most one
  delivery to each view;
* `run_eq` — so a run of a browser is a run of its router, and of each view alone;
* `Router.Away` — the runs that never leave an input to a view;
* `views_run_alone` — all of it, for every run from the beginning.
-/

namespace RepoBrowser

/-! ### Where things go -/

/-- What decides where things go. -/
structure Router where
  layout : Layout
  stage : Stage
  generation : Nat
  repository : Option Repository
  activeTab : Tab
  tabs : TabStrip

/-- What decides in a browser where things go. -/
def Browser.router (b : Browser) : Router where
  layout := b.layout
  stage := b.stage
  generation := b.generation
  repository := b.repository
  activeTab := b.activeTab
  tabs := b.tabs

/-- What a view can be given: it is reset or started, a result arrives for it, and it gets an input
or another size. -/
inductive Delivery (Message : Type) where
  | reset
  | start (source : Source)
  | result (message : Message)
  | input (i : Input)
  | resize (width height : Nat)

/-- How a view is addressed, and what it makes of what it is given. -/
structure View (State Message : Type) where
  tab : Tab
  /-- The result that is for the view, with the number of its selection. -/
  result? : Action → Option (Nat × Message)
  give : State → Delivery Message → State

/-- The input that an action is. -/
def Action.input? : Action → Option Input
  | .key k => some (.key k)
  | .mouse m => some (.mouse m)
  | _ => none

namespace Router

variable {State Message : Type}

/-- Whether a result belongs to another selection than the current one. -/
def isStale (ρ : Router) (generation : Nat) : Bool :=
  ρ.repository.isNone || generation ≠ ρ.generation

/-- The source that a result lets commits and files begin with, if it is waited for. -/
def source? (ρ : Router) : Action → Option Source
  | .referenceResolved generation reference =>
    ρ.repository.bind fun r =>
      if generation = ρ.generation && ρ.stage = .resolving then
        some ⟨⟨ρ.generation, r⟩, reference⟩
      else none
  | _ => none

/-- The tab that an action asks for. -/
def target? (ρ : Router) : Action → Option Tab
  | .tabChanged t => some t
  | .key k => ρ.tabs.target? (.key k)
  | .mouse m => ρ.tabs.target? (.mouse m)
  | _ => none

/-- Shows another tab; before the reference is known there is only one. -/
def changeTab (ρ : Router) (t : Tab) : Router :=
  if ρ.stage = .ready then { ρ with activeTab := t, tabs := ρ.tabs.activate t }
  else { ρ with tabs := ρ.tabs.activate ρ.activeTab }

/-- What an action does to where things go. -/
def step (ρ : Router) (a : Action) : Router :=
  match a with
  | .selectRepository r =>
    { ρ with
      generation := ρ.generation + 1
      repository := some r
      stage := .resolving
      activeTab := .readme
      tabs := ρ.tabs.activate .readme }
  | .resized width height =>
    { ρ with tabs := ρ.tabs.setSize width (ρ.layout.bodyHeight height) }
  | a =>
    match ρ.target? a with
    | some t => ρ.changeTab t
    | none => if (ρ.source? a).isSome then { ρ with stage := .ready } else ρ

/-- What a sequence of actions does to where things go. -/
def run (ρ : Router) (actions : List Action) : Router := actions.foldl step ρ

/-- What an action gives to a view whether its tab is shown or not. -/
def notice? (ρ : Router) (v : View State Message) (a : Action) : Option (Delivery Message) :=
  match a with
  | .selectRepository _ => some .reset
  | .resized width height => some (.resize width (ρ.layout.bodyHeight height))
  | a =>
    match v.result? a with
    | some (generation, message) => if ρ.isStale generation then none else some (.result message)
    | none => (ρ.source? a).map .start

/-- The input that an action gives to the view of a tab: the tab is shown in a browser with a
repository, and the strip of tabs does not take the input. -/
def input? (ρ : Router) (tab : Tab) (a : Action) : Option Input :=
  if ρ.repository.isSome && ρ.activeTab = tab && (ρ.target? a).isNone then a.input? else none

/-- What an action gives to a view. -/
def deliver? (ρ : Router) (v : View State Message) (a : Action) : Option (Delivery Message) :=
  (ρ.notice? v a).or ((ρ.input? v.tab a).map .input)

/-- What a sequence of actions gives to a view, in order. -/
def deliveries (ρ : Router) (v : View State Message) : List Action → List (Delivery Message)
  | [] => []
  | a :: rest => (ρ.deliver? v a).toList ++ (ρ.step a).deliveries v rest

/-- What a sequence of actions gives to a view whether its tab is shown or not. -/
def notices (ρ : Router) (v : View State Message) : List Action → List (Delivery Message)
  | [] => []
  | a :: rest => (ρ.notice? v a).toList ++ (ρ.step a).notices v rest

/-- At each action of the sequence another tab is shown, or the tab is changed. -/
def Away (ρ : Router) (tab : Tab) : List Action → Prop
  | [] => True
  | a :: rest => (ρ.activeTab ≠ tab ∨ (ρ.target? a).isSome = true) ∧ (ρ.step a).Away tab rest

end Router

/-- What a sequence of deliveries makes of a view. -/
def View.run {State Message : Type} (v : View State Message) (s : State)
    (deliveries : List (Delivery Message)) : State := deliveries.foldl v.give s

/-- A result for a view has the number of the selection that it is for. -/
def View.Dated {State Message : Type} (v : View State Message) : Prop :=
  ∀ a g m, v.result? a = some (g, m) → a.generation? = some g

/-! ### The views -/

/-- The readme as a view.  A result for it is a readme, or the reason why there is none. -/
def readmeView : View Pager (Except String Readme) where
  tab := .readme
  result?
    | .readmeLoaded g readme => some (g, .ok readme)
    | .readmeFailed g reason => some (g, .error reason)
    | _ => none
  give p
    | .reset => p.setLoading
    | .start _ => p
    | .result (.ok readme) => p.setContent readme.content readme.path
    | .result (.error reason) => p.setError reason
    | .input i => p.input i
    | .resize width height => p.setSize width height

/-- What a history is given is an operation on it. -/
def Delivery.operation : Delivery LogMessage → History.Operation
  | .reset => .reset
  | .start s => .start s
  | .result m => .receive m
  | .input i => .input i
  | .resize width height => .resize width height

/-- The history as a view. -/
def historyView : View History LogMessage where
  tab := .commits
  result?
    | .log g m => some (g, m)
    | _ => none
  give h d := (h.operate d.operation).1

/-- The explorer as a view. -/
def explorerView : View Explorer FilesMessage where
  tab := .files
  result?
    | .files g m => some (g, m)
    | _ => none
  give x
    | .reset => x.reset
    | .start s => (x.start s).1
    | .result m => x.receive m
    | .input i => (x.input i).1
    | .resize width height => x.setSize width height

theorem readmeView_dated : readmeView.Dated := by
  intro a g m result
  cases a with
  | readmeLoaded | readmeFailed =>
    obtain ⟨rfl, -⟩ := Prod.mk.inj (Option.some.inj result)
    rfl
  | _ => exact nomatch result

theorem historyView_dated : historyView.Dated := by
  intro a g m result
  cases a with
  | log =>
    obtain ⟨rfl, -⟩ := Prod.mk.inj (Option.some.inj result)
    rfl
  | _ => exact nomatch result

theorem explorerView_dated : explorerView.Dated := by
  intro a g m result
  cases a with
  | files =>
    obtain ⟨rfl, -⟩ := Prod.mk.inj (Option.some.inj result)
    rfl
  | _ => exact nomatch result

/-- The three views of a browser. -/
structure Views where
  readme : Pager
  history : History
  explorer : Explorer

def Browser.views (b : Browser) : Views := ⟨b.readme, b.history, b.explorer⟩

/-- What an action makes of the views. -/
def Views.after (v : Views) (ρ : Router) (a : Action) : Views where
  readme := readmeView.run v.readme (ρ.deliver? readmeView a).toList
  history := historyView.run v.history (ρ.deliver? historyView a).toList
  explorer := explorerView.run v.explorer (ρ.deliver? explorerView a).toList

/-! ### Inputs -/

namespace Router

variable {ρ : Router} {a : Action} {i : Input} {t tab : Tab}

theorem input?_of_target (target : ρ.target? a = some t) : ρ.input? tab a = none := by
  unfold input?
  rw [target, if_neg (by simp)]

theorem input?_of_unselected (unselected : ρ.repository = none) : ρ.input? tab a = none := by
  unfold input?
  rw [unselected, if_neg (by simp)]

theorem input?_of_other (other : ρ.activeTab ≠ tab) : ρ.input? tab a = none := by
  unfold input?
  rw [if_neg (by simp [other])]

theorem input?_of_shown {r : Repository} (selected : ρ.repository = some r)
    (shown : ρ.activeTab = tab) (target : ρ.target? a = none) : ρ.input? tab a = a.input? := by
  unfold input?
  rw [selected, target, if_pos (by simp [shown])]

/-- An input that the strip does not take leaves the router as it is. -/
theorem step_of_input (target : ρ.target? i.action = none) : ρ.step i.action = ρ := by
  cases i with
  | key k =>
    have target : ρ.target? (.key k) = none := target
    simp only [step, Input.action, target]
    rfl
  | mouse m =>
    have target : ρ.target? (.mouse m) = none := target
    simp only [step, Input.action, target]
    rfl

theorem step_of_target (target : ρ.target? a = some t) : ρ.step a = ρ.changeTab t := by
  cases a with
  | tabChanged | key | mouse => simp only [step, target]
  | _ => exact nomatch target

/-! ### Results -/

section Results

variable {State Message : Type} {v : View State Message} {g : Nat} {m : Message}

/-- What a result does to where things go: commits and files begin, or nothing happens. -/
theorem step_of_result (isResult : a.generation? = some g) :
    ρ.step a = if (ρ.source? a).isSome then { ρ with stage := .ready } else ρ := by
  cases a with
  | referenceResolved | referenceFailed | readmeLoaded | readmeFailed | log | files => rfl
  | _ => exact nomatch isResult

/-- A result for a view is given to it if it is for the current selection. -/
theorem notice?_of_result (isResult : a.generation? = some g) (result : v.result? a = some (g, m)) :
    ρ.notice? v a = if ρ.isStale g then none else some (.result m) := by
  cases a with
  | referenceResolved | referenceFailed | readmeLoaded | readmeFailed | log | files =>
    simp only [notice?, result]
  | _ => exact nomatch isResult

/-- A result that is not for a view gives it at most the source to begin with. -/
theorem notice?_of_foreign (isResult : a.generation? = some g) (foreign : v.result? a = none) :
    ρ.notice? v a = (ρ.source? a).map .start := by
  cases a with
  | referenceResolved | referenceFailed | readmeLoaded | readmeFailed | log | files =>
    simp only [notice?, foreign]
  | _ => exact nomatch isResult

theorem notice?_of_fresh (isResult : a.generation? = some g) (result : v.result? a = some (g, m))
    (fresh : ρ.isStale g = false) : ρ.notice? v a = some (.result m) := by
  rw [notice?_of_result isResult result, if_neg (Bool.eq_false_iff.mp fresh)]

theorem source?_referenceResolved (ρ : Router) (g : Nat) (n : Reference) :
    ρ.source? (.referenceResolved g n) = ρ.repository.bind fun r =>
      if g = ρ.generation && ρ.stage = .resolving then some ⟨⟨ρ.generation, r⟩, n⟩ else none := rfl

/-- A result for another selection is no reference that is waited for. -/
theorem source?_of_stale (isResult : a.generation? = some g) (stale : ρ.isStale g = true) :
    ρ.source? a = none := by
  cases a with
  | referenceResolved g' n =>
    obtain rfl : g' = g := Option.some.inj isResult
    rw [source?_referenceResolved]
    rcases Option.eq_none_or_eq_some ρ.repository with unselected | ⟨r, selected⟩
    · rw [unselected, Option.bind_none]
    · have other : g' ≠ ρ.generation := by simpa [isStale, selected] using stale
      simp [selected, other]
  | _ => rfl

/-- **A result for another selection leaves where things go.** -/
theorem step_of_stale (isResult : a.generation? = some g) (stale : ρ.isStale g = true) :
    ρ.step a = ρ := by
  rw [step_of_result isResult, source?_of_stale isResult stale]
  rfl

/-- **No view is given a result for another selection.** -/
theorem notice?_of_stale (dated : v.Dated) (isResult : a.generation? = some g)
    (stale : ρ.isStale g = true) : ρ.notice? v a = none := by
  cases result : v.result? a with
  | none => rw [notice?_of_foreign isResult result, source?_of_stale isResult stale, Option.map_none]
  | some r =>
    obtain ⟨g', m⟩ := r
    obtain rfl : g' = g := Option.some.inj ((dated a g' m result).symm.trans isResult)
    rw [notice?_of_result isResult result, if_pos stale]

end Results

end Router

/-- What an action that is no input makes of the views. -/
theorem Views.after_notice (v : Views) (ρ : Router) {a : Action} (h : a.input? = none) :
    v.after ρ a =
      { readme := readmeView.run v.readme (ρ.notice? readmeView a).toList
        history := historyView.run v.history (ρ.notice? historyView a).toList
        explorer := explorerView.run v.explorer (ρ.notice? explorerView a).toList } := by
  have none : ∀ tab, ρ.input? tab a = none := by
    intro tab
    unfold Router.input?
    rw [h, ite_self]
  simp only [after, Router.deliver?, none, Option.map_none, Option.or_none]

/-- **A result for another selection leaves the views.** -/
theorem Views.after_of_stale (v : Views) {ρ : Router} {a : Action} {g : Nat}
    (isResult : a.generation? = some g) (stale : ρ.isStale g = true) : v.after ρ a = v := by
  have noInput : a.input? = none := by
    cases a with
    | key | mouse => exact nomatch isResult
    | _ => rfl
  rw [Views.after_notice v ρ noInput,
    Router.notice?_of_stale readmeView_dated isResult stale,
    Router.notice?_of_stale historyView_dated isResult stale,
    Router.notice?_of_stale explorerView_dated isResult stale]
  rfl

/-- What an input makes of the views. -/
theorem Views.after_input (v : Views) (ρ : Router) (i : Input) : v.after ρ i.action =
    { readme := readmeView.run v.readme ((ρ.input? .readme i.action).map .input).toList
      history := historyView.run v.history ((ρ.input? .commits i.action).map .input).toList
      explorer := explorerView.run v.explorer ((ρ.input? .files i.action).map .input).toList } := by
  cases i <;> rfl

namespace Browser

variable {b c : Browser} {a : Action} {rs : List Request} {g : Nat} {i : Input} {t : Tab}

theorem router_target? (b : Browser) (i : Input) :
    b.router.target? i.action = b.tabs.target? i := by
  cases i <;> rfl

theorem router_changeTab (b : Browser) (t : Tab) :
    (b.changeTab t).router = b.router.changeTab t := by
  unfold changeTab Router.changeTab
  split
  · rename_i ready
    rw [if_pos (show b.router.stage = .ready from ready)]
    rfl
  · rename_i other
    rw [if_neg (show ¬ b.router.stage = .ready from other)]
    rfl

theorem views_changeTab (b : Browser) (t : Tab) : (b.changeTab t).views = b.views := by
  unfold changeTab
  split <;> rfl

theorem router_viewInput (b : Browser) (i : Input) : (b.viewInput i).1.router = b.router := by
  unfold viewInput
  split <;> rfl

theorem router_input (b : Browser) (i : Input) :
    (b.input i).browser.router = b.router.step i.action := by
  cases target : b.tabs.target? i with
  | some t =>
    rw [input_of_target target, router_changeTab,
      Router.step_of_target ((b.router_target? i).trans target)]
  | none =>
    rw [Router.step_of_input ((b.router_target? i).trans target)]
    rcases Option.eq_none_or_eq_some b.repository with unselected | ⟨r, selected⟩
    · rw [input_of_unselected target unselected]
    · rw [input_of_view target selected, router_viewInput]

/-- **An input is given to the view of the active tab and to no other**, if to any. -/
theorem views_input (b : Browser) (i : Input) :
    (b.input i).browser.views = b.views.after b.router i.action := by
  rw [Views.after_input]
  cases target : b.tabs.target? i with
  | some t =>
    have target' : b.router.target? i.action = some t := (b.router_target? i).trans target
    rw [input_of_target target, views_changeTab, Router.input?_of_target target',
      Router.input?_of_target target', Router.input?_of_target target']
    rfl
  | none =>
    have target' : b.router.target? i.action = none := (b.router_target? i).trans target
    rcases Option.eq_none_or_eq_some b.repository with unselected | ⟨r, selected⟩
    · have unselected' : b.router.repository = none := unselected
      rw [input_of_unselected target unselected, Router.input?_of_unselected unselected',
        Router.input?_of_unselected unselected', Router.input?_of_unselected unselected']
      rfl
    · have selected' : b.router.repository = some r := selected
      have shown : ∀ tab, b.activeTab = tab → b.router.input? tab i.action = some i := by
        intro tab h
        rw [Router.input?_of_shown selected' h target']
        cases i <;> rfl
      have hidden : ∀ tab other, b.activeTab = other → other ≠ tab →
          b.router.input? tab i.action = none := by
        rintro tab other rfl h
        exact Router.input?_of_other h
      rw [input_of_view target selected]
      cases active : b.activeTab with
      | readme =>
        rw [shown .readme active, hidden .commits _ active (by decide),
          hidden .files _ active (by decide)]
        simp only [viewInput, active]
        rfl
      | commits =>
        rw [hidden .readme _ active (by decide), shown .commits active,
          hidden .files _ active (by decide)]
        simp only [viewInput, active]
        rfl
      | files =>
        rw [hidden .readme _ active (by decide), hidden .commits _ active (by decide),
          shown .files active]
        simp only [viewInput, active]
        rfl
      | branches | tags =>
        rw [hidden .readme _ active (by decide), hidden .commits _ active (by decide),
          hidden .files _ active (by decide)]
        simp only [viewInput, active]
        rfl

/-! ### One action -/

/-- A reference is either what commits and files begin with, or does nothing. -/
theorem referenceResolved_cases (b : Browser) (g : Nat) (n : Reference) :
    (b.router.source? (.referenceResolved g n) = none ∧
      b.act (.referenceResolved g n) = ⟨b, [], false⟩) ∨
    ∃ r, b.router.source? (.referenceResolved g n) = some ⟨⟨b.generation, r⟩, n⟩ ∧
      b.act (.referenceResolved g n) = ⟨(b.resolve r n).1, (b.resolve r n).2, true⟩ := by
  have source : b.router.source? (.referenceResolved g n) = b.repository.bind fun r =>
      if g = b.generation && b.stage = .resolving then some ⟨⟨b.generation, r⟩, n⟩ else none :=
    b.router.source?_referenceResolved g n
  rcases Option.eq_none_or_eq_some b.repository with unselected | ⟨r, selected⟩
  · left
    rw [source, unselected]
    exact ⟨rfl, act_referenceResolved_of_unselected unselected g n⟩
  · rw [source, selected, act_referenceResolved selected, Option.bind_some]
    by_cases wanted : g = b.generation ∧ b.stage = .resolving
    · exact .inr ⟨r, by simp [wanted], if_pos wanted⟩
    · exact .inl ⟨by simpa using fun h => not_and.mp wanted h, if_neg wanted⟩

/-- **An action does to where things go what it does without the views.** -/
theorem router_act (b : Browser) (a : Action) : (b.act a).browser.router = b.router.step a := by
  rcases b.stale_or_fresh a with ⟨g, result, stale⟩ | fresh
  · rw [act_of_stale result stale, Router.step_of_stale (ρ := b.router) result stale]
  cases a with
  | referenceResolved g n =>
    rw [Router.step_of_result (g := g) rfl]
    rcases b.referenceResolved_cases g n with ⟨source, hact⟩ | ⟨r, source, hact⟩
    · rw [source, hact]
      rfl
    · rw [source, hact]
      rfl
  | referenceFailed g reason => rw [act_referenceFailed (fresh g rfl)]; rfl
  | readmeLoaded g readme => rw [act_readmeLoaded (fresh g rfl)]; rfl
  | readmeFailed g reason => rw [act_readmeFailed (fresh g rfl)]; rfl
  | log g m => rw [act_log (fresh g rfl)]; rfl
  | files g m => rw [act_files (fresh g rfl)]; rfl
  | tabChanged t => exact b.router_changeTab t
  | key k => exact ({ b with error := none } : Browser).router_input (.key k)
  | mouse m => exact b.router_input (.mouse m)
  | _ => rfl

/-- **An action makes of the views what they make of what it gives to them.** -/
theorem views_act (b : Browser) (a : Action) :
    (b.act a).browser.views = b.views.after b.router a := by
  rcases b.stale_or_fresh a with ⟨g, result, stale⟩ | fresh
  · rw [act_of_stale result stale, Views.after_of_stale b.views (ρ := b.router) result stale]
  cases a with
  | referenceResolved g n =>
    rw [Views.after_notice _ _ rfl, Router.notice?_of_foreign (v := readmeView) (g := g) rfl rfl,
      Router.notice?_of_foreign (v := historyView) (g := g) rfl rfl,
      Router.notice?_of_foreign (v := explorerView) (g := g) rfl rfl]
    rcases b.referenceResolved_cases g n with ⟨source, hact⟩ | ⟨r, source, hact⟩
    · rw [source, hact]
      rfl
    · rw [source, hact]
      rfl
  | referenceFailed g reason =>
    rw [Views.after_notice _ _ rfl, act_referenceFailed (fresh g rfl)]
    rfl
  | readmeLoaded g readme =>
    rw [Views.after_notice _ _ rfl, act_readmeLoaded (fresh g rfl),
      Router.notice?_of_fresh (ρ := b.router) (v := readmeView) rfl rfl (fresh g rfl)]
    rfl
  | readmeFailed g reason =>
    rw [Views.after_notice _ _ rfl, act_readmeFailed (fresh g rfl),
      Router.notice?_of_fresh (ρ := b.router) (v := readmeView) rfl rfl (fresh g rfl)]
    rfl
  | log g m =>
    rw [Views.after_notice _ _ rfl, act_log (fresh g rfl),
      Router.notice?_of_fresh (ρ := b.router) (v := historyView) rfl rfl (fresh g rfl)]
    rfl
  | files g m =>
    rw [Views.after_notice _ _ rfl, act_files (fresh g rfl),
      Router.notice?_of_fresh (ρ := b.router) (v := explorerView) rfl rfl (fresh g rfl)]
    rfl
  | tabChanged t =>
    rw [Views.after_notice _ _ rfl]
    exact b.views_changeTab t
  | key k => exact ({ b with error := none } : Browser).views_input (.key k)
  | mouse m => exact b.views_input (.mouse m)
  | selectHeadline | selectRepository | resized | statusWanted | failed =>
    rw [Views.after_notice _ _ rfl]
    rfl

/-- **A change of the tab asks for nothing and leaves the views**, be it refused or not. -/
theorem act_of_target (target : b.router.target? a = some t) :
    (b.act a).requests = [] ∧ (b.act a).browser.views = b.views := by
  cases a with
  | tabChanged t' => exact ⟨rfl, b.views_changeTab t'⟩
  | key k =>
    have target : ({ b with error := none } : Browser).tabs.target? (.key k) = some t := target
    have hact : b.act (.key k) = ({ b with error := none } : Browser).input (.key k) := rfl
    rw [hact, input_of_target target]
    exact ⟨rfl, views_changeTab { b with error := none } t⟩
  | mouse m =>
    have target : b.tabs.target? (.mouse m) = some t := target
    have hact : b.act (.mouse m) = b.input (.mouse m) := rfl
    rw [hact, input_of_target target]
    exact ⟨rfl, b.views_changeTab t⟩
  | _ => exact nomatch target

/-- An update does to the router and the views what the action does. -/
theorem router_update (update : b.update a = .ok (c, rs)) :
    c.router = b.router.step a ∧ c.views = b.views.after b.router a := by
  obtain ⟨-, l, rfl⟩ := act_of_update update
  exact ⟨b.router_act a, b.views_act a⟩

end Browser

/-! ### Runs -/

section Runs

variable {State Message : Type}

theorem View.run_append (v : View State Message) (s : State) (ds es : List (Delivery Message)) :
    v.run s (ds ++ es) = v.run (v.run s ds) es := List.foldl_append

/-- **As long as another tab is shown, a view is given no input.** -/
theorem Router.deliveries_eq_notices (v : View State Message) {actions : List Action} :
    ∀ {ρ : Router}, ρ.Away v.tab actions → ρ.deliveries v actions = ρ.notices v actions := by
  induction actions with
  | nil => exact fun _ => rfl
  | cons a rest ih =>
    intro ρ away
    obtain ⟨here, later⟩ := away
    have unshown : ρ.input? v.tab a = none := by
      rcases here with other | target
      · exact input?_of_other other
      · obtain ⟨t, ht⟩ := Option.isSome_iff_exists.mp target
        exact input?_of_target ht
    have head : ρ.deliver? v a = ρ.notice? v a := by
      unfold deliver?
      rw [unshown, Option.map_none, Option.or_none]
    rw [deliveries, notices, head, ih later]

/-- What a sequence of actions makes of the views, each of them alone. -/
def Views.afterAll (v : Views) (ρ : Router) (actions : List Action) : Views where
  readme := readmeView.run v.readme (ρ.deliveries readmeView actions)
  history := historyView.run v.history (ρ.deliveries historyView actions)
  explorer := explorerView.run v.explorer (ρ.deliveries explorerView actions)

theorem Views.afterAll_cons (v : Views) (ρ : Router) (a : Action) (rest : List Action) :
    v.afterAll ρ (a :: rest) = (v.after ρ a).afterAll (ρ.step a) rest := by
  simp only [afterAll, after, Router.deliveries, View.run_append]

end Runs

namespace Browser

variable {b c : Browser} {actions : List Action}

/-- **A run of a browser is a run of its router, and of each view alone.** -/
theorem run_eq : ∀ {b : Browser}, b.run actions = .ok c →
    c.router = b.router.run actions ∧ c.views = b.views.afterAll b.router actions := by
  induction actions with
  | nil =>
    intro b hrun
    obtain rfl : b = c := Except.ok.inj hrun
    exact ⟨rfl, rfl⟩
  | cons a rest ih =>
    intro b hrun
    obtain ⟨b', rs, update, hrest⟩ := exists_update_of_run hrun
    obtain ⟨hrouter, hviews⟩ := router_update update
    obtain ⟨hrouter', hviews'⟩ := ih hrest
    rw [hrouter', hviews', hrouter, hviews, Views.afterAll_cons]
    exact ⟨rfl, rfl⟩

/-- In a run during which another tab is shown, a view gets what it gets behind the scenes. -/
theorem run_away (h : b.run actions = .ok c) :
    (b.router.Away .readme actions →
      c.readme = readmeView.run b.readme (b.router.notices readmeView actions)) ∧
    (b.router.Away .commits actions →
      c.history = historyView.run b.history (b.router.notices historyView actions)) ∧
    (b.router.Away .files actions →
      c.explorer = explorerView.run b.explorer (b.router.notices explorerView actions)) := by
  obtain ⟨-, hviews⟩ := run_eq h
  refine ⟨fun away => ?_, fun away => ?_, fun away => ?_⟩
  · rw [← Router.deliveries_eq_notices readmeView away]
    exact congrArg Views.readme hviews
  · rw [← Router.deliveries_eq_notices historyView away]
    exact congrArg Views.history hviews
  · rw [← Router.deliveries_eq_notices explorerView away]
    exact congrArg Views.explorer hviews

/-- **The views are independent of each other and of the tabs.**  After every run from the beginning
each view is what it becomes alone, given the resets and starts that selections and references
bring, the results for it that belong to the current selection, the sizes, and the inputs that
arrive while a repository is selected, its tab is shown and the strip of tabs does not take them.
What decides on this runs without the views.

So a view that is left gets no input until its tab is shown again, and is then what the results and
the sizes that it was given meanwhile have made of it.  A change of the tab asks for nothing and
leaves all views. -/
theorem views_run_alone (layout : Layout) (actions : List Action) (b : Browser)
    (h : (ofLayout layout).run actions = .ok b) :
    b.readme = readmeView.run { placeholder := "No readme found." }
      ((ofLayout layout).router.deliveries readmeView actions) ∧
    b.history = historyView.run {} ((ofLayout layout).router.deliveries historyView actions) ∧
    b.explorer = explorerView.run {} ((ofLayout layout).router.deliveries explorerView actions) ∧
    b.router = (ofLayout layout).router.run actions ∧
    (∀ more c, b.run more = .ok c →
      (b.router.Away .readme more →
        c.readme = readmeView.run b.readme (b.router.notices readmeView more)) ∧
      (b.router.Away .commits more →
        c.history = historyView.run b.history (b.router.notices historyView more)) ∧
      (b.router.Away .files more →
        c.explorer = explorerView.run b.explorer (b.router.notices explorerView more))) ∧
    ∀ a t c rs, b.router.target? a = some t → b.update a = .ok (c, rs) →
      rs = [] ∧ c.readme = b.readme ∧ c.history = b.history ∧ c.explorer = b.explorer := by
  obtain ⟨hrouter, hviews⟩ := run_eq h
  refine ⟨congrArg Views.readme hviews, congrArg Views.history hviews,
    congrArg Views.explorer hviews, hrouter, fun more c hmore => run_away hmore, ?_⟩
  intro a t c rs target update
  obtain ⟨hrs, l, hc⟩ := act_of_update update
  obtain ⟨none, same⟩ := act_of_target target
  have same : c.views = b.views := by
    rw [hc]
    exact same
  exact ⟨hrs.symm.trans none, congrArg Views.readme same, congrArg Views.history same,
    congrArg Views.explorer same⟩

/-- Two commits are shown and the second one is selected. -/
def sampleBefore : List Action :=
  [.selectRepository Source.sample.ticket.repository,
    .referenceResolved 1 Source.sample.reference, .tabChanged .commits,
    .log 1 (.pageLoaded 1 ⟨[⟨"4f2c9a1", "begin", "someone", ⟨0, 0⟩⟩,
      ⟨"a0d5c81", "go on", "someone", ⟨0, 0⟩⟩], none⟩), .key ⟨.down, {}⟩]

/-- The tab is left by a key and shown again; in between the readme arrives and is scrolled. -/
def sampleMeanwhile : List Action :=
  [.key ⟨.tab, {}⟩, .tabChanged .readme, .readmeLoaded 1 ⟨"# demo", "README.md"⟩,
    .key ⟨.down, {}⟩, .tabChanged .commits]

/-- The history is as it was when it was left. -/
theorem views_run_alone_sample :
    ∃ b c, (ofLayout {}).run sampleBefore = .ok b ∧ b.history.selected = 1 ∧
      b.run sampleMeanwhile = .ok c ∧ c.readme.offset = 1 ∧ c.history = b.history := by
  obtain ⟨b, c, hb, selected, hc, offset⟩ : ∃ b c, (ofLayout {}).run sampleBefore = .ok b ∧
      b.history.selected = 1 ∧ b.run sampleMeanwhile = .ok c ∧ c.readme.offset = 1 := by
    refine ⟨_, _, rfl, rfl, rfl, ?_⟩
    decide +kernel
  obtain ⟨-, -, -, hrouter, later, -⟩ := views_run_alone {} sampleBefore b hb
  obtain ⟨-, kept, -⟩ := later sampleMeanwhile c hc
  rw [hrouter] at kept
  refine ⟨b, c, hb, selected, hc, offset, kept ?_⟩
  exact ⟨.inr rfl, .inl (by decide), .inl (by decide), .inl (by decide), .inr rfl, trivial⟩

end Browser

end RepoBrowser
