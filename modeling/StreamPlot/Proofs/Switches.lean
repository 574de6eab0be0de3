import StreamPlot.Viewer

/-!
# Keys and samples keep apart

A viewer has two halves. What it shows comes from its source and from the samples that are
handed to it; its switches are turned by keys. Every step leaves one half alone and reads
nothing of it, so each half is determined by its own steps, in their order, and steps of
different halves may change places. The switches count: each is what the actions that turn it
have made of the settings.
-/

namespace StreamPlot

/-! ## Switches -/

theorem PlotStyle.toggled_toggled (style : PlotStyle) : style.toggled.toggled = style := by
  cases style <;> rfl

/-- What keys turn, and what they read. -/
structure Switches where
  settings : Settings
  style : PlotStyle
  showRecent : Bool
  showHelp : Bool
  shouldQuit : Bool
  deriving DecidableEq

namespace Switches

def act (switches : Switches) : Action → Switches
  | .quit => { switches with shouldQuit := true }
  | .help => { switches with showHelp := !switches.showHelp }
  | .toggleStyle => { switches with style := switches.style.toggled }
  | .none => switches

def actAll (switches : Switches) (actions : List Action) : Switches :=
  actions.foldl act switches

variable (switches : Switches)

theorem actAll_cons (action : Action) (actions : List Action) :
    switches.actAll (action :: actions) = (switches.act action).actAll actions := rfl

theorem settings_act (action : Action) : (switches.act action).settings = switches.settings := by
  cases action <;> rfl

theorem settings_actAll (actions : List Action) :
    (switches.actAll actions).settings = switches.settings := by
  induction actions generalizing switches with
  | nil => rfl
  | cons action actions ih => rw [actAll_cons, ih, settings_act]

theorem showRecent_actAll (actions : List Action) :
    (switches.actAll actions).showRecent = switches.showRecent := by
  induction actions generalizing switches with
  | nil => rfl
  | cons action actions ih =>
      rw [actAll_cons, ih]
      cases action <;> rfl

/-- Once somebody has asked to quit, nothing takes it back. -/
theorem shouldQuit_actAll (actions : List Action) :
    (switches.actAll actions).shouldQuit = true ↔
      switches.shouldQuit = true ∨ .quit ∈ actions := by
  induction actions generalizing switches with
  | nil => simp [actAll]
  | cons action actions ih =>
      rw [actAll_cons, ih]
      cases action <;> simp [act]

theorem showHelp_actAll (actions : List Action) :
    (switches.actAll actions).showHelp =
      (switches.showHelp ^^ decide (actions.count .help % 2 = 1)) := by
  induction actions generalizing switches with
  | nil => simp [actAll]
  | cons action actions ih =>
      rw [actAll_cons, ih]
      cases action with
      | help =>
          rw [List.count_cons_self]
          rcases Nat.mod_two_eq_zero_or_one (actions.count .help) with heven | hodd
          · have hnext : (actions.count .help + 1) % 2 = 1 := by omega
            simp [act, heven, hnext]
          · have hnext : (actions.count .help + 1) % 2 = 0 := by omega
            simp [act, hodd, hnext]
      | quit => simp [act]
      | toggleStyle => simp [act]
      | none => simp [act]

/-- The same switches with the settings that let one more key quit. -/
def byQ (switches : Switches) (pressed : Bool) : Switches :=
  { switches with
    settings := { switches.settings with vimKeys := true }
    shouldQuit := switches.shouldQuit || pressed }

theorem act_byQ (pressed : Bool) (action : Action) :
    (switches.byQ pressed).act action = (switches.act action).byQ pressed := by
  cases action <;> simp [act, byQ]

/-- An even number of changes leaves the style as it was, an odd number leads to the other. -/
theorem style_actAll (actions : List Action) :
    (switches.actAll actions).style =
      if actions.count .toggleStyle % 2 = 0 then switches.style else switches.style.toggled := by
  induction actions generalizing switches with
  | nil => rfl
  | cons action actions ih =>
      rw [actAll_cons, ih]
      cases action with
      | toggleStyle =>
          rw [List.count_cons_self]
          rcases Nat.mod_two_eq_zero_or_one (actions.count .toggleStyle) with heven | hodd
          · rw [if_pos heven, if_neg (by omega)]
            rfl
          · rw [if_neg (by omega), if_pos (by omega)]
            exact PlotStyle.toggled_toggled _
      | quit => simp [act]
      | help => simp [act]
      | none => simp [act]

end Switches

namespace Viewer

def switches (viewer : Viewer) : Switches where
  settings := viewer.settings
  style := viewer.style
  showRecent := viewer.showRecent
  showHelp := viewer.showHelp
  shouldQuit := viewer.shouldQuit

variable (viewer : Viewer) (action : Action)

theorem switches_act : (viewer.act action).switches = viewer.switches.act action := by
  cases action <;> rfl

theorem plot_act : (viewer.act action).plot = viewer.plot := by
  cases action <;> rfl

theorem stream_act : (viewer.act action).stream = viewer.stream := by
  cases action <;> rfl

end Viewer

/-! ## Keys -/

/-- One key is the whole difference that the settings can make. -/
theorem KeyPress.action_true {key : KeyPress} (h : key ≠ { key := .char 'Q' }) :
    key.action true = key.action false := by
  unfold KeyPress.action
  split
  next => rfl
  next hcontrol =>
    split
    next hkey => rfl
    next hkey => rfl
    next hkey =>
      obtain ⟨key, control⟩ := key
      simp_all
    all_goals rfl

/-! ## Steps of either half -/

/-- A viewer and the source that it looks at. -/
structure Viewing where
  viewer : Viewer
  source : Source

/-- What can happen to a viewer, or at the other end of its channel. -/
inductive ViewingStep where
  | press (press : KeyPress)
  | act (action : Action)
  | ingest (sample : Sample)
  | pump
  | send (event : SourceEvent)
  | hangUp
  deriving DecidableEq

namespace ViewingStep

/-- What a step asks for, if it is a key or an action. -/
def action? (vimKeys : Bool) : ViewingStep → Option Action
  | press key => some (key.action vimKeys)
  | act action => some action
  | ingest _ => none
  | pump => none
  | send _ => none
  | hangUp => none

/-- Whether a step is a key or an action. -/
def isControl : ViewingStep → Bool
  | press _ => true
  | act _ => true
  | ingest _ => false
  | pump => false
  | send _ => false
  | hangUp => false

/-- Whether a step is about samples. -/
def isData (step : ViewingStep) : Bool := !step.isControl

/-- The press of a key that only some settings take for the wish to quit. -/
def pressQ : ViewingStep := press { key := .char 'Q' }

theorem action?_eq_none {step : ViewingStep} (h : step.isControl = false) (vimKeys : Bool) :
    step.action? vimKeys = none := by
  cases step with
  | press key => cases h
  | act action => cases h
  | ingest sample => rfl
  | pump => rfl
  | send event => rfl
  | hangUp => rfl

theorem action?_true {step : ViewingStep} (h : step ≠ pressQ) :
    step.action? true = step.action? false := by
  cases step with
  | press key => exact congrArg some (KeyPress.action_true fun hkey => h (congrArg press hkey))
  | act action => rfl
  | ingest sample => rfl
  | pump => rfl
  | send event => rfl
  | hangUp => rfl

end ViewingStep

namespace Viewing

/-- A viewer at the start of a session. -/
def start (settings : Settings) (recent : Bool) (source : Source) : Viewing where
  viewer := (Viewer.new settings).withRecent recent
  source := source

def step (viewing : Viewing) : ViewingStep → Viewing
  | .press key => { viewing with viewer := viewing.viewer.press key }
  | .act action => { viewing with viewer := viewing.viewer.act action }
  | .ingest sample => { viewing with viewer := viewing.viewer.ingest sample }
  | .pump =>
      let (viewer, source, _) := viewing.viewer.pump viewing.source
      { viewer, source }
  | .send event => { viewing with source := viewing.source.send [event] }
  | .hangUp => { viewing with source := viewing.source.hangUp }

def run (viewing : Viewing) (steps : List ViewingStep) : Viewing :=
  steps.foldl step viewing

theorem run_cons (viewing : Viewing) (step : ViewingStep) (steps : List ViewingStep) :
    viewing.run (step :: steps) = (viewing.step step).run steps := rfl

/-- The half that comes from samples. -/
def shown (viewing : Viewing) : Plot × StreamStatus × Source :=
  (viewing.viewer.plot, viewing.viewer.stream, viewing.source)

/-- The half that comes from keys. -/
def switches (viewing : Viewing) : Switches := viewing.viewer.switches

theorem ext_halves {first second : Viewing} (hshown : first.shown = second.shown)
    (hswitches : first.switches = second.switches) : first = second := by
  obtain ⟨⟨_, _, _, _, _, _, _⟩, _⟩ := first
  obtain ⟨⟨_, _, _, _, _, _, _⟩, _⟩ := second
  simp only [shown, switches, Viewer.switches, Prod.mk.injEq, Switches.mk.injEq] at hshown hswitches
  simp only [hshown, hswitches]

/-! ### One step -/

theorem shown_act (viewing : Viewing) (action : Action) :
    { viewing with viewer := viewing.viewer.act action }.shown = viewing.shown := by
  simp only [shown, Viewer.plot_act, Viewer.stream_act]

theorem shown_step_of_isControl (viewing : Viewing) {step : ViewingStep}
    (h : step.isControl = true) : (viewing.step step).shown = viewing.shown := by
  cases step with
  | press key => exact viewing.shown_act _
  | act action => exact viewing.shown_act action
  | ingest sample => cases h
  | pump => cases h
  | send event => cases h
  | hangUp => cases h

/-- What a step makes of the samples depends on no switch. -/
theorem shown_step_congr {first second : Viewing} (h : first.shown = second.shown)
    (step : ViewingStep) : (first.step step).shown = (second.step step).shown := by
  cases hcontrol : step.isControl with
  | true => rw [shown_step_of_isControl _ hcontrol, shown_step_of_isControl _ hcontrol, h]
  | false =>
      simp only [shown, Prod.mk.injEq] at h
      obtain ⟨hplot, hstream, hsource⟩ := h
      cases step with
      | press key => cases hcontrol
      | act action => cases hcontrol
      | ingest sample => simp only [shown, Viewing.step, Viewer.ingest, hplot, hstream, hsource]
      | pump => simp only [shown, Viewing.step, Viewer.pump, hplot, hsource]
      | send event => simp only [shown, Viewing.step, hplot, hstream, hsource]
      | hangUp => simp only [shown, Viewing.step, hplot, hstream, hsource]

/-- A step turns the switches by what it asks for, whatever is shown. -/
theorem switches_step (viewing : Viewing) (step : ViewingStep) :
    (viewing.step step).switches =
      viewing.switches.actAll (step.action? viewing.switches.settings.vimKeys).toList := by
  cases step with
  | press key => exact viewing.viewer.switches_act _
  | act action => exact viewing.viewer.switches_act action
  | ingest sample => rfl
  | pump => rfl
  | send event => rfl
  | hangUp => rfl

/-! ### Runs -/

theorem shown_run {first second : Viewing} (h : first.shown = second.shown)
    (steps : List ViewingStep) :
    (first.run steps).shown = (second.run (steps.filter ViewingStep.isData)).shown := by
  induction steps generalizing first second with
  | nil => exact h
  | cons step steps ih =>
      cases hcontrol : step.isControl with
      | true =>
          rw [List.filter_cons_of_neg (by simp [ViewingStep.isData, hcontrol])]
          exact ih ((shown_step_of_isControl first hcontrol).trans h)
      | false =>
          rw [List.filter_cons_of_pos (by simp [ViewingStep.isData, hcontrol])]
          exact ih (shown_step_congr h step)

/-- A run turns the switches by what its steps ask for, one after the other. -/
theorem switches_run (viewing : Viewing) (steps : List ViewingStep) :
    (viewing.run steps).switches = viewing.switches.actAll
      (steps.filterMap (ViewingStep.action? viewing.switches.settings.vimKeys)) := by
  induction steps generalizing viewing with
  | nil => rfl
  | cons step steps ih =>
      rw [run_cons, ih, switches_step, Switches.settings_actAll]
      cases haction : step.action? viewing.switches.settings.vimKeys with
      | none => rw [List.filterMap_cons_none haction]; rfl
      | some action => rw [List.filterMap_cons_some haction]; rfl

theorem filterMap_filter_isControl (vimKeys : Bool) (steps : List ViewingStep) :
    (steps.filter ViewingStep.isControl).filterMap (ViewingStep.action? vimKeys) =
      steps.filterMap (ViewingStep.action? vimKeys) := by
  rw [List.filterMap_filter]
  congr 1
  funext step
  cases hcontrol : step.isControl with
  | true => rfl
  | false => exact (ViewingStep.action?_eq_none hcontrol vimKeys).symm

theorem run_eq_of_filter_eq (viewing : Viewing) {steps others : List ViewingStep}
    (hdata : others.filter ViewingStep.isData = steps.filter ViewingStep.isData)
    (hcontrol : others.filter ViewingStep.isControl = steps.filter ViewingStep.isControl) :
    viewing.run others = viewing.run steps := by
  apply ext_halves
  · rw [shown_run rfl others, shown_run rfl steps, hdata]
  · rw [switches_run, switches_run, ← filterMap_filter_isControl _ others,
      ← filterMap_filter_isControl _ steps, hcontrol]

/-! ### The key of some settings -/

/-- The same viewer with the settings that let one more key quit. -/
def byQ (viewing : Viewing) (pressed : Bool) : Viewing where
  viewer :=
    { viewing.viewer with
      settings := { viewing.viewer.settings with vimKeys := true }
      shouldQuit := viewing.viewer.shouldQuit || pressed }
  source := viewing.source

variable {viewing : Viewing}

theorem step_byQ (h : viewing.switches.settings.vimKeys = false) (pressed : Bool)
    (step : ViewingStep) :
    (viewing.byQ pressed).step step =
      (viewing.step step).byQ (pressed || decide (step = .pressQ)) := by
  apply ext_halves
  · have hshown : (viewing.byQ pressed).shown = viewing.shown := rfl
    exact shown_step_congr hshown step
  · change _ = (viewing.step step).switches.byQ _
    rw [switches_step, switches_step, h]
    change (viewing.switches.byQ pressed).actAll (step.action? true).toList = _
    by_cases hstep : step = .pressQ
    · subst hstep
      simp [ViewingStep.pressQ, ViewingStep.action?, KeyPress.action, Switches.actAll,
        Switches.act, Switches.byQ]
    · rw [ViewingStep.action?_true hstep, decide_eq_false hstep, Bool.or_false]
      cases step.action? false with
      | none => rfl
      | some action => exact viewing.switches.act_byQ pressed action

theorem run_byQ (h : viewing.switches.settings.vimKeys = false) (pressed : Bool)
    (steps : List ViewingStep) :
    (viewing.byQ pressed).run steps =
      (viewing.run steps).byQ (pressed || decide (.pressQ ∈ steps)) := by
  induction steps generalizing viewing pressed with
  | nil => simp [run]
  | cons step steps ih =>
      have hstep : (viewing.step step).switches.settings.vimKeys = false := by
        rw [switches_step, Switches.settings_actAll, h]
      rw [run_cons, step_byQ h, ih hstep, run_cons, Bool.or_assoc, ← Bool.decide_or]
      simp only [List.mem_cons, eq_comm]

/-- Whatever happens to a viewer and to its source, in any order: what it shows is what has
come of the samples alone, and its switches are what has come of the keys alone, so steps of
the two kinds may change places. The help is shown behind an odd number of wishes for it; the
style is that of the settings behind an even number of wishes for the other one, and the other
one behind an odd number; a wish to quit is kept, and nothing else changes. Settings that let
one more key quit change what presses of that key lead to, and nothing besides. -/
theorem keys_and_samples_keep_apart (settings : Settings) (recent : Bool) (source : Source)
    (steps : List ViewingStep) :
    let last := (start settings recent source).run steps
    let actions := steps.filterMap (ViewingStep.action? settings.vimKeys)
    (∀ (other : Settings) (wanted : Bool),
        last.shown = ((start other wanted source).run (steps.filter ViewingStep.isData)).shown) ∧
      (∀ other : Source,
        last.switches =
          ((start settings recent other).run (steps.filter ViewingStep.isControl)).switches) ∧
      (∀ others : List ViewingStep,
        others.filter ViewingStep.isData = steps.filter ViewingStep.isData →
        others.filter ViewingStep.isControl = steps.filter ViewingStep.isControl →
          (start settings recent source).run others = last) ∧
      (last.viewer.showHelp = true ↔ actions.count .help % 2 = 1) ∧
      last.viewer.style =
        (if actions.count .toggleStyle % 2 = 0 then settings.display.style
        else match settings.display.style with
          | .line => .scatter
          | .scatter => .line) ∧
      (last.viewer.shouldQuit = true ↔ .quit ∈ actions) ∧
      last.viewer.settings = settings ∧
      last.viewer.showRecent = (recent && decide (settings.display.recentRecords ≠ 0)) ∧
      (last.viewer.showRecent = true → 0 < settings.display.recentRecords) ∧
      (start { settings with vimKeys := true } recent source).run steps =
        ((start { settings with vimKeys := false } recent source).run steps).byQ
          (decide (.pressQ ∈ steps)) := by
  intro last actions
  have hswitches : last.switches = (start settings recent source).switches.actAll actions :=
    switches_run _ steps
  have hrecent : last.viewer.showRecent =
      (recent && decide (settings.display.recentRecords ≠ 0)) :=
    (congrArg Switches.showRecent hswitches).trans (Switches.showRecent_actAll _ actions)
  refine ⟨?_, ?_, ?_, ?_, ?_, ?_, ?_, hrecent, ?_, ?_⟩
  · intro other wanted
    have hstart : (start settings recent source).shown = (start other wanted source).shown := rfl
    exact shown_run hstart steps
  · intro other
    rw [hswitches, switches_run, filterMap_filter_isControl]
    rfl
  · intro others hdata hcontrol
    exact run_eq_of_filter_eq _ hdata hcontrol
  · have hhelp := (congrArg Switches.showHelp hswitches).trans
      (Switches.showHelp_actAll _ actions)
    change last.viewer.showHelp = (false ^^ _) at hhelp
    rw [hhelp, Bool.false_xor, decide_eq_true_iff]
  · exact (congrArg Switches.style hswitches).trans (Switches.style_actAll _ actions)
  · have hquit := Switches.shouldQuit_actAll (start settings recent source).switches actions
    rw [← hswitches] at hquit
    exact hquit.trans (or_iff_right nofun)
  · exact (congrArg Switches.settings hswitches).trans (Switches.settings_actAll _ actions)
  · intro hshown
    rw [hrecent, Bool.and_eq_true, decide_eq_true_iff] at hshown
    exact UInt64.pos_iff_ne_zero.mpr hshown.2
  · let off : Settings := { settings with vimKeys := false }
    have hoff : (start off recent source).switches.settings.vimKeys = false := rfl
    exact run_byQ hoff false steps

/-- Three changes of style, two of them by keys, lead from lines to points, whatever comes
between them, and all that comes between them may as well come first. -/
theorem style_of_three_changes :
    let steps : List ViewingStep :=
      [.press { key := .char 'm' }, .ingest ⟨1, 2⟩, .press { key := .char 's' },
        .send (.sample ⟨3, 4⟩), .press { key := .char '?' }, .pump, .act .toggleStyle]
    let others : List ViewingStep :=
      [.ingest ⟨1, 2⟩, .send (.sample ⟨3, 4⟩), .pump, .press { key := .char 'm' },
        .press { key := .char 's' }, .press { key := .char '?' }, .act .toggleStyle]
    let last := (start .default true {}).run steps
    Settings.default.display.style = .line ∧ last.viewer.style = .scatter ∧
      last.viewer.showHelp = true ∧ last.viewer.shouldQuit = false ∧
      last.viewer.plot.size = 2 ∧ (start .default true {}).run others = last := by
  intro steps others last
  obtain ⟨-, -, horder, hhelp, hstyle, hquit, -⟩ :=
    keys_and_samples_keep_apart .default true {} steps
  refine ⟨rfl, hstyle.trans (by decide), hhelp.mpr (by decide), ?_, by decide,
    horder others rfl rfl⟩
  rw [Bool.eq_false_iff]
  exact mt hquit.mp (by decide)

end Viewing

end StreamPlot
