import StreamPlot.Program.Plotting
import StreamPlot.Proofs.CommandLine

/-!
# Settings that are in use

Settings are looked at twice: when they are taken from a file, and again when the command
line has overruled them. The second look never fails, since a tick that the command line
accepts is not zero and it has no say in the color. What a file gives and cannot be used is
refused at the first look, and no wish of the command line makes up for it.
-/

namespace StreamPlot

/-! ## What can be used -/

namespace Settings

/-- The tick is not zero, and the color is one. -/
def Usable (settings : Settings) : Prop :=
  settings.display.tickMs ≠ 0 ∧ (Color.parse? settings.display.color).isSome = true

variable {settings : Settings}

theorem invalid?_eq_none_iff : settings.invalid? = none ↔ settings.Usable := by
  unfold invalid? Usable
  split
  next hzero => simp [hzero]
  next hpositive =>
    split
    next hcolor => simp [Option.isNone_iff_eq_none.mp hcolor]
    next hcolor =>
      rw [Option.isNone_iff_eq_none, ← ne_eq, ← Option.isSome_iff_ne_none] at hcolor
      simp [hpositive, hcolor]

theorem validated_of_usable (h : settings.Usable) : settings.validated = .ok settings := by
  rw [validated, invalid?_eq_none_iff.mpr h]

theorem of_validated {used : Settings} (h : settings.validated = .ok used) :
    used = settings ∧ settings.Usable := by
  unfold validated at h
  split at h
  next => cases h
  next hvalid =>
    cases h
    exact ⟨rfl, invalid?_eq_none_iff.mp hvalid⟩

theorem tickInterval_ne_zero (h : settings.Usable) : settings.tickInterval ≠ (0, 0) := by
  have hpositive : settings.display.tickMs.toNat ≠ 0 := fun hzero =>
    h.1 (UInt64.toNat_inj.mp hzero)
  simp only [tickInterval, ne_eq, Prod.mk.injEq]
  omega

theorem parse?_eq_some_seriesColor (h : settings.Usable) :
    Color.parse? settings.display.color = some settings.seriesColor := by
  obtain ⟨color, hcolor⟩ := Option.isSome_iff_exists.mp h.2
  rw [seriesColor, hcolor, Option.getD_some]

/-- A tick of the command line is not zero, and so it cannot spoil the settings. -/
theorem Usable.overruled (h : settings.Usable) {override : SettingsOverride}
    (haccepted : override.tickMs ≠ some 0) : (settings.overruled override).Usable := by
  refine ⟨?_, h.2⟩
  change override.tickMs.getD settings.display.tickMs ≠ 0
  cases htick : override.tickMs with
  | none => exact h.1
  | some tick =>
      rintro hzero
      exact haccepted (htick.trans (congrArg some hzero))

theorem usable_default : Settings.default.Usable := by
  have hvalid : Settings.default.invalid? = none := by decide +kernel
  exact invalid?_eq_none_iff.mp hvalid

end Settings

/-! ## Where settings come from -/

namespace SettingsPlaces

/-- The file from which settings are taken, if there is one, and the path that it is known
by. -/
def chosen (places : SettingsPlaces) : Option String → Option (String × FileContent)
  | some path => some (path, places.named path)
  | none => if places.standard.isPresent then some (places.standardPath, places.standard) else none

/-- The text of the file from which settings are taken. -/
def text? (places : SettingsPlaces) (path? : Option String) : Option String :=
  (places.chosen path?).bind fun file => file.2.text?

end SettingsPlaces

namespace Settings

variable {places : SettingsPlaces} {path? : Option String}

theorem resolve_eq_chosen (places : SettingsPlaces) (path? : Option String) :
    resolve places path? =
      (places.chosen path?).elim (.ok .default) fun file => load file.1 file.2 := by
  unfold resolve SettingsPlaces.chosen
  cases path? with
  | none => cases hpresent : places.standard.isPresent <;> simp
  | some path => rfl

theorem eq_ok_of_toOption {ε : Type} {result : Except ε Settings} {settings : Settings}
    (h : result.toOption = some settings) : result = .ok settings := by
  cases result with
  | error problem => cases h
  | ok read => exact congrArg Except.ok (Option.some.inj h)

theorem parse_of_decoded {text : String} {written : Settings}
    (h : ofDocument (.ofText text) = .ok written) : parse text = written.validated := by
  rw [parse, h]
  rfl

theorem usable_of_parse {text : String} {settings : Settings} (h : parse text = .ok settings) :
    settings.Usable := by
  cases hdecoded : ofDocument (.ofText text) with
  | error mistake =>
      rw [parse, hdecoded] at h
      cases h
  | ok written =>
      rw [parse_of_decoded hdecoded] at h
      obtain ⟨rfl, husable⟩ := of_validated h
      exact husable

theorem resolve_of_text {text : String} (h : places.text? path? = some text) :
    resolve places path? = parse text := by
  obtain ⟨file, hchosen, htext⟩ := Option.bind_eq_some_iff.mp h
  rw [resolve_eq_chosen, hchosen, Option.elim_some, load, htext]

/-- Whatever is found in a place, the settings that are taken from it can be used. -/
theorem usable_of_resolve {resolved : Settings} (h : resolve places path? = .ok resolved) :
    resolved.Usable := by
  rw [resolve_eq_chosen] at h
  cases hchosen : places.chosen path? with
  | none =>
      rw [hchosen] at h
      cases h
      exact usable_default
  | some file =>
      rw [hchosen, Option.elim_some, load] at h
      split at h
      next => exact usable_of_parse h
      next => cases h

theorem effective_of_resolve {resolved : Settings} (h : resolve places path? = .ok resolved)
    {override : SettingsOverride} (haccepted : override.tickMs ≠ some 0) :
    effective places path? override = .ok (resolved.overruled override) := by
  rw [effective, h]
  exact validated_of_usable ((usable_of_resolve h).overruled haccepted)

theorem usable_of_effective {override : SettingsOverride} {used : Settings}
    (h : effective places path? override = .ok used) : used.Usable := by
  unfold effective at h
  split at h
  next => cases h
  next =>
    obtain ⟨rfl, husable⟩ := of_validated h
    exact husable

/-- What a file gives is refused for its tick, whatever its color, and otherwise for its
color. -/
theorem resolve_of_decoded {text : String} {written : Settings}
    (htext : places.text? path? = some text) (h : ofDocument (.ofText text) = .ok written) :
    resolve places path? =
      if written.display.tickMs = 0 then
        .error (.settingInvalid "display.tick_ms" "must be positive")
      else if Color.parse? written.display.color = none then
        .error (.settingInvalid "display.color"
          ("unknown color '" ++ written.display.color ++ "'"))
      else .ok written := by
  rw [resolve_of_text htext, parse_of_decoded h, validated, invalid?]
  by_cases hzero : written.display.tickMs = 0
  · rw [if_pos hzero, if_pos hzero]
  · rw [if_neg hzero, if_neg hzero]
    cases Color.parse? written.display.color <;> rfl

end Settings

/-- A command line has no tick of zero. -/
theorem PlotCommand.tickMs_ne_zero {arguments : List String} {command : PlotCommand}
    (h : PlotCommand.read arguments = .ok command) : command.override.tickMs ≠ some 0 := by
  unfold PlotCommand.read at h
  cases hread : PlotOption.interface.read arguments with
  | error stop =>
      rw [hread] at h
      cases h
  | ok found =>
      rw [hread] at h
      cases h
      intro hzero
      obtain ⟨number, hnumber, htick⟩ := Option.map_eq_some_iff.mp hzero
      have hkind : (PlotOption.interface.form .tickMs).kind =
          .valued "TICK_MS" (.number .positive) := rfl
      exact ofNat_ne_zero_of_findNumber hread hkind hnumber htick

/-! ## Settings in pictures -/

theorem Viewer.settings_press (viewer : Viewer) (key : KeyPress) :
    (viewer.press key).settings = viewer.settings := by
  rw [press]
  cases key.action viewer.settings.vimKeys <;> rfl

namespace Session

/-- A session and all its pictures have these settings. -/
structure Shows (settings : Settings) (session : Session) : Prop where
  viewer_eq : session.viewer.settings = settings
  picture_eq : ∀ picture ∈ session.pictures.toList, picture.settings = settings

variable {settings : Settings} {session : Session}

namespace Shows

theorem receive (h : session.Shows settings) (turn : SessionTurn) :
    (session.receive turn).Shows settings :=
  ⟨h.viewer_eq, h.picture_eq⟩

theorem draw (h : session.Shows settings) : session.draw.Shows settings where
  viewer_eq := h.viewer_eq
  picture_eq := by
    intro picture hpicture
    rw [Session.draw, Array.toList_push] at hpicture
    rcases List.mem_append.mp hpicture with hbefore | hlast
    · exact h.picture_eq picture hbefore
    · rw [List.mem_singleton.mp hlast]
      exact h.viewer_eq

theorem heed (h : session.Shows settings) (event : TerminalEvent) :
    (session.heed event).Shows settings := by
  cases event with
  | press key => exact ⟨(session.viewer.settings_press key).trans h.viewer_eq, h.picture_eq⟩
  | other => exact h

theorem close (h : session.Shows settings) (interrupted : Bool) :
    (session.close interrupted).1.Shows settings := by
  cases interrupted with
  | false => exact h
  | true => exact ⟨h.viewer_eq, h.picture_eq⟩

theorem turn (h : session.Shows settings) (turn : SessionTurn) :
    (session.turn turn).1.Shows settings := by
  have hreceived := h.receive turn
  unfold Session.turn
  dsimp only
  split
  next => exact hreceived
  next =>
    split
    next => exact hreceived.draw
    next => exact hreceived.draw
    next event _ => exact (hreceived.draw.heed event).close turn.interrupted
    next => exact hreceived.draw.close turn.interrupted

theorem turns (h : session.Shows settings) (turns : List SessionTurn) :
    (session.turns turns).1.Shows settings := by
  induction turns generalizing session with
  | nil => exact h
  | cons next rest ih =>
      have hturn := h.turn next
      unfold Session.turns
      split
      next after result hafter => rw [hafter] at hturn; exact hturn
      next after hafter => rw [hafter] at hturn; exact ih hturn

theorem run (h : session.Shows settings) (terminal : Terminal) (turns : List SessionTurn) :
    (session.run terminal turns).session.Shows settings := by
  have hturns := h.turns turns
  unfold Session.run
  split
  next => exact h
  next =>
    split
    next => exact h
    next =>
      split
      next after hafter => rw [hafter] at hturns; exact hturns
      next after result hafter =>
        rw [hafter] at hturns
        exact ⟨hturns.viewer_eq, hturns.picture_eq⟩

end Shows

end Session

theorem settings_of_plotSession {surroundings : PlotSurroundings} {settings : Settings}
    {logged : Bool} {viewer : Viewer}
    (h : (plotSession surroundings settings logged).picture = some viewer) :
    viewer.settings = settings := by
  have hshows : Session.Shows settings
      { viewer := (Viewer.new settings).withRecent
          (echoRoute settings.echo surroundings.errorsOnTerminal).2 } :=
    ⟨rfl, fun _ hpicture => by simp at hpicture⟩
  have hfinished := hshows.run surroundings.terminal (surroundings.turns
    (Reader.ofInput surroundings.input
      (if (echoRoute settings.echo surroundings.errorsOnTerminal).1 == .stderr then
        Echo.on { writer := .unlimited } else Echo.off)).events)
  refine hfinished.picture_eq viewer ?_
  rw [Array.mem_toList_iff]
  exact Array.mem_of_back? h

/-- A headless run shows no picture. -/
theorem HeadlessRun.picture_ending (run : HeadlessRun) (logged : Bool) (output : String) :
    (run.ending logged output).picture = none := by
  unfold ending
  cases run.fault? with
  | none => rfl
  | some fault =>
      by_cases hkind : fault.kind = .brokenPipe
      · simp [hkind, Ending.prefaced, Ending.quiet]
      · simp [hkind, Ending.prefaced, Ending.failed]

/-- The settings of every picture that is shown are those that the places and the command
line give. -/
theorem effective_of_picture {surroundings : PlotSurroundings} {viewer : Viewer}
    (h : (plot surroundings).picture = some viewer) :
    ∃ command, PlotCommand.read surroundings.arguments = .ok command ∧
      Settings.effective surroundings.places command.settingsPath command.override =
        .ok viewer.settings := by
  unfold plot at h
  split at h
  next stop _ =>
    cases stop <;> cases h
  next command hcommand =>
    split at h
    next => cases h
    next settings hsettings =>
      refine ⟨command, hcommand, ?_⟩
      dsimp only [Ending.prefaced] at h
      split at h
      next =>
        rw [plotHeadless, HeadlessRun.picture_ending] at h
        cases h
      next => rw [hsettings, settings_of_plotSession h]

/-- If there are settings to be had from the places, then the program runs with them as the
command line overrules them: these can be used, their tick lasts, and the color of the points
is the one that they name. A file that decodes to a tick of zero or, with another tick, to an
unknown color gives a failure that names the setting. Without a file the settings are the
default ones. The command line accepts no tick of zero, and every picture shows settings that
can be used. -/
theorem settings_in_use_are_valid :
    (∀ places path? override resolved, override.tickMs ≠ some 0 →
      Settings.resolve places path? = .ok resolved →
        ∃ used, Settings.effective places path? override = .ok used ∧
          used.validated = .ok used ∧
          used.tickInterval ≠ (0, 0) ∧
          Color.parse? used.display.color = some used.seriesColor ∧
          used =
            { resolved with
              display :=
                { resolved.display with
                  tickMs := override.tickMs.getD resolved.display.tickMs
                  style := if override.scatter then .scatter else resolved.display.style }
              echo := if override.noEcho then false else resolved.echo }) ∧
      (∀ places path? text written, SettingsPlaces.text? places path? = some text →
        Settings.ofDocument (.ofText text) = .ok written →
          Settings.resolve places path? =
            if written.display.tickMs = 0 then
              .error (.settingInvalid "display.tick_ms" "must be positive")
            else if Color.parse? written.display.color = none then
              .error (.settingInvalid "display.color"
                ("unknown color '" ++ written.display.color ++ "'"))
            else .ok written) ∧
      (∀ places path?, SettingsPlaces.chosen places path? = none →
        Settings.resolve places path? = .ok .default) ∧
      (∀ arguments command, PlotCommand.read arguments = .ok command →
        command.override.tickMs ≠ some 0) ∧
      ∀ surroundings viewer, (plot surroundings).picture = some viewer →
        ∃ command, PlotCommand.read surroundings.arguments = .ok command ∧
          Settings.effective surroundings.places command.settingsPath command.override =
            .ok viewer.settings ∧
          viewer.settings.validated = .ok viewer.settings := by
  refine ⟨?_, ?_, ?_, ?_, ?_⟩
  · intro places path? override resolved haccepted hresolved
    have heffective := Settings.effective_of_resolve hresolved haccepted
    have husable := Settings.usable_of_effective heffective
    exact ⟨resolved.overruled override, heffective, Settings.validated_of_usable husable,
      Settings.tickInterval_ne_zero husable, Settings.parse?_eq_some_seriesColor husable, rfl⟩
  · intro places path? text written htext hdecoded
    exact Settings.resolve_of_decoded htext hdecoded
  · intro places path? hnone
    rw [Settings.resolve_eq_chosen, hnone]
    rfl
  · intro arguments command hcommand
    exact PlotCommand.tickMs_ne_zero hcommand
  · intro surroundings viewer hpicture
    obtain ⟨command, hcommand, heffective⟩ := effective_of_picture hpicture
    exact ⟨command, hcommand, heffective,
      Settings.validated_of_usable (Settings.usable_of_effective heffective)⟩

/-- A file with a tick of zero and an unknown color is refused for its tick. One with a usable
tick and color gives way to the tick and the style of the command line, and to nothing else. -/
theorem settings_of_two_files :
    let places : SettingsPlaces :=
      { named := fun path =>
          .found (if path = "still.yaml" then "display:\n  color: nope\n  tick_ms: 0\n"
            else "display:\n  tick_ms: 250\n  color: '#ff8800'\nversion: 3\n").toUTF8 }
    Settings.resolve places (some "still.yaml") =
        .error (.settingInvalid "display.tick_ms" "must be positive") ∧
      ∃ used, Settings.effective places (some "moving.yaml")
          { tickMs := some 40, scatter := true } = .ok used ∧
        used.tickInterval ≠ (0, 0) ∧ used.seriesColor = .rgb 255 136 0 ∧
        used =
          { version := 3
            display := { tickMs := 40, style := .scatter, color := "#ff8800" } } := by
  intro places
  obtain ⟨hused, hfile, -, -, -⟩ := settings_in_use_are_valid
  have hstill : (Settings.ofDocument (.ofText "display:\n  color: nope\n  tick_ms: 0\n")).toOption =
      some { display := { tickMs := 0, color := "nope" } } := by decide +kernel
  have hmoving : (Settings.resolve places (some "moving.yaml")).toOption =
      some { version := 3, display := { tickMs := 250, color := "#ff8800" } } := by decide +kernel
  obtain ⟨used, heffective, -, htick, hcolor, rfl⟩ :=
    hused places (some "moving.yaml") { tickMs := some 40, scatter := true } _ (by decide)
      (Settings.eq_ok_of_toOption hmoving)
  refine ⟨?_, _, heffective, htick, ?_, rfl⟩
  · exact hfile places (some "still.yaml") "display:\n  color: nope\n  tick_ms: 0\n" _
      (by decide +kernel) (Settings.eq_ok_of_toOption hstill)
  · decide +kernel

end StreamPlot
