import StreamPlot.Session
import StreamPlot.Proofs.Channel
import StreamPlot.Proofs.Switches

/-!
# A session goes by its turns

A turn in which nothing fails folds in what has come, draws one picture, heeds what the
terminal says and sees whether it is time to quit, in this order. So a picture shows what has
been folded in with its own turn and before, and what the keys of earlier turns have made of
the switches. The first turn in which a key quits or a signal has come is the last one.

`Session.afterTurn` is what a turn that does not fail leaves behind. A session in which nothing
fails is a fold of it over the turns up to the one that quits.
-/

namespace StreamPlot

/-! ## What a turn brings -/

namespace SessionTurn

/-- What fails in a turn, if something does. -/
def fault? (turn : SessionTurn) : Option Fault :=
  match turn.drawing, turn.waiting with
  | .error fault, _ => some fault
  | .ok (), .error fault => some fault
  | .ok (), .ok (some (.error fault)) => some fault
  | .ok (), .ok (some (.ok _)) => none
  | .ok (), .ok none => none

/-- The key that goes down in a turn, if one does. -/
def press? (turn : SessionTurn) : Option KeyPress :=
  match turn.waiting with
  | .ok (some (.ok (.press key))) => some key
  | _ => none

/-- What the key of a turn asks for. -/
def action? (vimKeys : Bool) (turn : SessionTurn) : Option Action :=
  turn.press?.map fun key => key.action vimKeys

/-- All that a turn asks for, by its key and by the signal that has come by its end. -/
def actions (vimKeys : Bool) (turn : SessionTurn) : List Action :=
  (turn.action? vimKeys).toList ++ if turn.interrupted then [.quit] else []

/-- Whether a turn is to be the last one: its key quits, or a signal has come by its end. -/
def quits (vimKeys : Bool) (turn : SessionTurn) : Bool :=
  turn.action? vimKeys == some .quit || turn.interrupted

theorem quit_mem_actions_iff {vimKeys : Bool} {turn : SessionTurn} :
    .quit ∈ turn.actions vimKeys ↔ turn.quits vimKeys = true := by
  cases hsignal : turn.interrupted <;> simp [actions, quits, hsignal]

/-- The same turn as it is when nothing but keys that go down can be told. -/
def withoutOther (turn : SessionTurn) : SessionTurn :=
  match turn.waiting with
  | .ok (some (.ok .other)) => { turn with waiting := .ok none }
  | _ => turn

/-- What a turn does with samples: what the reader sends comes in, and is folded in once. -/
def dataSteps (turn : SessionTurn) : List ViewingStep :=
  turn.arrivals.map .send ++ (if turn.readerGone then [.hangUp] else []) ++ [.pump]

end SessionTurn

theorem Switches.actAll_append (switches : Switches) (actions more : List Action) :
    switches.actAll (actions ++ more) = (switches.actAll actions).actAll more :=
  List.foldl_append

/-! ## Samples that come in -/

theorem Source.send_cons (source : Source) (event : SourceEvent) (events : List SourceEvent) :
    source.send (event :: events) = (source.send [event]).send events := by
  cases hgone : source.hungUp with
  | true => simp only [send_of_hungUp hgone]
  | false => simp [send, hgone]

theorem Viewing.run_append (viewing : Viewing) (steps more : List ViewingStep) :
    viewing.run (steps ++ more) = (viewing.run steps).run more :=
  List.foldl_append

theorem Viewing.run_sends (viewing : Viewing) (events : List SourceEvent) :
    viewing.run (events.map .send) = { viewing with source := viewing.source.send events } := by
  induction events generalizing viewing with
  | nil =>
      obtain ⟨viewer, queue, hungUp, status⟩ := viewing
      cases hungUp <;> simp [Viewing.run, Source.send]
  | cons event events ih =>
      rw [List.map_cons, run_cons, ih, Source.send_cons]
      rfl

/-- What a run shows depends on no switch at its start. -/
theorem Viewing.shown_run_congr {first second : Viewing} (h : first.shown = second.shown)
    (steps : List ViewingStep) : (first.run steps).shown = (second.run steps).shown :=
  (shown_run h steps).trans (shown_run rfl steps).symm

namespace Session

/-- The viewer of a session and the source that it looks at. -/
def viewing (session : Session) : Viewing := ⟨session.viewer, session.source⟩

theorem viewing_receive (session : Session) (turn : SessionTurn) :
    (session.receive turn).viewing = session.viewing.run turn.dataSteps := by
  rw [SessionTurn.dataSteps, Viewing.run_append, Viewing.run_append, Viewing.run_sends]
  cases hgone : turn.readerGone <;> simp [receive, viewing, Viewing.run, Viewing.step, hgone]

/-! ## One turn -/

/-- What a turn that does not fail leaves behind. -/
def afterTurn (session : Session) (turn : SessionTurn) : Session :=
  let drawn := (session.receive turn).draw
  let heeded := match turn.press? with
    | some key => drawn.heed (.press key)
    | none => drawn
  (heeded.close turn.interrupted).1

/-- What turns that do not fail leave behind. -/
def afterTurns (session : Session) (turns : List SessionTurn) : Session :=
  turns.foldl afterTurn session

variable (session : Session) {turn : SessionTurn}

theorem afterTurns_cons (turn : SessionTurn) (turns : List SessionTurn) :
    session.afterTurns (turn :: turns) = (session.afterTurn turn).afterTurns turns := rfl

/-- The first thing that fails in a turn is what the session ends with. -/
theorem turn_of_fault {fault : Fault} (h : turn.fault? = some fault) :
    (session.turn turn).2 = some (.error fault) := by
  obtain ⟨arrivals, readerGone, drawing, waiting, interrupted⟩ := turn
  rcases drawing with failed | ⟨⟩
  · cases h
    rfl
  · rcases waiting with failed | _ | failed | event <;> cases h <;> rfl

/-- A turn in which nothing fails ends the session if somebody has asked to quit by its end. -/
theorem turn_of_calm (h : turn.fault? = none) :
    session.turn turn = (session.afterTurn turn,
      if (session.afterTurn turn).viewer.shouldQuit then some (.ok ()) else none) := by
  obtain ⟨arrivals, readerGone, drawing, waiting, interrupted⟩ := turn
  rcases drawing with failed | ⟨⟩
  · cases h
  · rcases waiting with failed | _ | failed | key | _
    · cases h
    · rfl
    · cases h
    · rfl
    · rfl

theorem turn_eq_error_iff {fault : Fault} :
    (session.turn turn).2 = some (.error fault) ↔ turn.fault? = some fault := by
  cases hfault : turn.fault? with
  | none =>
      rw [session.turn_of_calm hfault]
      split <;> simp
  | some other =>
      rw [session.turn_of_fault hfault]
      simp

theorem switches_close (interrupted : Bool) :
    (session.close interrupted).1.viewer.switches =
      session.viewer.switches.actAll (if interrupted then [.quit] else []) := by
  cases interrupted <;> rfl

/-- A turn turns the switches by what its key asks for, and then by the signal, if one has
come. -/
theorem switches_afterTurn (turn : SessionTurn) :
    (session.afterTurn turn).viewer.switches =
      session.viewer.switches.actAll (turn.actions session.viewer.settings.vimKeys) := by
  unfold afterTurn SessionTurn.actions SessionTurn.action?
  rw [switches_close, Switches.actAll_append]
  congr 1
  cases turn.press? with
  | none => rfl
  | some key => exact Viewer.switches_act _ _

theorem settings_afterTurn (turn : SessionTurn) :
    (session.afterTurn turn).viewer.settings = session.viewer.settings :=
  (congrArg Switches.settings (session.switches_afterTurn turn)).trans
    (Switches.settings_actAll _ _)

theorem shouldQuit_afterTurn (turn : SessionTurn) :
    (session.afterTurn turn).viewer.shouldQuit = true ↔
      session.viewer.shouldQuit = true ∨ turn.quits session.viewer.settings.vimKeys = true := by
  have hquit := Switches.shouldQuit_actAll session.viewer.switches
    (turn.actions session.viewer.settings.vimKeys)
  rw [← switches_afterTurn, SessionTurn.quit_mem_actions_iff] at hquit
  exact hquit

/-- What a turn shows is what it has folded in, whatever is asked for behind its picture. -/
theorem shown_afterTurn (turn : SessionTurn) :
    (session.afterTurn turn).viewing.shown = (session.receive turn).viewing.shown := by
  have hclose (session : Session) : (session.close turn.interrupted).1.viewing.shown =
      session.viewing.shown := by
    cases turn.interrupted <;> rfl
  unfold afterTurn
  rw [hclose]
  cases turn.press? with
  | none => rfl
  | some key => exact (session.receive turn).viewing.shown_act _

theorem pictures_afterTurn (turn : SessionTurn) :
    (session.afterTurn turn).pictures =
      session.pictures.push (session.receive turn).viewer := by
  unfold afterTurn
  cases turn.press? <;> cases turn.interrupted <;> rfl

/-! ## Many turns -/

theorem turns_cons_of_none (h : (session.turn turn).2 = none)
    (turns : List SessionTurn) :
    session.turns (turn :: turns) = (session.turn turn).1.turns turns := by
  rw [Session.turns]
  split
  next hturn => simp [hturn] at h
  next hturn => rw [hturn]

theorem turns_cons_of_some {result : Except Fault Unit}
    (h : (session.turn turn).2 = some result) (turns : List SessionTurn) :
    session.turns (turn :: turns) = ((session.turn turn).1, some result) := by
  rw [Session.turns]
  split
  next hturn =>
      rw [hturn] at h ⊢
      rw [← h]
  next hturn => simp [hturn] at h

/-- Turns behind some that have not ended the session. -/
theorem turns_append {before : List SessionTurn} (h : (session.turns before).2 = none)
    (turns : List SessionTurn) :
    session.turns (before ++ turns) = (session.turns before).1.turns turns := by
  induction before generalizing session with
  | nil => rfl
  | cons turn before ih =>
      cases hturn : (session.turn turn).2 with
      | some result =>
          rw [session.turns_cons_of_some hturn] at h
          cases h
      | none =>
          rw [session.turns_cons_of_none hturn] at h ⊢
          rw [List.cons_append, session.turns_cons_of_none hturn]
          exact ih _ h

/-- A session fails with what fails in one of its turns, which is the last one then. -/
theorem turns_eq_error_iff {turns : List SessionTurn} {fault : Fault} :
    (session.turns turns).2 = some (.error fault) ↔
      ∃ before turn after, turns = before ++ turn :: after ∧
        (session.turns before).2 = none ∧ turn.fault? = some fault := by
  constructor
  · intro h
    induction turns generalizing session with
    | nil => cases h
    | cons turn turns ih =>
        cases hturn : (session.turn turn).2 with
        | some result =>
            rw [session.turns_cons_of_some hturn, ← hturn, turn_eq_error_iff] at h
            exact ⟨[], turn, turns, rfl, rfl, h⟩
        | none =>
            rw [session.turns_cons_of_none hturn] at h
            obtain ⟨before, failing, after, rfl, hbefore, hfault⟩ := ih _ h
            refine ⟨turn :: before, failing, after, rfl, ?_, hfault⟩
            rwa [session.turns_cons_of_none hturn]
  · rintro ⟨before, turn, after, rfl, hbefore, hfault⟩
    rw [session.turns_append hbefore,
      Session.turns_cons_of_some _ (turn_of_fault _ hfault)]

theorem switches_afterTurns (turns : List SessionTurn) :
    (session.afterTurns turns).viewer.switches = session.viewer.switches.actAll
      (turns.flatMap (SessionTurn.actions session.viewer.settings.vimKeys)) := by
  induction turns generalizing session with
  | nil => rfl
  | cons turn turns ih =>
      rw [afterTurns_cons, ih, settings_afterTurn, switches_afterTurn, List.flatMap_cons,
        Switches.actAll_append]

/-- What a session has folded in is what its turns have done with samples. -/
theorem shown_afterTurns (turns : List SessionTurn) :
    (session.afterTurns turns).viewing.shown =
      (session.viewing.run (turns.flatMap SessionTurn.dataSteps)).shown := by
  induction turns generalizing session with
  | nil => rfl
  | cons turn turns ih =>
      rw [afterTurns_cons, ih, List.flatMap_cons, Viewing.run_append]
      apply Viewing.shown_run_congr
      rw [shown_afterTurn, viewing_receive]

/-- Each turn adds one picture behind those that are there. -/
theorem pictures_afterTurns (turns : List SessionTurn) :
    ∃ pictures, (session.afterTurns turns).pictures.toList = session.pictures.toList ++ pictures ∧
      pictures.length = turns.length ∧
      ∀ index turn, turns[index]? = some turn →
        pictures[index]? = some ((session.afterTurns (turns.take index)).receive turn).viewer := by
  induction turns generalizing session with
  | nil => exact ⟨[], by simp [afterTurns], rfl, by simp⟩
  | cons turn turns ih =>
      obtain ⟨pictures, hpictures, hlength, hpicture⟩ := ih (session.afterTurn turn)
      refine ⟨(session.receive turn).viewer :: pictures, ?_, by simp [hlength], ?_⟩
      · rw [afterTurns_cons, hpictures, pictures_afterTurn, Array.toList_push, List.append_assoc,
          List.singleton_append]
      · intro index other hother
        cases index with
        | zero =>
            obtain rfl := Option.some.inj hother
            rfl
        | succ index => exact hpicture index other hother

/-- Turns in which nothing fails are gone through up to the first that quits. -/
theorem turns_of_calm {turns : List SessionTurn} (hcalm : ∀ turn ∈ turns, turn.fault? = none)
    (hopen : session.viewer.shouldQuit = false) :
    let first := turns.findIdx (SessionTurn.quits session.viewer.settings.vimKeys)
    session.turns turns = (session.afterTurns (turns.take (first + 1)),
      if first < turns.length then some (.ok ()) else none) := by
  induction turns generalizing session with
  | nil => rfl
  | cons turn turns ih =>
      obtain ⟨hturn, hturns⟩ := List.forall_mem_cons.mp hcalm
      have hquit := session.shouldQuit_afterTurn turn
      rw [hopen, or_iff_right Bool.false_ne_true] at hquit
      have hcalmTurn := session.turn_of_calm hturn
      cases hquits : turn.quits session.viewer.settings.vimKeys with
      | true =>
          rw [hquits, eq_self, iff_true] at hquit
          rw [if_pos hquit] at hcalmTurn
          rw [session.turns_cons_of_some (congrArg Prod.snd hcalmTurn), hcalmTurn]
          simp [List.findIdx_cons, hquits, afterTurns]
      | false =>
          rw [hquits, iff_false_intro Bool.false_ne_true, iff_false] at hquit
          rw [if_neg hquit] at hcalmTurn
          have hrest := ih (session.afterTurn turn) hturns (eq_false_of_ne_true hquit)
          rw [settings_afterTurn] at hrest
          rw [session.turns_cons_of_none (congrArg Prod.snd hcalmTurn), hcalmTurn]
          simp only [hrest, List.findIdx_cons, hquits, cond_false, List.take_succ_cons,
            afterTurns_cons, List.length_cons, Nat.add_lt_add_iff_right]

theorem turn_withoutOther (turn : SessionTurn) :
    session.turn turn.withoutOther = session.turn turn := by
  obtain ⟨arrivals, readerGone, drawing, waiting, interrupted⟩ := turn
  rcases waiting with failed | _ | failed | key | _ <;> rfl

theorem turns_withoutOther (turns : List SessionTurn) :
    session.turns (turns.map SessionTurn.withoutOther) = session.turns turns := by
  induction turns generalizing session with
  | nil => rfl
  | cons turn turns ih =>
      rw [List.map_cons, Session.turns, Session.turns, turn_withoutOther]
      simp only [ih]

/-! ## What a picture shows -/

/-- What comes of the samples if the reader sends what it does in these turns, and the viewer
folds in what has come once in each. -/
def pumped (turns : List SessionTurn) : Viewing :=
  session.viewing.run (turns.flatMap SessionTurn.dataSteps)

/-- A picture shows what has been folded in with its turn and before. -/
theorem shown_receive_afterTurns {turns : List SessionTurn} {index : Nat}
    (h : turns[index]? = some turn) :
    ((session.afterTurns (turns.take index)).receive turn).viewing.shown =
      (session.pumped (turns.take (index + 1))).shown := by
  rw [viewing_receive, pumped, List.take_add_one, h, List.flatMap_append, Viewing.run_append]
  have hturn : (some turn).toList.flatMap SessionTurn.dataSteps = turn.dataSteps := by simp
  rw [hturn]
  exact Viewing.shown_run_congr (session.shown_afterTurns _) turn.dataSteps

/-- Until a session is to end, only keys have turned its switches. -/
theorem flatMap_actions {vimKeys : Bool} {turns : List SessionTurn}
    (h : ∀ turn ∈ turns, turn.quits vimKeys = false) :
    turns.flatMap (SessionTurn.actions vimKeys) =
      turns.filterMap (SessionTurn.action? vimKeys) := by
  induction turns with
  | nil => rfl
  | cons turn turns ih =>
      obtain ⟨hturn, hturns⟩ := List.forall_mem_cons.mp h
      have hsignal : turn.interrupted = false := (Bool.or_eq_false_iff.mp hturn).2
      rw [List.flatMap_cons, ih hturns]
      cases haction : turn.action? vimKeys with
      | none => simp [SessionTurn.actions, haction, hsignal]
      | some action => simp [SessionTurn.actions, haction, hsignal]

theorem switches_picture {turns : List SessionTurn} {index : Nat} (turn : SessionTurn)
    (h : index ≤ turns.findIdx (SessionTurn.quits session.viewer.settings.vimKeys)) :
    ((session.afterTurns (turns.take index)).receive turn).viewer.switches =
      session.viewer.switches.actAll ((turns.take index).filterMap
        (SessionTurn.action? session.viewer.settings.vimKeys)) := by
  have hbefore : ∀ turn ∈ turns.take index,
      turn.quits session.viewer.settings.vimKeys = false := by
    intro turn hturn
    obtain ⟨place, hplace, rfl⟩ := List.mem_take_iff_getElem.mp hturn
    exact List.not_of_lt_findIdx (by omega)
  rw [← flatMap_actions hbefore]
  exact session.switches_afterTurns (turns.take index)

/-- A session in which nothing fails goes by its turns. If nobody has asked to quit before,
it ends well with the first turn in which a key quits or a signal has come, and not earlier.
Up to this turn it draws one picture in each, and none behind it. A picture shows what has
come of the samples with its own turn and before, and the switches as the keys of earlier
turns have left them. What has been folded in until the end stays. A session that has been
asked to quit before ends with its first turn. Whatever the terminal says besides keys that go
down makes no difference. -/
theorem session_goes_by_its_turns (session : Session) (turns : List SessionTurn)
    (hcalm : ∀ turn ∈ turns, turn.fault? = none) :
    let vimKeys := session.viewer.settings.vimKeys
    let first := turns.findIdx (SessionTurn.quits vimKeys)
    let gone := turns.take (first + 1)
    let last := (session.turns turns).1
    (session.viewer.shouldQuit = false →
      (session.turns turns).2 = (if first < turns.length then some (.ok ()) else none) ∧
        (∃ pictures, last.pictures.toList = session.pictures.toList ++ pictures ∧
          pictures.length = gone.length ∧
          ∀ index < gone.length, ∃ picture, pictures[index]? = some picture ∧
            picture.plot = (session.pumped (turns.take (index + 1))).viewer.plot ∧
            picture.stream = (session.pumped (turns.take (index + 1))).viewer.stream ∧
            picture.switches = session.viewer.switches.actAll
              ((turns.take index).filterMap (SessionTurn.action? vimKeys))) ∧
        last.viewer.plot = (session.pumped gone).viewer.plot ∧
        last.viewer.stream = (session.pumped gone).viewer.stream ∧
        last.source = (session.pumped gone).source ∧
        last.viewer.switches =
          session.viewer.switches.actAll (gone.flatMap (SessionTurn.actions vimKeys))) ∧
      (session.viewer.shouldQuit = true → ∀ turn rest, turns = turn :: rest →
        session.turns turns = (session.afterTurn turn, some (.ok ()))) ∧
      session.turns (turns.map SessionTurn.withoutOther) = session.turns turns := by
  intro vimKeys first gone last
  refine ⟨?_, ?_, session.turns_withoutOther turns⟩
  · intro hopen
    have hturns := session.turns_of_calm hcalm hopen
    have hlast : last = session.afterTurns gone := congrArg Prod.fst hturns
    have hshown := session.shown_afterTurns gone
    simp only [Viewing.shown, Prod.mk.injEq] at hshown
    obtain ⟨hplot, hstream, hsource⟩ := hshown
    rw [hlast]
    refine ⟨congrArg Prod.snd hturns, ?_, hplot, hstream, hsource, session.switches_afterTurns gone⟩
    obtain ⟨pictures, hpictures, hlength, hpicture⟩ := session.pictures_afterTurns gone
    refine ⟨pictures, hpictures, hlength, ?_⟩
    intro index hindex
    have hgone : gone.length = min (first + 1) turns.length := List.length_take
    have hplace : index < turns.length := by omega
    have hfirst : index ≤ first := by omega
    have hturn : gone[index]? = some turns[index] := by
      rw [List.getElem?_take_of_lt (by omega), List.getElem?_eq_getElem hplace]
    have hbefore : gone.take index = turns.take index := by
      rw [List.take_take, Nat.min_eq_left (by omega)]
    refine ⟨_, hpicture index _ hturn, ?_⟩
    rw [hbefore]
    have hseen := session.shown_receive_afterTurns (List.getElem?_eq_getElem hplace)
    simp only [Viewing.shown, Prod.mk.injEq] at hseen
    exact ⟨hseen.1, hseen.2.1, session.switches_picture _ hfirst⟩
  · rintro hasked turn rest rfl
    have hquit : (session.afterTurn turn).viewer.shouldQuit = true :=
      (session.shouldQuit_afterTurn turn).mpr (.inl hasked)
    rw [Session.turns, session.turn_of_calm (hcalm turn List.mem_cons_self), if_pos hquit]

/-- A size that changes, a wish for help and a key that quits. The signal comes too late. -/
theorem session_ends_with_its_third_turn :
    let session : Session := { viewer := .new .default }
    let turns : List SessionTurn :=
      [{ arrivals := [.sample ⟨1, 2⟩], waiting := .ok (some (.ok .other)) },
        { arrivals := [.sample ⟨3, 4⟩, .ended],
          waiting := .ok (some (.ok (.press { key := .char '?' }))) },
        { waiting := .ok (some (.ok (.press { key := .escape }))) },
        { arrivals := [.sample ⟨5, 6⟩], interrupted := true }]
    (session.turns turns).2 = some (.ok ()) ∧
      ∃ pictures, (session.turns turns).1.pictures.toList = pictures ∧ pictures.length = 3 ∧
        ∃ picture, pictures[2]? = some picture ∧
          picture.switches = session.viewer.switches.actAll [.help] := by
  intro session turns
  have hcalm : ∀ turn ∈ turns, turn.fault? = none := by decide
  obtain ⟨hgoes, -, -⟩ := session_goes_by_its_turns session turns hcalm
  obtain ⟨hresult, ⟨pictures, hpictures, hlength, hpicture⟩, -⟩ := hgoes rfl
  obtain ⟨picture, hthird, -, -, hswitches⟩ := hpicture 2 (by decide)
  exact ⟨hresult, pictures, hpictures, hlength, picture, hthird, hswitches⟩

end Session

end StreamPlot
