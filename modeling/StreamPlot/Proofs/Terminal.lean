import StreamPlot.Proofs.Session
import StreamPlot.Proofs.Sink

/-!
# A terminal is always given back

A session that has taken the terminal over gives it back before it is over, once, whatever
has failed on the way. Raw mode is left, the screen of the session is left and the cursor is
shown again. None of the three is left out because an earlier one has failed, and the first
failure of all is the one that the session ends with.

`Sink.PassedOn` is the account of a text that is written and passed on, and
`Terminal.GivenBack` that of the three steps.
-/

namespace StreamPlot

/-! ## The first failure -/

theorem firstFault_eq_ok_iff (results : List (Except Fault Unit)) :
    firstFault results = .ok () ↔ ∀ result ∈ results, result = .ok () := by
  fun_induction firstFault results with
  | case1 => simp
  | case2 rest ih => simpa using ih
  | case3 fault rest => simp

/-- The first failure has nothing but success in front of it. -/
theorem firstFault_eq_error_iff (results : List (Except Fault Unit)) (fault : Fault) :
    firstFault results = .error fault ↔
      ∃ before after, results = before ++ .error fault :: after ∧
        ∀ earlier ∈ before, earlier = .ok () := by
  constructor
  · intro h
    fun_induction firstFault results with
    | case1 => cases h
    | case2 rest ih =>
        obtain ⟨before, after, rfl, hbefore⟩ := ih h
        exact ⟨.ok () :: before, after, rfl, List.forall_mem_cons.mpr ⟨rfl, hbefore⟩⟩
    | case3 other rest =>
        cases h
        exact ⟨[], rest, rfl, by simp⟩
  · rintro ⟨before, after, rfl, hbefore⟩
    induction before with
    | nil => rfl
    | cons earlier before ih =>
        obtain ⟨rfl, hrest⟩ := List.forall_mem_cons.mp hbefore
        exact ih hrest

theorem firstFault_cons (first : Except Fault Unit) (rest : List (Except Fault Unit)) :
    firstFault [first, firstFault rest] = firstFault (first :: rest) := by
  cases first with
  | error fault => rfl
  | ok =>
      rw [firstFault, firstFault]
      cases firstFault rest <;> rfl

/-- What comes of some steps that are all attempted: it is well if all of them are, and
otherwise it is the first failure. -/
structure FirstOf (steps : List (Except Fault Unit)) (result : Except Fault Unit) : Prop where
  ok_iff : result = .ok () ↔ ∀ step ∈ steps, step = .ok ()
  error_iff : ∀ fault, result = .error fault ↔
    ∃ before after, steps = before ++ .error fault :: after ∧
      ∀ earlier ∈ before, earlier = .ok ()

theorem firstOf_firstFault (steps : List (Except Fault Unit)) :
    FirstOf steps (firstFault steps) where
  ok_iff := firstFault_eq_ok_iff steps
  error_iff := firstFault_eq_error_iff steps

/-! ## A text that is passed on -/

/-- The failure that a refused offer amounts to. -/
def WriteReply.refusal? : WriteReply → Option Fault
  | taken (_ + 1) => none
  | taken 0 => some .writeZero
  | failed fault => some fault

namespace Sink

/-- The account of a text that was to be written to `sink` and passed on. If the writer has
refused a part of it, nothing was passed on; otherwise all of it was written, and the writer
was asked once to pass it on. -/
inductive PassedOn (sink : Sink) (text : String) : Except Fault Unit → Sink → Prop where
  | refused {fault : Fault} {next : Sink}
      (hwrote : sink.Wrote text.toList (sink.replies text.toList) (.error fault) next)
      (hfault : ∃ reply ∈ sink.replies text.toList, reply.refusal? = some fault)
      (hflushes : next.flushes = sink.flushes) : PassedOn sink text (.error fault) next
  | written {result : Except Fault Unit} {next : Sink}
      (hwrote : sink.Wrote text.toList (sink.replies text.toList) (.ok ()) next)
      (hresult : result = (next.writer.flush next.text.size next.attempts).elim (.ok ()) .error)
      (hflushes : next.flushes = sink.flushes + 1) : PassedOn sink text result next

variable (sink : Sink)

theorem flushes_write (text : List Char) : (sink.write text).2.flushes = sink.flushes := by
  fun_induction Sink.write sink text with
  | case1 => rfl
  | case2 => rfl
  | case3 => rfl
  | case4 sink text hnonempty asked count hreply ih => exact ih

/-- A writing fails with what the writer has refused an offer with. -/
theorem exists_refusal_of_write {text : List Char} {fault : Fault}
    (h : (sink.write text).1 = .error fault) :
    ∃ reply ∈ sink.replies text, reply.refusal? = some fault := by
  fun_induction Sink.write sink text with
  | case1 => cases h
  | case2 sink text hnonempty asked other hreply =>
      rw [replies, if_neg hnonempty, hreply]
      cases h
      exact ⟨_, List.mem_singleton_self _, rfl⟩
  | case3 sink text hnonempty asked hreply =>
      rw [replies, if_neg hnonempty, hreply]
      cases h
      exact ⟨_, List.mem_singleton_self _, rfl⟩
  | case4 sink text hnonempty asked count hreply ih =>
      rw [replies, if_neg hnonempty, hreply]
      obtain ⟨reply, hmem, hrefusal⟩ := ih h
      exact ⟨reply, List.mem_cons_of_mem _ hmem, hrefusal⟩

/-- An account of a writing does not speak of what was passed on. -/
theorem Wrote.withFlushes {text : List Char} {replies : List WriteReply}
    {result : Except Fault Unit} {next : Sink} (h : sink.Wrote text replies result next)
    (flushes : Nat) : sink.Wrote text replies result { next with flushes } :=
  ⟨h.writer_eq, h.attempts_eq, h.accepts_of_mem_dropLast, h.ok_iff, h.exists_prefix, h.text_eq,
    h.size_le, h.le_size⟩

theorem passedOn_execute (text : String) :
    sink.PassedOn text (sink.execute text).1 (sink.execute text).2 := by
  have hwrote := sink.wrote_write text.toList
  have hflushes := sink.flushes_write text.toList
  unfold execute
  cases hwrite : sink.write text.toList with
  | mk result next =>
      rw [hwrite] at hwrote hflushes
      cases result with
      | error fault =>
          exact .refused hwrote (sink.exists_refusal_of_write (by rw [hwrite])) hflushes
      | ok =>
          have hflushed : next.flushes + 1 = sink.flushes + 1 := congrArg (· + 1) hflushes
          dsimp only
          cases hflush : next.writer.flush next.text.size next.attempts <;>
            exact .written (hwrote.withFlushes _ _) (by simp [hflush]) hflushed

/-- The writer is asked at least once for a text that is not empty. -/
theorem replies_ne_nil {text : List Char} (htext : text ≠ []) : sink.replies text ≠ [] := by
  rw [replies, if_neg (by simpa using htext)]
  split <;> exact List.cons_ne_nil _ _

theorem PassedOn.attempts_eq {text : String} {result : Except Fault Unit} {next : Sink}
    (h : sink.PassedOn text result next) :
    next.attempts = sink.attempts + (sink.replies text.toList).length := by
  cases h with
  | refused hwrote => exact hwrote.attempts_eq
  | written hwrote => exact hwrote.attempts_eq

theorem attempts_execute (text : String) (htext : text.toList ≠ []) :
    sink.attempts < (sink.execute text).2.attempts := by
  rw [(sink.passedOn_execute text).attempts_eq]
  exact Nat.lt_add_of_pos_right (List.length_pos_iff.mpr (sink.replies_ne_nil htext))

end Sink

/-! ## A terminal that is given back -/

namespace Terminal

/-- The account of a terminal that is given back: it is asked three things, in this order, and
each of the two texts is offered to its writer, whatever has become of the steps before. -/
structure GivenBack (terminal last : Terminal) (leave shown : Except Fault Unit) : Prop where
  calls_eq : last.calls = terminal.calls ++ [.leaveRawMode, .leaveScreen, .showCursor]
  exists_middle : ∃ middle,
    terminal.sink.PassedOn leaveScreenText leave middle ∧
      terminal.sink.attempts < middle.attempts ∧
      middle.PassedOn showCursorText shown last.sink ∧ middle.attempts < last.sink.attempts

theorem givenBack_restore (terminal : Terminal) :
    ∃ leave shown, terminal.GivenBack terminal.restore.2 leave shown ∧
      terminal.restore.1 = firstFault [terminal.cookedMode, leave, shown] := by
  let left := terminal.sink.execute leaveScreenText
  let cursor := left.2.execute showCursorText
  refine ⟨left.1, cursor.1, ⟨?_, left.2, ?_, ?_, ?_, ?_⟩, rfl⟩
  · simp [restore, askAll, ask]
  · exact terminal.sink.passedOn_execute leaveScreenText
  · exact terminal.sink.attempts_execute leaveScreenText (by decide)
  · exact left.2.passedOn_execute showCursorText
  · exact left.2.attempts_execute showCursorText (by decide)

end Terminal

namespace Session

/-! ## How a session comes to its end -/

/-- How a session that has the terminal comes to its end, before the terminal is given back. -/
def outcome? (session : Session) (terminal : Terminal) (turns : List SessionTurn) :
    Option (Except Fault Unit) :=
  match terminal.screen with
  | .error fault => some (.error fault)
  | .ok () => (session.turns turns).2

variable (session : Session)

theorem outcome_eq_error_iff {terminal : Terminal} {turns : List SessionTurn} {fault : Fault} :
    session.outcome? terminal turns = some (.error fault) ↔
      terminal.screen = .error fault ∨
        terminal.screen = .ok () ∧ ∃ before turn after, turns = before ++ turn :: after ∧
          (session.turns before).2 = none ∧ turn.fault? = some fault := by
  unfold outcome?
  rw [← turns_eq_error_iff]
  cases terminal.screen <;> simp

/-- What a session leaves of a terminal that has let it in. -/
theorem run_of_rawMode {terminal : Terminal} (turns : List SessionTurn)
    (hraw : terminal.rawMode = .ok ()) :
    let taken := { terminal with calls := terminal.calls ++ [.enterRawMode, .enterScreen] }
    let ended := session.run terminal turns
    match session.outcome? terminal turns with
    | none => ended.result = none ∧ ended.terminal = taken
    | some outcome => ended.terminal = taken.restore.2 ∧
        ended.result = some (firstFault [outcome, taken.restore.1]) := by
  intro taken ended
  obtain ⟨sink, rawMode, screen, cookedMode, calls⟩ := terminal
  subst hraw
  cases screen with
  | error fault => simp [outcome?, ended, taken, run, Terminal.ask, firstFault]
  | ok =>
      simp only [outcome?, ended, taken, run, Terminal.ask]
      rcases session.turns turns with ⟨last, _ | result⟩ <;> simp

/-- A terminal that has let a session in is given back. As long as the session goes on, the
terminal is not asked for anything more. Once it has come to its end, in whatever way, the
terminal has been given back once: it was asked to leave raw mode, the screen of the session
was left and the cursor was shown, each of them whatever became of the others. The session has
gone well if it has come to its end well and all three steps have gone well. Otherwise it ends
with the first failure: that of the setup or of the turns, and then those of the three steps.
The terminal alone tells the first failure of the three. -/
theorem terminal_is_given_back (session : Session) (terminal : Terminal)
    (turns : List SessionTurn) (hraw : terminal.rawMode = .ok ()) :
    let taken := { terminal with calls := terminal.calls ++ [.enterRawMode, .enterScreen] }
    let ended := session.run terminal turns
    (session.outcome? terminal turns = none → ended.result = none ∧ ended.terminal = taken) ∧
      (∀ outcome, session.outcome? terminal turns = some outcome →
        ∃ leave shown result, taken.GivenBack ended.terminal leave shown ∧
          ended.result = some result ∧
          FirstOf [outcome, terminal.cookedMode, leave, shown] result) ∧
      (∀ fault, session.outcome? terminal turns = some (.error fault) ↔
        terminal.screen = .error fault ∨
          terminal.screen = .ok () ∧ ∃ before turn after, turns = before ++ turn :: after ∧
            (session.turns before).2 = none ∧ turn.fault? = some fault) ∧
      ∀ other : Terminal, ∃ leave shown, other.GivenBack other.restore.2 leave shown ∧
        FirstOf [other.cookedMode, leave, shown] other.restore.1 := by
  intro taken ended
  have hrun := session.run_of_rawMode turns hraw
  refine ⟨?_, ?_, fun fault => session.outcome_eq_error_iff, ?_⟩
  · intro hnone
    rwa [hnone] at hrun
  · intro outcome houtcome
    rw [houtcome] at hrun
    obtain ⟨hterminal, hresult⟩ := hrun
    obtain ⟨leave, shown, hback, hrestored⟩ := taken.givenBack_restore
    refine ⟨leave, shown, _, ?_, hresult, ?_⟩
    · rwa [hterminal]
    · rw [hrestored, firstFault_cons]
      exact firstOf_firstFault _
  · intro other
    obtain ⟨leave, shown, hback, hrestored⟩ := other.givenBack_restore
    refine ⟨leave, shown, hback, ?_⟩
    rw [hrestored]
    exact firstOf_firstFault _

/-- A picture fails in the second turn, and then everything else fails too. -/
theorem terminal_is_given_back_behind_failures :
    let terminal : Terminal :=
      { sink := { writer := .closed }, cookedMode := .error .noTerminal }
    let turns : List SessionTurn :=
      [{ arrivals := [.sample ⟨1, 2⟩] }, { drawing := .error .writeZero }]
    let ended := Session.run { viewer := .new .default } terminal turns
    terminal.rawMode = .ok () ∧ ended.result = some (.error .writeZero) ∧
      ended.terminal.calls =
        [.enterRawMode, .enterScreen, .leaveRawMode, .leaveScreen, .showCursor] := by
  intro terminal turns ended
  have hraw : terminal.rawMode = .ok () := rfl
  obtain ⟨-, hended, -, -⟩ := terminal_is_given_back { viewer := .new .default } terminal turns hraw
  obtain ⟨leave, shown, result, hback, hresult, hfirst⟩ := hended (.error .writeZero) rfl
  refine ⟨hraw, ?_, hback.calls_eq⟩
  rw [hresult, (hfirst.error_iff .writeZero).mpr ⟨[], _, rfl, by simp⟩]

end Session

end StreamPlot
