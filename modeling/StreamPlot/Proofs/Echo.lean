import StreamPlot.Proofs.Reader
import StreamPlot.Proofs.Sink

/-!
# The echo only listens

A reader with an echo and one without answer alike to every sequence of calls and are
left with the same input, whatever the writer of the echo does. The writer, in turn, has
taken a prefix of the lines of the samples that were answered: all of them as long as no
offer was refused, and nothing is offered to it after the first refusal.
-/

namespace StreamPlot

def echoLines (samples : List Sample) : List Char :=
  samples.flatMap fun sample => sample.echoLine.toList

theorem echoLines_append (first second : List Sample) :
    echoLines (first ++ second) = echoLines first ++ echoLines second :=
  List.flatMap_append

theorem Sample.flatMap_echoPieces (sample : Sample) :
    sample.echoPieces.flatMap String.toList = echoLines [sample] := by
  simp [echoLines, echoLine, String.toList_join]

theorem Sample.text_eq (sample : Sample) :
    sample.text = "(" ++ sample.x.toNat.repr ++ ", " ++ sample.y.toNat.repr ++ ")" := by
  simp [text, textPieces, String.join_cons, String.append_assoc]

theorem Sample.echoLine_eq (sample : Sample) :
    sample.echoLine = "(" ++ sample.x.toNat.repr ++ ", " ++ sample.y.toNat.repr ++ ")\n" := by
  simp [echoLine, echoPieces, textPieces, String.join_cons, String.append_assoc]

theorem utf8Size_of_mem_repr {value : Nat} {char : Char} (h : char ∈ value.repr.toList) :
    char.utf8Size = 1 := by
  rw [Nat.toList_repr] at h
  have hdigit := Nat.isDigit_of_mem_toDigits (by decide) (by decide) h
  rw [Char.isDigit_iff_toNat] at hdigit
  rw [Char.utf8Size_eq_one_iff, UInt32.le_iff_toNat_le]
  exact Nat.le_trans hdigit.2 (by decide)

/-- All that an echo writes is ASCII, so that a character is a byte. -/
theorem utf8Size_of_mem_echoLines {samples : List Sample} {char : Char}
    (h : char ∈ echoLines samples) : char.utf8Size = 1 := by
  obtain ⟨sample, _, hline⟩ := List.mem_flatMap.mp h
  rw [sample.echoLine_eq] at hline
  simp only [String.toList_append, List.mem_append] at hline
  rcases hline with (((hopen | hx) | hcomma) | hy) | hclose
  · obtain rfl : char = '(' := by simpa using hopen
    rfl
  · exact utf8Size_of_mem_repr hx
  · obtain rfl | rfl : char = ',' ∨ char = ' ' := by simpa using hcomma
    · rfl
    · rfl
  · exact utf8Size_of_mem_repr hy
  · obtain rfl | rfl : char = ')' ∨ char = '\n' := by simpa using hclose
    · rfl
    · rfl

namespace Echo

/-- The sink to which samples are or were reported. -/
def sink? : Echo → Option Sink
  | off => none
  | on sink => some sink
  | lost sink => some sink

/-- What the writer answers while a sample is reported. -/
def replies (echo : Echo) (sample : Sample) : List WriteReply :=
  match echo with
  | on sink => sink.repliesAll sample.echoPieces
  | _ => []

/-- An echo that began at `start` and has reported `samples`: the account of the lines
until now, or until the first that could not be written. -/
inductive Reported (start : Sink) (samples : List Sample) (replies : List WriteReply) :
    Echo → Prop where
  | on {sink : Sink} (h : start.Wrote (echoLines samples) replies (.ok ()) sink) :
      Reported start samples replies (.on sink)
  | lost {sink : Sink} {fault : Fault}
      (h : start.Wrote (echoLines samples) replies (.error fault) sink) :
      Reported start samples replies (.lost sink)

/-- Reporting one more sample adds its line to the account. -/
theorem Reported.emit {start : Sink} {samples : List Sample} {replies : List WriteReply}
    {echo : Echo} (h : Reported start samples replies echo) (sample : Sample) :
    Reported start (samples ++ [sample]) (replies ++ echo.replies sample)
      (echo.emit sample).2 := by
  cases h with
  | @on sink hsofar =>
      have hline := sink.wrote_writeAll sample.echoPieces
      rw [sample.flatMap_echoPieces] at hline
      have hboth := hsofar.append hline
      rw [← echoLines_append] at hboth
      unfold Echo.emit
      dsimp only
      cases hwrite : sink.writeAll sample.echoPieces with
      | mk result next =>
          rw [hwrite] at hboth
          cases result with
          | ok => exact .on hboth
          | error fault => exact .lost hboth
  | @lost sink fault hsofar =>
      rw [show (Echo.lost sink).replies sample = [] from rfl, List.append_nil]
      have hstop := hsofar.stop (echoLines [sample])
      rw [← echoLines_append] at hstop
      exact .lost hstop

theorem Reported.exists_sink {start : Sink} {samples : List Sample}
    {replies : List WriteReply} {echo : Echo} (h : Reported start samples replies echo) :
    ∃ sink result, echo.sink? = some sink ∧
      start.Wrote (echoLines samples) replies result sink := by
  cases h with
  | on h => exact ⟨_, _, rfl, h⟩
  | lost h => exact ⟨_, _, rfl, h⟩

end Echo

namespace Reader

def silent (reader : Reader) : Reader :=
  { reader with echo := .off }

/-- What the writer of the echo answers during a call. -/
def replies (reader : Reader) : List WriteReply :=
  match reader.next.result with
  | .ok (some sample) => reader.echo.replies sample
  | _ => []

def repliesAll (reader : Reader) : List ReaderCall → List WriteReply
  | [] => []
  | call :: calls => reader.replies ++ (reader.call call).2.repliesAll calls

/-- Without its echo a reader answers the same and is left with the same input, count and
end. -/
theorem next_silent (reader : Reader) :
    reader.silent.next.result = reader.next.result ∧
      reader.silent.next.reader = reader.next.reader.silent := by
  cases reader.outlook with
  | finished h =>
      have hsilent : reader.silent.finished = true := h
      rw [next_of_finished h, next_of_finished hsilent]
      exact ⟨rfl, rfl⟩
  | frame hlive hframe =>
      have hsilent : reader.silent.finished = false := hlive
      rw [next_of_frame hlive hframe, next_of_frame hsilent hframe]
      exact ⟨rfl, rfl⟩
  | ended hlive hshort hfault =>
      have hsilent : reader.silent.finished = false := hlive
      rw [next_of_ended hlive hshort hfault, next_of_ended hsilent hshort hfault]
      exact ⟨rfl, rfl⟩
  | failed fault hlive hshort hfault =>
      have hsilent : reader.silent.finished = false := hlive
      rw [next_of_failed hlive hshort hfault, next_of_failed hsilent hshort hfault]
      exact ⟨rfl, rfl⟩

theorem call_silent (reader : Reader) (call : ReaderCall) :
    reader.silent.call call = ((reader.call call).1, (reader.call call).2.silent) := by
  obtain ⟨hresult, hreader⟩ := reader.next_silent
  cases call with
  | item =>
      have hitem : reader.silent.item? = reader.item? := by rw [item?, hresult, item?]
      rw [Reader.call, Reader.call, hitem, hreader]
  | record => rw [Reader.call, Reader.call, hresult, hreader]

theorem callAll_silent (reader : Reader) (calls : List ReaderCall) :
    reader.silent.callAll calls =
      ((reader.callAll calls).1, (reader.callAll calls).2.silent) := by
  induction calls generalizing reader with
  | nil => rfl
  | cons call calls ih => rw [callAll_cons, callAll_cons, call_silent, ih]

/-- The echo changes by the sample that a call comes upon, if it comes upon one. -/
theorem echo_next (reader : Reader) :
    reader.next.reader.echo =
      match reader.next.result with
      | .ok (some sample) => (reader.echo.emit sample).2
      | _ => reader.echo := by
  cases reader.outlook with
  | finished h => rw [next_of_finished h]
  | frame hlive hframe => rw [next_of_frame hlive hframe]; rfl
  | ended hlive hshort hfault => rw [next_of_ended hlive hshort hfault]; rfl
  | failed fault hlive hshort hfault => rw [next_of_failed hlive hshort hfault]; rfl

theorem reported_call {start : Sink} {samples : List Sample} {replies : List WriteReply}
    {reader : Reader} (h : Echo.Reported start samples replies reader.echo)
    (call : ReaderCall) :
    Echo.Reported start (samples ++ (reader.call call).1.sample?.toList)
      (replies ++ reader.replies) (reader.call call).2.echo := by
  rw [call_snd, sample?_call, echo_next, Reader.replies]
  rcases reader.next.result with fault | _ | sample
  · simpa [Except.toOption] using h
  · simpa [Except.toOption] using h
  · exact h.emit sample

theorem reported_callAll {start : Sink} {samples : List Sample} {replies : List WriteReply}
    {reader : Reader} (h : Echo.Reported start samples replies reader.echo)
    (calls : List ReaderCall) :
    Echo.Reported start (samples ++ (reader.callAll calls).1.filterMap ReaderAnswer.sample?)
      (replies ++ reader.repliesAll calls) (reader.callAll calls).2.echo := by
  induction calls generalizing samples replies reader with
  | nil => simpa [callAll, repliesAll] using h
  | cons call calls ih =>
      have hrest := ih (reported_call h call)
      rw [callAll_cons, repliesAll, ← List.append_assoc]
      rw [List.append_assoc] at hrest
      cases hsample : (reader.call call).1.sample? with
      | none =>
          rw [List.filterMap_cons_none hsample]
          rwa [hsample] at hrest
      | some sample =>
          rw [List.filterMap_cons_some hsample]
          rwa [hsample] at hrest

/-- A reader with an echo answers all calls as one without an echo, and is left with the
same input, count and end. The writer of the echo has taken a prefix of the lines of the
samples that were answered, and all of them if it has refused no offer; an offer that it
has refused was the last. A writer that takes some bytes in all and then refuses has
taken the first so many bytes of the lines. -/
theorem echo_only_listens (input : Input) (writer : Writer) (calls : List ReaderCall) :
    let reader := ofInput input (.on { writer })
    let run := reader.callAll calls
    let lines := echoLines (run.1.filterMap ReaderAnswer.sample?)
    let replies := reader.repliesAll calls
    (ofInput input .off).callAll calls = (run.1, run.2.silent) ∧
      (∀ char ∈ lines, char.utf8Size = 1) ∧
      ∃ sink, run.2.echo.sink? = some sink ∧
        sink.writer = writer ∧
        sink.attempts = replies.length ∧
        sink.text.toList <+: lines ∧
        (∀ reply ∈ replies.dropLast, reply.accepts = true) ∧
        ((∀ reply ∈ replies, reply.accepts = true) → sink.text.toList = lines) ∧
        ∀ capacity, writer.Holds capacity → sink.text.toList = lines.take capacity := by
  intro reader run lines replies
  have hstart : Echo.Reported { writer } [] [] reader.echo := .on (Sink.Wrote.nil _)
  have hrun := reported_callAll hstart calls
  rw [List.nil_append, List.nil_append] at hrun
  obtain ⟨sink, result, hsink, hwrote⟩ := hrun.exists_sink
  obtain ⟨taken, hprefix, htaken⟩ := hwrote.exists_prefix
  have htext : sink.text.toList = taken := by simpa using htaken
  have hcomplete : result = .ok () → sink.text.toList = lines := by
    intro hresult
    simpa using hwrote.text_eq hresult
  refine ⟨reader.callAll_silent calls, fun _ h => utf8Size_of_mem_echoLines h, sink, hsink,
    hwrote.writer_eq, ?_, ?_, hwrote.accepts_of_mem_dropLast, ?_, ?_⟩
  · rw [hwrote.attempts_eq, Nat.zero_add]
  · rw [htext]
    exact hprefix
  · intro haccepts
    exact hcomplete (hwrote.ok_iff.mpr haccepts)
  · intro capacity hholds
    have hwithin := hwrote.size_le capacity hholds (Nat.zero_le _)
    rw [← Array.length_toList] at hwithin
    rcases result with fault | ⟨⟩
    · have hfull := hwrote.le_size capacity hholds (by simp)
      rw [← Array.length_toList] at hfull
      have hlength : taken.length = capacity := by
        rw [← htext]
        exact Nat.le_antisymm hwithin hfull
      rw [htext, ← hlength]
      exact List.prefix_iff_eq_take.mp hprefix
    · rw [hcomplete rfl] at hwithin ⊢
      exact (List.take_of_length_le hwithin).symm

/-- A sink with room for nine bytes takes the first line and the beginning of the second. -/
theorem echo_into_nine_bytes :
    (Writer.limited 9 none).Holds 9 ∧
      ∃ sink,
        ((ofInput [.data [1, 0, 0, 0, 2], .fault ⟨.interrupted, "signal"⟩,
            .data [0, 0, 0, 30, 0, 0, 0, 4, 0, 0, 0, 9]]
          (.on { writer := .limited 9 none })).callAll [.item, .record, .item]).2.echo.sink? =
            some sink ∧
        sink.text.toList = "(1, 2)\n(3".toList := by
  have hholds := Writer.limited_holds 9 none
  obtain ⟨-, -, sink, hsink, -, -, -, -, -, hcapacity⟩ := echo_only_listens
    [.data [1, 0, 0, 0, 2], .fault ⟨.interrupted, "signal"⟩,
      .data [0, 0, 0, 30, 0, 0, 0, 4, 0, 0, 0, 9]]
    (.limited 9 none) [.item, .record, .item]
  refine ⟨hholds, sink, hsink, ?_⟩
  rw [hcapacity 9 hholds, filterMap_sample?_callAll, ahead_ofInput]
  rw [decodeAll_of_le (by decide), decodeAll_of_le (by decide), decodeAll_of_lt (by decide)]
  rfl

end Reader

end StreamPlot
