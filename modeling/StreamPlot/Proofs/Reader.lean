import StreamPlot.Reader
import StreamPlot.Proofs.Input

/-!
# What a reader yields

`Reader.ahead` is the whole future of a reader, told from the bytes of its input without
regard to how they are cut: the samples of the whole frames in order, and then the
failure that ends the bytes, if one does. Each call of a reader takes the first item of
it, so a call gives the sample of the frame that its number names, or the failure once,
or nothing.
-/

namespace StreamPlot

/-! ## Whole frames -/

theorem decodeAll_of_lt {bytes : List UInt8} (h : bytes.length < frameLength) :
    decodeAll bytes = [] := by
  rw [decodeAll, dif_pos h]

theorem decodeAll_of_le {bytes : List UInt8} (h : frameLength ≤ bytes.length) :
    decodeAll bytes =
      Sample.decode (bytes.take frameLength) :: decodeAll (bytes.drop frameLength) := by
  rw [decodeAll, dif_neg (by omega)]

/-- The sample of the frame that a number names. Frames count from 0. -/
theorem getElem?_decodeAll (bytes : List UInt8) (index : Nat) :
    (decodeAll bytes)[index]? =
      if index < bytes.length / frameLength then
        some (Sample.decode ((bytes.drop (frameLength * index)).take frameLength))
      else none := by
  induction index generalizing bytes with
  | zero =>
      rcases Nat.lt_or_ge bytes.length frameLength with hshort | hfull
      · rw [decodeAll_of_lt hshort, Nat.div_eq_of_lt hshort]
        rfl
      · rw [decodeAll_of_le hfull, if_pos (Nat.div_pos hfull (by decide))]
        simp
  | succ index ih =>
      rcases Nat.lt_or_ge bytes.length frameLength with hshort | hfull
      · rw [decodeAll_of_lt hshort, Nat.div_eq_of_lt hshort]
        rfl
      · rw [decodeAll_of_le hfull, List.getElem?_cons_succ, ih, List.length_drop,
          List.drop_drop, Nat.mul_succ, Nat.add_comm frameLength]
        have hframes : bytes.length / frameLength =
            (bytes.length - frameLength) / frameLength + 1 :=
          Nat.div_eq_sub_div (by decide) hfull
        rw [hframes]
        simp only [Nat.add_lt_add_iff_right]

theorem length_decodeAll (bytes : List UInt8) :
    (decodeAll bytes).length = bytes.length / frameLength := by
  fun_induction decodeAll bytes with
  | case1 bytes hshort => exact (Nat.div_eq_of_lt hshort).symm
  | case2 bytes hfull ih =>
      rw [List.length_cons, ih, List.length_drop]
      exact (Nat.div_eq_sub_div (by decide) (by omega)).symm

/-- The two ways of asking a reader for its next sample. -/
inductive ReaderCall where
  /-- As the next item of a sequence. -/
  | item
  /-- As a result, which holds no sample when the sequence has ended. -/
  | record
  deriving DecidableEq, Repr, Inhabited

inductive ReaderAnswer where
  | item (item : Option (Except Fault Sample))
  | record (result : Except Fault (Option Sample))
  deriving Repr, Inhabited

def ReaderAnswer.sample? : ReaderAnswer → Option Sample
  | item (some (.ok sample)) => some sample
  | item _ => none
  | record (.ok sample) => sample
  | record (.error _) => none

namespace Reader

/-! ## One call -/

/-- What a reader can have before it. -/
inductive Outlook (reader : Reader) : Prop where
  | finished (h : reader.finished = true)
  | frame (hlive : reader.finished = false) (hframe : frameLength ≤ reader.input.data.length)
  | ended (hlive : reader.finished = false) (hshort : reader.input.data.length < frameLength)
      (hfault : reader.input.fault? = none)
  | failed (fault : Fault) (hlive : reader.finished = false)
      (hshort : reader.input.data.length < frameLength)
      (hfault : reader.input.fault? = some fault)

theorem outlook (reader : Reader) : reader.Outlook := by
  cases hlive : reader.finished with
  | true => exact .finished hlive
  | false =>
      rcases Nat.lt_or_ge reader.input.data.length frameLength with hshort | hframe
      · cases hfault : reader.input.fault? with
        | none => exact .ended hlive hshort hfault
        | some fault => exact .failed fault hlive hshort hfault
      · exact .frame hlive hframe

def nextSample (reader : Reader) : Sample :=
  Sample.decode (reader.input.data.take frameLength)

/-- A reader that has taken the first frame and not yet reported it. -/
def behindFrame (reader : Reader) : Reader :=
  { reader with input := reader.input.skip frameLength, count := reader.count + 1 }

def atEnd (reader : Reader) : Reader :=
  { reader with input := reader.input.behind, finished := true }

theorem next_of_finished {reader : Reader} (h : reader.finished = true) :
    reader.next = ⟨.ok none, reader, []⟩ := by
  rw [next, if_pos h]

theorem next_of_frame {reader : Reader} (hlive : reader.finished = false)
    (hframe : frameLength ≤ reader.input.data.length) :
    reader.next =
      ⟨.ok (some reader.nextSample), (reader.behindFrame.report reader.nextSample).1,
        .sampleRead (reader.count + 1) reader.nextSample ::
          (reader.behindFrame.report reader.nextSample).2⟩ := by
  have hlength : (reader.input.data.take frameLength).length = frameLength := by
    rw [List.length_take, Nat.min_eq_left hframe]
  unfold next
  rw [if_neg (by simp [hlive]), fillFrame_nil, Input.gather_of_le hframe]
  simp only [hlength, Nat.lt_irrefl, if_false]
  rfl

theorem reader_next_of_frame {reader : Reader} (hlive : reader.finished = false)
    (hframe : frameLength ≤ reader.input.data.length) :
    reader.next.reader.finished = false ∧
      reader.next.reader.input = reader.input.skip frameLength := by
  rw [next_of_frame hlive hframe]
  exact ⟨hlive, rfl⟩

theorem next_of_ended {reader : Reader} (hlive : reader.finished = false)
    (hshort : reader.input.data.length < frameLength) (hfault : reader.input.fault? = none) :
    reader.next =
      ⟨.ok none, reader.atEnd,
        (if reader.input.data.isEmpty then [] else [.tailDropped reader.input.data.length])
          ++ [.ended reader.count]⟩ := by
  unfold next
  rw [if_neg (by simp [hlive]), fillFrame_nil, Input.gather_of_fault?_eq_none hshort hfault]
  simp only [hshort, if_true]
  rfl

theorem next_of_failed {reader : Reader} {fault : Fault} (hlive : reader.finished = false)
    (hshort : reader.input.data.length < frameLength)
    (hfault : reader.input.fault? = some fault) :
    reader.next = ⟨.error fault, reader.atEnd, [.readFailed reader.count fault]⟩ := by
  unfold next
  rw [if_neg (by simp [hlive]), fillFrame_nil, Input.gather_of_fault?_eq_some hshort hfault]
  rfl

/-! ## All calls -/

/-- All items that a reader will yield, told from the bytes of its input: the samples of
the whole frames, and the failure that ends the bytes, if one does. -/
def ahead (reader : Reader) : List (Except Fault Sample) :=
  if reader.finished then []
  else (decodeAll reader.input.data).map .ok ++ (reader.input.fault?.map .error).toList

def after (reader : Reader) : (calls : Nat) → Reader
  | 0 => reader
  | calls + 1 => reader.next.reader.after calls

theorem ahead_of_finished {reader : Reader} (h : reader.finished = true) :
    reader.ahead = [] :=
  if_pos h

theorem ahead_of_live {reader : Reader} (h : reader.finished = false) :
    reader.ahead =
      (decodeAll reader.input.data).map .ok ++ (reader.input.fault?.map .error).toList :=
  if_neg (by simp [h])

theorem ahead_of_frame {reader : Reader} (hlive : reader.finished = false)
    (hframe : frameLength ≤ reader.input.data.length) :
    reader.ahead = .ok reader.nextSample :: reader.behindFrame.ahead := by
  have hbehind : reader.behindFrame.finished = false := hlive
  rw [ahead_of_live hlive, ahead_of_live hbehind, decodeAll_of_le hframe]
  simp only [behindFrame, Input.data_skip hframe, Input.fault?_skip hframe]
  rfl

theorem ahead_of_ended {reader : Reader} (hshort : reader.input.data.length < frameLength)
    (hfault : reader.input.fault? = none) : reader.ahead = [] := by
  rw [ahead, decodeAll_of_lt hshort, hfault]
  simp

theorem ahead_of_failed {reader : Reader} {fault : Fault} (hlive : reader.finished = false)
    (hshort : reader.input.data.length < frameLength)
    (hfault : reader.input.fault? = some fault) : reader.ahead = [.error fault] := by
  rw [ahead_of_live hlive, decodeAll_of_lt hshort, hfault]
  rfl

theorem ahead_report (reader : Reader) (sample : Sample) :
    (reader.report sample).1.ahead = reader.ahead := rfl

/-- A call answers the first item ahead. -/
theorem item?_eq_head? (reader : Reader) : reader.item? = reader.ahead.head? := by
  unfold item?
  cases reader.outlook with
  | finished h => rw [next_of_finished h, ahead_of_finished h]; rfl
  | frame hlive hframe => rw [next_of_frame hlive hframe, ahead_of_frame hlive hframe]; rfl
  | ended hlive hshort hfault =>
      rw [next_of_ended hlive hshort hfault, ahead_of_ended hshort hfault]
      rfl
  | failed fault hlive hshort hfault =>
      rw [next_of_failed hlive hshort hfault, ahead_of_failed hlive hshort hfault]
      rfl

/-- A call leaves the other items ahead. -/
theorem ahead_next (reader : Reader) : reader.next.reader.ahead = reader.ahead.tail := by
  cases reader.outlook with
  | finished h => rw [next_of_finished h, ahead_of_finished h]; rfl
  | frame hlive hframe =>
      rw [next_of_frame hlive hframe, ahead_of_frame hlive hframe, List.tail_cons]
      exact ahead_report _ _
  | ended hlive hshort hfault =>
      rw [next_of_ended hlive hshort hfault, ahead_of_ended hshort hfault]
      rfl
  | failed fault hlive hshort hfault =>
      rw [next_of_failed hlive hshort hfault, ahead_of_failed hlive hshort hfault]
      rfl

theorem ahead_after (reader : Reader) (calls : Nat) :
    (reader.after calls).ahead = reader.ahead.drop calls := by
  induction calls generalizing reader with
  | zero => rfl
  | succ calls ih => rw [after, ih, ahead_next, ← List.drop_one, List.drop_drop, Nat.add_comm]

/-- What each call of a reader answers. Calls count from 0. -/
def answers (reader : Reader) (call : Nat) : Option (Except Fault Sample) :=
  (reader.after call).item?

theorem answers_eq_getElem? (reader : Reader) (call : Nat) :
    reader.answers call = reader.ahead[call]? := by
  rw [answers, item?_eq_head?, ahead_after, List.head?_drop]

theorem steps_of_sample {reader : Reader} {sample : Sample}
    (h : reader.next.result = .ok (some sample)) :
    reader.steps = reader.next :: reader.next.reader.steps := by
  rw [steps]
  split
  next => rfl
  next hother => exact absurd h (hother sample)

theorem steps_of_no_sample {reader : Reader}
    (h : ∀ sample, reader.next.result ≠ .ok (some sample)) : reader.steps = [reader.next] := by
  rw [steps]
  split
  next sample hsample => exact absurd hsample (h sample)
  next => rfl

def ending (reader : Reader) : Except Fault (Option Sample) :=
  reader.input.fault?.elim (.ok none) .error

/-- What holds of a reader in front of less than a frame, and in front of a frame if it holds
behind the frame, holds of every reader that has not ended. -/
theorem frame_induction {motive : (reader : Reader) → reader.finished = false → Prop}
    (short : ∀ reader hlive, reader.input.data.length < frameLength → motive reader hlive)
    (frame : ∀ reader hlive (hframe : frameLength ≤ reader.input.data.length),
      motive reader.next.reader (reader_next_of_frame hlive hframe).1 → motive reader hlive)
    (reader : Reader) (hlive : reader.finished = false) : motive reader hlive := by
  -- The bytes that are left shrink with every frame, where the input need not lose a step.
  induction hlength : reader.input.data.length using Nat.strongRecOn generalizing reader with
  | ind length ih =>
      rcases Nat.lt_or_ge reader.input.data.length frameLength with hshort | hframe
      · exact short reader hlive hshort
      · obtain ⟨hstays, hinput⟩ := reader_next_of_frame hlive hframe
        have hpositive : 0 < frameLength := by decide
        refine frame reader hlive hframe (ih _ ?_ _ hstays rfl)
        rw [hinput, Input.data_skip hframe, List.length_drop]
        omega

/-- All answers of a reader: the samples of the whole frames, and the answer that ends
them. -/
theorem results_steps {reader : Reader} (hlive : reader.finished = false) :
    reader.steps.map ReaderStep.result =
      (decodeAll reader.input.data).map (fun sample => .ok (some sample)) ++
        [reader.ending] := by
  induction reader, hlive using frame_induction with
  | short reader hlive hshort =>
      rw [decodeAll_of_lt hshort]
      cases hfault : reader.input.fault? with
      | none =>
          rw [steps_of_no_sample, next_of_ended hlive hshort hfault, ending, hfault]
          · rfl
          · simp [next_of_ended hlive hshort hfault]
      | some fault =>
          rw [steps_of_no_sample, next_of_failed hlive hshort hfault, ending, hfault]
          · rfl
          · simp [next_of_failed hlive hshort hfault]
  | frame reader hlive hframe ih =>
      obtain ⟨-, hinput⟩ := reader_next_of_frame hlive hframe
      have hending : reader.next.reader.ending = reader.ending := by
        rw [ending, ending, hinput, Input.fault?_skip hframe]
      have hresult := congrArg ReaderStep.result (next_of_frame hlive hframe)
      rw [steps_of_sample hresult, List.map_cons, ih, hending, hresult, decodeAll_of_le hframe,
        hinput, Input.data_skip hframe]
      rfl

theorem items_eq_ahead (reader : Reader) : reader.items = reader.ahead := by
  cases hlive : reader.finished with
  | true =>
      rw [ahead_of_finished hlive, items, steps_of_no_sample, next_of_finished hlive]
      · rfl
      · simp [next_of_finished hlive]
  | false =>
      have hresults :
          reader.items = (reader.steps.map ReaderStep.result).filterMap itemOf := by
        rw [List.filterMap_map]
        rfl
      rw [hresults, results_steps hlive, ahead_of_live hlive, List.filterMap_append,
        List.filterMap_map, ending]
      congr 1
      · exact congrFun List.filterMap_eq_map _
      · cases reader.input.fault? <;> rfl

/-! ## Both kinds of calls -/

def call (reader : Reader) : ReaderCall → ReaderAnswer × Reader
  | .item => (.item reader.item?, reader.next.reader)
  | .record => (.record reader.next.result, reader.next.reader)

/-- What some calls answer, and the reader that they leave. -/
def callAll (reader : Reader) : List ReaderCall → List ReaderAnswer × Reader
  | [] => ([], reader)
  | call :: calls =>
      let (answer, next) := reader.call call
      let (answers, last) := next.callAll calls
      (answer :: answers, last)

theorem callAll_cons (reader : Reader) (call : ReaderCall) (calls : List ReaderCall) :
    reader.callAll (call :: calls) =
      ((reader.call call).1 :: ((reader.call call).2.callAll calls).1,
        ((reader.call call).2.callAll calls).2) := rfl

theorem call_snd (reader : Reader) (call : ReaderCall) :
    (reader.call call).2 = reader.next.reader := by
  cases call <;> rfl

theorem sample?_call (reader : Reader) (call : ReaderCall) :
    (reader.call call).1.sample? = reader.next.result.toOption.join := by
  cases call with
  | item =>
      rw [Reader.call, item?]
      cases reader.next.result with
      | ok sample => cases sample <;> rfl
      | error fault => rfl
  | record =>
      rw [Reader.call]
      cases reader.next.result with
      | ok sample => cases sample <;> rfl
      | error fault => rfl

/-- Calls of either kind yield the samples of the first items ahead. -/
theorem filterMap_sample?_callAll (reader : Reader) (calls : List ReaderCall) :
    (reader.callAll calls).1.filterMap ReaderAnswer.sample? =
      (reader.ahead.take calls.length).filterMap Except.toOption := by
  induction calls generalizing reader with
  | nil => simp [callAll]
  | cons call calls ih =>
      have hsample : (reader.call call).1.sample? = reader.ahead.head?.bind Except.toOption := by
        rw [sample?_call, ← item?_eq_head?, item?]
        cases reader.next.result with
        | ok sample => cases sample <;> rfl
        | error fault => rfl
      rw [callAll_cons, List.filterMap_cons, hsample, ih, call_snd, ahead_next]
      cases reader.ahead with
      | nil => simp
      | cons item items => cases item <;> rfl

/-! ## Inputs that differ in their cuts -/

theorem ahead_ofInput (input : Input) (echo : Echo) :
    (ofInput input echo).ahead =
      (decodeAll input.data).map .ok ++ (input.fault?.map .error).toList := rfl

theorem answers_ofInput (input : Input) (echo : Echo) (call : Nat) :
    (ofInput input echo).answers call =
      if call < input.data.length / frameLength then
        some (.ok (Sample.decode ((input.data.drop (frameLength * call)).take frameLength)))
      else if call = input.data.length / frameLength then input.fault?.map .error
      else none := by
  rw [answers_eq_getElem?, ahead_ofInput, List.getElem?_append, List.length_map,
    length_decodeAll, List.getElem?_map, getElem?_decodeAll]
  split
  next => rfl
  next hend =>
    split
    next hlast => rw [hlast, Nat.sub_self]; cases input.fault? <;> rfl
    next hpast =>
      rw [List.getElem?_eq_none]
      cases input.fault? with
      | none => simp
      | some fault =>
          simp only [Option.map_some, Option.toList_some, List.length_singleton]
          omega

theorem answers_congr {input other : Input} (h : input.Alike other) (echo : Echo) :
    (ofInput input echo).answers = (ofInput other echo).answers := by
  funext call
  rw [answers_ofInput, answers_ofInput, h.data_eq, h.fault?_eq]

/-- A reader yields the whole frames of the bytes before the first step that ends them,
then the failure that this step is, if it is one, and then nothing any more. No cut of
the bytes, no interrupted read and nothing behind a read without bytes changes an
answer. -/
theorem answers_of_every_cut (input : Input) (echo : Echo) :
    (ofInput input echo).items =
        (decodeAll input.data).map .ok ++ (input.fault?.map .error).toList ∧
      (∀ call, (ofInput input echo).answers call =
        if call < input.data.length / frameLength then
          some (.ok (Sample.decode ((input.data.drop (frameLength * call)).take frameLength)))
        else if call = input.data.length / frameLength then input.fault?.map .error
        else none) ∧
      (∀ front rest message,
        (ofInput (front ++ .fault ⟨.interrupted, message⟩ :: rest) echo).answers =
          (ofInput (front ++ rest) echo).answers) ∧
      (∀ front rest first firsts second seconds,
        (ofInput (front ++ .data (first :: firsts) :: .data (second :: seconds) :: rest)
            echo).answers =
          (ofInput (front ++ .data (first :: firsts ++ second :: seconds) :: rest)
            echo).answers) ∧
      (∀ front rest,
        (ofInput (front ++ .data [] :: rest) echo).answers = (ofInput front echo).answers ∧
          (ofInput (front ++ .endOfFile :: rest) echo).answers =
            (ofInput front echo).answers) := by
  refine ⟨?_, answers_ofInput input echo, ?_, ?_, ?_⟩
  · rw [items_eq_ahead, ahead_ofInput]
  · intro front rest message
    exact answers_congr ((Input.alike_interrupted rfl rest).append_left front) echo
  · intro front rest first firsts second seconds
    exact answers_congr ((Input.alike_cut (by simp) (by simp) rest).append_left front) echo
  · intro front rest
    have hnothing := (Input.alike_nil_of_empty rest).append_left front
    have hend := (Input.alike_nil_of_endOfFile rest).append_left front
    rw [List.append_nil] at hnothing hend
    exact ⟨answers_congr hnothing echo, answers_congr hend echo⟩

end Reader

end StreamPlot
