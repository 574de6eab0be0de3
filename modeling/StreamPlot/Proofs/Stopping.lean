import StreamPlot.Proofs.Reader

/-!
# Where a reader stops

A reader that has yielded some samples has taken their frames from its input and nothing
else: what is left begins directly behind the last byte of the last frame. Another reader
can therefore go on where it stopped. A reader that has ended leaves its input alone.
-/

namespace StreamPlot

namespace Input

theorem skip_skip (first second : Nat) (input : Input) :
    (input.skip first).skip second = input.skip (first + second) := by
  induction input generalizing first second with
  | nil => cases first <;> cases second <;> rfl
  | cons step rest ih =>
      cases first with
      | zero => rw [skip_zero, Nat.zero_add]
      | succ first =>
          rw [Nat.succ_add, skip, skip, skip_pushBack, ih, List.drop_drop, List.length_drop]
          congr 2
          · omega
          · omega

theorem behind_skip {count : Nat} {input : Input} (h : count ≤ input.data.length) :
    (input.skip count).behind = input.behind := by
  induction input generalizing count with
  | nil => cases count <;> rfl
  | cons step rest ih =>
      cases count with
      | zero => simp
      | succ count =>
          rw [data_cons] at h
          rw [behind_cons]
          cases hstep : step.terminates with
          | true => simp [hstep] at h
          | false =>
              rw [hstep, if_neg (by simp), List.length_append] at h
              rw [skip, behind_pushBack, ih (by omega), if_neg (by simp)]

theorem data_append {front : List ReadStep} (h : ∀ step ∈ front, step.terminates = false)
    (rest : Input) : data (front ++ rest) = front.flatMap ReadStep.bytes ++ data rest := by
  induction front with
  | nil => rfl
  | cons step front ih =>
      obtain ⟨hstep, hfront⟩ := List.forall_mem_cons.mp h
      rw [List.cons_append, data_cons, hstep, if_neg (by simp), ih hfront, List.flatMap_cons,
        List.append_assoc]

theorem skip_cons {count : Nat} (h : 0 < count) (step : ReadStep) (rest : Input) :
    skip count (step :: rest) =
      pushBack (step.bytes.drop count) (skip (count - step.bytes.length) rest) := by
  cases count with
  | zero => omega
  | succ count => rfl

/-- Skipping up to a cut within a step leaves the part of the step behind the cut, and all
steps behind it. -/
theorem skip_append (front : List ReadStep) {first : List UInt8} (hfirst : first ≠ [])
    (second : List UInt8) (rest : Input) :
    skip (front.flatMap ReadStep.bytes ++ first).length
        (front ++ .data (first ++ second) :: rest) = pushBack second rest := by
  induction front with
  | nil =>
      rw [List.flatMap_nil, List.nil_append, List.nil_append,
        ← pushBack_of_ne_nil (by simp [hfirst]), skip_pushBack, List.drop_left,
        List.length_append, Nat.sub_eq_zero_of_le (Nat.le_add_right _ _), skip_zero]
  | cons step front ih =>
      have hcut : 0 < (front.flatMap ReadStep.bytes ++ first).length :=
        List.length_pos_iff.mpr (by simp [hfirst])
      rw [List.flatMap_cons, List.append_assoc, List.length_append, List.cons_append,
        skip_cons (by omega), Nat.add_sub_cancel_left, ih, List.drop_eq_nil_of_le (by omega),
        pushBack_nil]

end Input

namespace Reader

theorem after_succ (reader : Reader) (calls : Nat) :
    reader.after (calls + 1) = (reader.after calls).next.reader := by
  induction calls generalizing reader with
  | zero => rfl
  | succ calls ih => exact ih reader.next.reader

theorem after_add (reader : Reader) (calls more : Nat) :
    reader.after (calls + more) = (reader.after calls).after more := by
  induction calls generalizing reader with
  | zero => rw [Nat.zero_add]; rfl
  | succ calls ih =>
      rw [Nat.succ_add]
      exact ih reader.next.reader

/-- A reader that has ended is left as it is by every call. -/
theorem after_of_finished {reader : Reader} (h : reader.finished = true) (calls : Nat) :
    reader.after calls = reader := by
  induction calls with
  | zero => rfl
  | succ calls ih => rw [after_succ, ih, next_of_finished h]

/-- How many whole frames are in front of a reader. -/
def frames (reader : Reader) : Nat := reader.input.data.length / frameLength

section

variable {reader : Reader} {calls : Nat}

theorem frameLength_mul_le (h : calls ≤ reader.frames) :
    frameLength * calls ≤ reader.input.data.length :=
  Nat.le_trans (Nat.mul_le_mul_left frameLength h) (Nat.mul_div_le _ _)

/-- Calls that yield samples take their frames and nothing else. -/
theorem after_frames (hlive : reader.finished = false) (h : calls ≤ reader.frames) :
    (reader.after calls).finished = false ∧
      (reader.after calls).count = reader.count + calls ∧
      (reader.after calls).input = reader.input.skip (frameLength * calls) := by
  induction calls with
  | zero => exact ⟨hlive, rfl, (Input.skip_zero _).symm⟩
  | succ calls ih =>
      obtain ⟨hstays, hcount, hinput⟩ := ih (by omega)
      have hframe : frameLength ≤ (reader.after calls).input.data.length := by
        have hfits := frameLength_mul_le h
        rw [Nat.mul_succ] at hfits
        rw [hinput, Input.data_skip (by omega), List.length_drop]
        omega
      rw [after_succ, next_of_frame hstays hframe]
      refine ⟨hstays, ?_, ?_⟩
      · change (reader.after calls).count + 1 = _
        rw [hcount, Nat.add_assoc]
      · change (reader.after calls).input.skip frameLength = _
        rw [hinput, Input.skip_skip, Nat.mul_succ]

/-- The first call that finds no whole frame ends the reader behind the step that it has
met. -/
theorem after_end (hlive : reader.finished = false) (h : reader.frames < calls) :
    (reader.after calls).finished = true ∧
      (reader.after calls).count = reader.count + reader.frames ∧
      (reader.after calls).input = reader.input.behind := by
  obtain ⟨hstays, hcount, hinput⟩ := after_frames hlive (Nat.le_refl reader.frames)
  have hfits := frameLength_mul_le (Nat.le_refl reader.frames)
  have hshort : (reader.after reader.frames).input.data.length < frameLength := by
    have := Nat.mod_lt reader.input.data.length (show 0 < frameLength by decide)
    have := Nat.div_add_mod reader.input.data.length frameLength
    rw [hinput, Input.data_skip hfits, List.length_drop, frames]
    omega
  have hend : (reader.after (reader.frames + 1)) = (reader.after reader.frames).atEnd := by
    rw [after_succ]
    cases (reader.after reader.frames).outlook with
    | finished hfinished => simp [hstays] at hfinished
    | frame _ hframe => omega
    | ended _ _ hfault => rw [next_of_ended hstays hshort hfault]
    | failed fault _ _ hfault => rw [next_of_failed hstays hshort hfault]
  obtain ⟨more, rfl⟩ := Nat.exists_eq_add_of_le (show reader.frames + 1 ≤ calls by omega)
  rw [after_add, hend, after_of_finished rfl]
  exact ⟨rfl, hcount, (congrArg Input.behind hinput).trans (Input.behind_skip hfits)⟩

theorem finished_after_iff (hlive : reader.finished = false) :
    (reader.after calls).finished = true ↔ reader.frames < calls := by
  rcases Nat.lt_or_ge reader.frames calls with hend | hframes
  · simp [(after_end hlive hend).1, hend]
  · simp [(after_frames hlive hframes).1, hframes]

end

/-- A new reader over what a reader has left goes on where that one stopped. -/
theorem ahead_ofInput_of_live {reader : Reader} (hlive : reader.finished = false)
    (echo : Echo) : (ofInput reader.input echo).ahead = reader.ahead := by
  rw [ahead_ofInput, ahead_of_live hlive]

/-- A reader that has yielded some samples has taken the bytes of their frames, with the
interrupted reads between these bytes, and nothing behind the last of them: what is left
of a step that the frames end in stays in front. A new reader over what is left yields
what the first would have yielded. A reader that has ended has met the first step that
ends the bytes, and no call takes anything more. -/
theorem reader_stops_behind_its_frames (input : Input) (echo : Echo) :
    let reader := ofInput input echo
    let frames := input.data.length / frameLength
    (∀ calls, calls ≤ frames →
        (reader.after calls).count = calls ∧
          (reader.after calls).input = input.skip (frameLength * calls)) ∧
      (∀ front first second rest, first ≠ [] →
        (∀ step ∈ front, step.terminates = false) →
        input = front ++ .data (first ++ second) :: rest →
        ∀ calls, frameLength * calls = (front.flatMap ReadStep.bytes ++ first).length →
          (reader.after calls).count = calls ∧
            (reader.after calls).input = Input.pushBack second rest) ∧
      (∀ calls other, (reader.after calls).finished = false →
        (ofInput (reader.after calls).input other).items = (reader.after calls).items ∧
          ∀ call, (ofInput (reader.after calls).input other).answers call =
            reader.answers (calls + call)) ∧
      ∀ calls, ((reader.after calls).finished = true ↔ frames < calls) ∧
        ((reader.after calls).finished = true →
          (reader.after calls).input = input.behind ∧
            ∀ more, reader.after (calls + more) = reader.after calls) := by
  intro reader frames
  have hlive : reader.finished = false := rfl
  have hstops : ∀ calls, calls ≤ frames →
      (reader.after calls).count = calls ∧
        (reader.after calls).input = input.skip (frameLength * calls) := by
    intro calls hcalls
    obtain ⟨-, hcount, hinput⟩ := after_frames hlive hcalls
    exact ⟨hcount.trans (Nat.zero_add calls), hinput⟩
  refine ⟨hstops, ?_, ?_, ?_⟩
  · intro front first second rest hfirst hfront hinput calls hcut
    have hdata : input.data =
        front.flatMap ReadStep.bytes ++ (first ++ (second ++ Input.data rest)) := by
      rw [hinput, Input.data_append hfront, ← Input.pushBack_of_ne_nil (by simp [hfirst]),
        Input.data_pushBack, List.append_assoc]
    have hcalls : calls ≤ frames := by
      rw [Nat.le_div_iff_mul_le (by decide), Nat.mul_comm, hcut, hdata]
      simp only [List.length_append]
      omega
    obtain ⟨hcount, hleft⟩ := hstops calls hcalls
    refine ⟨hcount, ?_⟩
    rw [hleft, hcut, hinput, Input.skip_append front hfirst]
  · intro calls other hstays
    have hahead := ahead_ofInput_of_live hstays other
    refine ⟨?_, ?_⟩
    · rw [items_eq_ahead, items_eq_ahead, hahead]
    · intro call
      rw [answers_eq_getElem?, answers_eq_getElem?, hahead, ahead_after, List.getElem?_drop]
  · intro calls
    refine ⟨finished_after_iff hlive, ?_⟩
    intro hfinished
    obtain ⟨-, -, hinput⟩ := after_end hlive ((finished_after_iff hlive).mp hfinished)
    refine ⟨hinput, ?_⟩
    intro more
    rw [after_add, after_of_finished hfinished]

/-- The second frame ends within a step: the two bytes behind it stay in front, and so does
the failure behind them. The third call meets that failure, and the bytes behind it are
never read. -/
theorem reader_stops_within_a_step :
    let input : Input :=
      [.data [1, 0, 0, 0, 2], .fault ⟨.interrupted, "signal"⟩,
        .data [0, 0, 0, 3, 0, 0, 0, 4, 0, 0, 0, 5, 6], .fault ⟨.timedOut, "late"⟩,
        .data [7, 0, 0, 0, 8, 0, 0, 0]]
    let reader := ofInput input .off
    (reader.after 2).input =
        [.data [5, 6], .fault ⟨.timedOut, "late"⟩, .data [7, 0, 0, 0, 8, 0, 0, 0]] ∧
      (ofInput (reader.after 2).input .off).items = (reader.after 2).items ∧
      ∀ more, reader.after (3 + more) = reader.after 3 := by
  intro input reader
  obtain ⟨-, hcut, hresume, hend⟩ := reader_stops_behind_its_frames input .off
  have hlive : (reader.after 2).finished = false := by
    rw [Bool.eq_false_iff]
    exact fun hfinished => absurd ((hend 2).1.mp hfinished) (by decide)
  refine ⟨?_, (hresume 2 .off hlive).1, ((hend 3).2 ((hend 3).1.mpr (by decide))).2⟩
  exact (hcut [.data [1, 0, 0, 0, 2], .fault ⟨.interrupted, "signal"⟩]
    [0, 0, 0, 3, 0, 0, 0, 4, 0, 0, 0] [5, 6]
    [.fault ⟨.timedOut, "late"⟩, .data [7, 0, 0, 0, 8, 0, 0, 0]] (by decide) (by decide) rfl 2
    (by decide)).2

end Reader

end StreamPlot
