import StreamPlot.Input

/-!
# Inputs without their cuts

What a reader makes of an input depends on the bytes before the first step that ends
them, and on whether that step is a failure. How the bytes are cut into steps, and where
a read is interrupted, is lost on it.

`fillFrame_eq_gather` says so of one frame: filling it by reads, each of which is offered
what is still missing, gives what one look at all the bytes gives, and leaves exactly
what stands behind the last byte taken.
-/

namespace StreamPlot

namespace ReadStep

/-- Whether the read that meets a step is the last one that matters. An interrupted read
is made again. -/
def terminates : ReadStep → Bool
  | data bytes => bytes.isEmpty
  | endOfFile => true
  | fault failure => failure.kind != .interrupted

def bytes : ReadStep → List UInt8
  | data bytes => bytes
  | endOfFile => []
  | fault _ => []

def fault? : ReadStep → Option Fault
  | data _ => none
  | endOfFile => none
  | fault failure => some failure

@[simp] theorem terminates_data (bytes : List UInt8) :
    (data bytes).terminates = bytes.isEmpty := rfl

@[simp] theorem terminates_endOfFile : endOfFile.terminates = true := rfl

@[simp] theorem terminates_fault (failure : Fault) :
    (fault failure).terminates = (failure.kind != .interrupted) := rfl

end ReadStep

namespace Input

/-- All bytes before the first step that ends them. -/
def data (input : Input) : List UInt8 :=
  (input.takeWhile fun step => !step.terminates).flatMap ReadStep.bytes

/-- The failure that ends the bytes of an input, if one does. -/
def fault? (input : Input) : Option Fault :=
  (input.find? ReadStep.terminates).bind ReadStep.fault?

/-- What stands behind the first step that ends the bytes. -/
def behind (input : Input) : Input :=
  (input.dropWhile fun step => !step.terminates).tail

/-- What is left of an input when its first `count` bytes have been read. No step behind
the last of these bytes has been met. -/
def skip : (count : Nat) → Input → Input
  | 0, input => input
  | _ + 1, [] => []
  | count + 1, step :: rest =>
      pushBack (step.bytes.drop (count + 1)) (skip (count + 1 - step.bytes.length) rest)

/-- Take `count` bytes as if an input came in one piece: the bytes, or fewer if the input
ends before, or the failure that comes before. -/
def gather (count : Nat) (input : Input) : Except Fault (List UInt8) × Input :=
  if count ≤ input.data.length then (.ok (input.data.take count), input.skip count)
  else
    (match input.fault? with
      | none => .ok input.data
      | some fault => .error fault,
    input.behind)

/-! ## Steps at the front -/

theorem data_cons (step : ReadStep) (rest : Input) :
    data (step :: rest) = if step.terminates then [] else step.bytes ++ data rest := by
  unfold data
  cases hstep : step.terminates <;> simp [hstep]

theorem fault?_cons (step : ReadStep) (rest : Input) :
    fault? (step :: rest) = if step.terminates then step.fault? else fault? rest := by
  unfold fault?
  cases hstep : step.terminates <;> simp [hstep]

theorem behind_cons (step : ReadStep) (rest : Input) :
    behind (step :: rest) = if step.terminates then rest else behind rest := by
  unfold behind
  cases hstep : step.terminates <;> simp [hstep]

@[simp] theorem skip_zero (input : Input) : skip 0 input = input := by
  cases input <;> rfl

@[simp] theorem pushBack_nil (input : Input) : pushBack [] input = input := rfl

theorem pushBack_of_ne_nil {bytes : List UInt8} (h : bytes ≠ []) (input : Input) :
    pushBack bytes input = .data bytes :: input := by
  simp [pushBack, h]

theorem data_pushBack (bytes : List UInt8) (input : Input) :
    data (pushBack bytes input) = bytes ++ data input := by
  by_cases hbytes : bytes = []
  · simp [hbytes]
  · rw [pushBack_of_ne_nil hbytes, data_cons]
    simp [hbytes, ReadStep.bytes]

theorem fault?_pushBack (bytes : List UInt8) (input : Input) :
    fault? (pushBack bytes input) = fault? input := by
  by_cases hbytes : bytes = []
  · simp [hbytes]
  · rw [pushBack_of_ne_nil hbytes, fault?_cons]
    simp [hbytes]

theorem behind_pushBack (bytes : List UInt8) (input : Input) :
    behind (pushBack bytes input) = behind input := by
  by_cases hbytes : bytes = []
  · simp [hbytes]
  · rw [pushBack_of_ne_nil hbytes, behind_cons]
    simp [hbytes]

theorem skip_pushBack (count : Nat) (bytes : List UInt8) (input : Input) :
    skip count (pushBack bytes input) =
      pushBack (bytes.drop count) (skip (count - bytes.length) input) := by
  by_cases hbytes : bytes = []
  · simp [hbytes]
  · rw [pushBack_of_ne_nil hbytes]
    cases count with
    | zero => simp [pushBack_of_ne_nil hbytes]
    | succ count => rfl

theorem data_skip {count : Nat} {input : Input} (h : count ≤ input.data.length) :
    (input.skip count).data = input.data.drop count := by
  induction input generalizing count with
  | nil => cases count <;> rfl
  | cons step rest ih =>
      cases count with
      | zero => simp
      | succ count =>
          rw [data_cons] at h ⊢
          cases hstep : step.terminates with
          | true => simp [hstep] at h
          | false =>
              rw [hstep, if_neg (by simp), List.length_append] at h
              rw [skip, data_pushBack, ih (by omega), if_neg (by simp), List.drop_append]

theorem fault?_skip {count : Nat} {input : Input} (h : count ≤ input.data.length) :
    (input.skip count).fault? = input.fault? := by
  induction input generalizing count with
  | nil => cases count <;> rfl
  | cons step rest ih =>
      cases count with
      | zero => simp
      | succ count =>
          rw [data_cons] at h
          rw [fault?_cons]
          cases hstep : step.terminates with
          | true => simp [hstep] at h
          | false =>
              rw [hstep, if_neg (by simp), List.length_append] at h
              rw [skip, fault?_pushBack, ih (by omega), if_neg (by simp)]

/-! ## What a read changes -/

/-- Reading `taken` from the front of `input` leaves `rest`. Interrupted reads that have
been made again may have left the front too. -/
structure Advances (input : Input) (taken : List UInt8) (rest : Input) : Prop where
  data_eq : input.data = taken ++ rest.data
  fault?_eq : rest.fault? = input.fault?
  behind_eq : rest.behind = input.behind
  skip_eq : ∀ count, 0 < taken.length + count →
    rest.skip count = input.skip (taken.length + count)

/-- A read that finds bytes has taken them from the front. -/
theorem advances_of_read {room : Nat} {input rest : Input} {taken : List UInt8}
    (h : read room input = (.bytes taken, rest)) (htaken : taken ≠ []) :
    Advances input taken rest := by
  match input with
  | [] => simp [read] at h; exact absurd h.1 htaken
  | .endOfFile :: _ => simp [read] at h; exact absurd h.1 htaken
  | .fault _ :: _ => simp [read] at h
  | .data bytes :: tail =>
      simp only [read, Prod.mk.injEq, ReadResult.bytes.injEq] at h
      obtain ⟨rfl, rfl⟩ := h
      have hbytes : bytes ≠ [] := by
        rintro rfl
        simp at htaken
      rw [← pushBack_of_ne_nil hbytes]
      refine ⟨?_, ?_, ?_, ?_⟩
      · rw [data_pushBack, data_pushBack, ← List.append_assoc, List.take_append_drop]
      · rw [fault?_pushBack, fault?_pushBack]
      · rw [behind_pushBack, behind_pushBack]
      · intro count _
        rw [skip_pushBack, skip_pushBack, List.drop_drop, List.length_drop, List.length_take]
        rcases Nat.le_total room bytes.length with hroom | hroom
        · rw [Nat.min_eq_left hroom]
          congr 2
          omega
        · rw [Nat.min_eq_right hroom, List.drop_eq_nil_of_le (by omega),
            List.drop_eq_nil_of_le (by omega)]
          congr 2
          omega

theorem advances_of_interrupted {failure : Fault} (h : failure.kind = .interrupted)
    (rest : Input) : Advances (.fault failure :: rest) [] rest := by
  refine ⟨?_, ?_, ?_, ?_⟩
  · rw [data_cons]
    simp [h, ReadStep.bytes]
  · rw [fault?_cons]
    simp [h]
  · rw [behind_cons]
    simp [h]
  · intro count hcount
    obtain ⟨count, rfl⟩ : ∃ less, count = less + 1 := ⟨count - 1, by simp at hcount; omega⟩
    simp [skip, ReadStep.bytes]

/-- A read that finds nothing has met the end. -/
theorem of_read_nil {room : Nat} (hroom : 0 < room) {input rest : Input}
    (h : read room input = (.bytes [], rest)) :
    input.data = [] ∧ input.fault? = none ∧ input.behind = rest := by
  match input with
  | [] =>
      simp only [read, Prod.mk.injEq, true_and] at h
      exact ⟨rfl, rfl, h⟩
  | .endOfFile :: tail =>
      simp only [read, Prod.mk.injEq, true_and] at h
      rw [data_cons, fault?_cons, behind_cons, ← h]
      exact ⟨rfl, rfl, rfl⟩
  | .data bytes :: tail =>
      simp only [read, Prod.mk.injEq, ReadResult.bytes.injEq] at h
      obtain ⟨htaken, rfl⟩ := h
      have hbytes : bytes = [] := by
        rcases List.take_eq_nil_iff.mp htaken with hzero | hnil
        · omega
        · exact hnil
      subst hbytes
      rw [data_cons, fault?_cons, behind_cons, List.drop_nil]
      exact ⟨rfl, rfl, rfl⟩
  | .fault _ :: _ => simp [read] at h

/-- A read that fails for good has met the end. -/
theorem of_read_failed {room : Nat} {input rest : Input} {failure : Fault}
    (h : read room input = (.failed failure, rest)) (hkind : failure.kind ≠ .interrupted) :
    input.data = [] ∧ input.fault? = some failure ∧ input.behind = rest := by
  rw [eq_cons_of_read_failed h, data_cons, fault?_cons, behind_cons]
  simp [hkind, ReadStep.fault?]

/-! ## Inputs that no reader tells apart -/

/-- Two inputs have the same bytes and end in the same way. -/
structure Alike (input other : Input) : Prop where
  data_eq : input.data = other.data
  fault?_eq : input.fault? = other.fault?

theorem Alike.append_left {input other : Input} (h : Alike input other) (front : Input) :
    Alike (front ++ input) (front ++ other) := by
  induction front with
  | nil => exact h
  | cons step front ih =>
      refine ⟨?_, ?_⟩
      · rw [List.cons_append, List.cons_append, data_cons, data_cons, ih.data_eq]
      · rw [List.cons_append, List.cons_append, fault?_cons, fault?_cons, ih.fault?_eq]

theorem alike_interrupted {failure : Fault} (h : failure.kind = .interrupted) (rest : Input) :
    Alike (.fault failure :: rest) rest := by
  have hadvances := advances_of_interrupted h rest
  exact ⟨hadvances.data_eq, hadvances.fault?_eq.symm⟩

theorem alike_cut {first second : List UInt8} (hfirst : first ≠ []) (hsecond : second ≠ [])
    (rest : Input) :
    Alike (.data first :: .data second :: rest) (.data (first ++ second) :: rest) := by
  have hboth : first ++ second ≠ [] := by simp [hfirst]
  rw [← pushBack_of_ne_nil hfirst, ← pushBack_of_ne_nil hsecond, ← pushBack_of_ne_nil hboth]
  refine ⟨?_, ?_⟩
  · rw [data_pushBack, data_pushBack, data_pushBack, List.append_assoc]
  · rw [fault?_pushBack, fault?_pushBack, fault?_pushBack]

theorem alike_nil_of_empty (rest : Input) : Alike (.data [] :: rest) [] :=
  ⟨data_cons _ _, fault?_cons _ _⟩

theorem alike_nil_of_endOfFile (rest : Input) : Alike (.endOfFile :: rest) [] :=
  ⟨data_cons _ _, fault?_cons _ _⟩

/-! ## Taking bytes in one piece -/

@[simp] theorem gather_zero (input : Input) : gather 0 input = (.ok [], input) := by
  simp [gather]

theorem gather_of_data_eq_nil {count : Nat} (hcount : 0 < count) {input : Input}
    (h : input.data = []) :
    gather count input =
      (match input.fault? with
        | none => .ok []
        | some fault => .error fault,
      input.behind) := by
  rw [gather, h, if_neg (by simp; omega)]

/-- Bytes that have been read are those that would have been taken first. -/
theorem Advances.gather_eq {input rest : Input} {taken : List UInt8}
    (h : Advances input taken rest) {count : Nat} (hcount : 0 < taken.length + count) :
    gather (taken.length + count) input =
      ((gather count rest).1.map (taken ++ ·), (gather count rest).2) := by
  unfold gather
  rw [h.data_eq, h.fault?_eq, h.behind_eq, List.length_append, h.skip_eq count hcount]
  by_cases hfits : count ≤ rest.data.length
  · rw [if_pos hfits, if_pos (by omega), List.take_length_add_append]
    rfl
  · rw [if_neg hfits, if_neg (by omega)]
    cases input.fault? <;> rfl

theorem gather_of_interrupted {count : Nat} (hcount : 0 < count) {failure : Fault}
    (h : failure.kind = .interrupted) (rest : Input) :
    gather count (.fault failure :: rest) = gather count rest := by
  have htotal : 0 < ([] : List UInt8).length + count := by simpa using hcount
  have hgather := (advances_of_interrupted h rest).gather_eq htotal
  rw [List.length_nil, Nat.zero_add] at hgather
  rw [hgather]
  rcases gather count rest with ⟨fault | bytes, left⟩
  · rfl
  · rfl

theorem gather_of_le {count : Nat} {input : Input} (h : count ≤ input.data.length) :
    gather count input = (.ok (input.data.take count), input.skip count) :=
  if_pos h

theorem gather_of_fault?_eq_none {count : Nat} {input : Input}
    (hshort : input.data.length < count) (hfault : input.fault? = none) :
    gather count input = (.ok input.data, input.behind) := by
  rw [gather, if_neg (by omega), hfault]

theorem gather_of_fault?_eq_some {count : Nat} {input : Input} {failure : Fault}
    (hshort : input.data.length < count) (hfault : input.fault? = some failure) :
    gather count input = (.error failure, input.behind) := by
  rw [gather, if_neg (by omega), hfault]

end Input

/-- Filling a frame by reads takes what one look at all the bytes would take. -/
theorem fillFrame_eq_gather (filled : List UInt8) (input : Input)
    (hfilled : filled.length ≤ frameLength) :
    fillFrame filled input =
      ((input.gather (frameLength - filled.length)).1.map (filled ++ ·),
        (input.gather (frameLength - filled.length)).2) := by
  -- A read that has not met the end has advanced, with bytes or by an interruption.
  fun_induction fillFrame filled input with
  | case1 filled input hroom rest hread =>
      obtain ⟨hdata, hfault, hbehind⟩ := Input.of_read_nil (by omega) hread
      rw [Input.gather_of_data_eq_nil (by omega) hdata, hfault, hbehind]
      simp [Except.map]
  | case2 filled input hroom byte taken rest hread ih =>
      have hadvances := Input.advances_of_read hread (by simp)
      have hlength := Input.length_read_le hread
      have hsplit : frameLength - filled.length =
          (byte :: taken).length +
            (frameLength - (filled ++ byte :: taken).length) := by
        rw [List.length_append]
        omega
      rw [ih (by rw [List.length_append]; omega), hsplit,
        hadvances.gather_eq (by rw [List.length_cons]; omega)]
      cases (rest.gather _).1 <;> simp [Except.map]
  | case3 filled input hroom failure rest hread hkind ih =>
      rw [ih hfilled, Input.eq_cons_of_read_failed hread,
        Input.gather_of_interrupted (by omega) hkind]
  | case4 filled input hroom failure rest hread hkind =>
      obtain ⟨hdata, hfault, hbehind⟩ := Input.of_read_failed hread hkind
      rw [Input.gather_of_data_eq_nil (by omega) hdata, hfault, hbehind]
      rfl
  | case5 filled input hroom =>
      have hfull : frameLength - filled.length = 0 := by omega
      rw [hfull, Input.gather_zero]
      simp [Except.map]

theorem fillFrame_nil (input : Input) : fillFrame [] input = input.gather frameLength := by
  rw [fillFrame_eq_gather [] input (by simp)]
  rcases input.gather frameLength with ⟨filled | fault, rest⟩ <;> rfl

end StreamPlot
