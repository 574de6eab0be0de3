import StreamPlot.Sample
import StreamPlot.Fault

/-!
# Inputs and how frames are read from them

An input is the list of what its reads will meet. A read takes what fits into
the room that is offered and leaves the rest in front for the next read. A frame
is filled by as many reads as it takes, each of which is offered exactly the
part of the frame that is still missing.

The main statement here is that reading is paid for: every byte that a read
returns has left the input (`Input.size_read`, `size_fillFrame`).
-/

namespace StreamPlot

/-- What one or more reads of an input meet. -/
inductive ReadStep where
  /-- Bytes that are there to be read. Without any, the read finds the end of the file. -/
  | data (bytes : List UInt8)
  /-- One read that finds the end of the file. -/
  | endOfFile
  | fault (fault : Fault)
  deriving DecidableEq, Repr, Inhabited

/-- What the reads of an input meet, in order. After the last step every read
finds the end of the file. -/
abbrev Input := List ReadStep

/-- What one read answers. No bytes at all mean the end of the file. -/
inductive ReadResult where
  | bytes (bytes : List UInt8)
  | failed (fault : Fault)
  deriving DecidableEq, Repr, Inhabited

namespace ReadStep

/-- The bytes and steps that are left in a step. -/
def size : ReadStep → Nat
  | data bytes => bytes.length + 1
  | endOfFile => 1
  | fault _ => 1

end ReadStep

namespace Input

/-- All that is left in an input: its steps and their bytes. -/
def size : Input → Nat
  | [] => 0
  | step :: rest => step.size + size rest

/-- Put unread bytes back in front of an input. -/
def pushBack (bytes : List UInt8) (input : Input) : Input :=
  if bytes.isEmpty then input else .data bytes :: input

def read (room : Nat) : Input → ReadResult × Input
  | [] => (.bytes [], [])
  | .data bytes :: rest => (.bytes (bytes.take room), pushBack (bytes.drop room) rest)
  | .endOfFile :: rest => (.bytes [], rest)
  | .fault fault :: rest => (.failed fault, rest)

@[simp] theorem size_nil : size [] = 0 := rfl

@[simp] theorem size_cons (step : ReadStep) (rest : Input) :
    size (step :: rest) = step.size + size rest := rfl

theorem size_pushBack_le (bytes : List UInt8) (input : Input) :
    size (pushBack bytes input) ≤ bytes.length + 1 + size input := by
  unfold pushBack
  split
  next h => omega
  next h => simp [ReadStep.size]

/-- Every byte that a read returns has left the input. -/
theorem size_read {room : Nat} {input rest : Input} {bytes : List UInt8}
    (h : read room input = (.bytes bytes, rest)) : rest.size + bytes.length ≤ input.size := by
  match input with
  | [] => simp [read] at h; simp [h.1, h.2]
  | .data taken :: tail =>
      simp only [read, Prod.mk.injEq, ReadResult.bytes.injEq] at h
      have := size_pushBack_le (taken.drop room) tail
      rw [← h.1, ← h.2]
      simp only [List.length_drop, List.length_take, size_cons, ReadStep.size] at *
      omega
  | .endOfFile :: tail => simp [read] at h; simp [h.1, h.2]
  | .fault _ :: tail => simp [read] at h

/-- A read returns no more than fits. -/
theorem length_read_le {room : Nat} {input rest : Input} {bytes : List UInt8}
    (h : read room input = (.bytes bytes, rest)) : bytes.length ≤ room := by
  match input with
  | [] => simp [read] at h; simp [h.1]
  | .data taken :: tail =>
      simp only [read, Prod.mk.injEq, ReadResult.bytes.injEq] at h
      rw [← h.1, List.length_take]
      omega
  | .endOfFile :: tail => simp [read] at h; simp [h.1]
  | .fault _ :: tail => simp [read] at h

/-- A failed read has used up one step of the input. -/
theorem eq_cons_of_read_failed {room : Nat} {input rest : Input} {fault : Fault}
    (h : read room input = (.failed fault, rest)) : input = .fault fault :: rest := by
  match input with
  | [] => simp [read] at h
  | .data _ :: _ => simp [read] at h
  | .endOfFile :: _ => simp [read] at h
  | .fault _ :: _ => simp [read] at h; simp [h.1, h.2]

end Input

/-- Read on until the frame that begins with `filled` is complete, the file ends
or a read fails. A read that a signal cut short is made again. -/
def fillFrame (filled : List UInt8) (input : Input) : Except Fault (List UInt8) × Input :=
  if filled.length < frameLength then
    match _h : input.read (frameLength - filled.length) with
    | (.bytes [], rest) => (.ok filled, rest)
    | (.bytes (byte :: bytes), rest) => fillFrame (filled ++ byte :: bytes) rest
    | (.failed fault, rest) =>
        if fault.kind = .interrupted then fillFrame filled rest else (.error fault, rest)
  else (.ok filled, input)
termination_by (frameLength - filled.length, input.length)
decreasing_by
  · left
    simp only [List.length_append, List.length_cons]
    omega
  · right
    simp [Input.eq_cons_of_read_failed _h]

/-- Every byte of a frame has left the input. -/
theorem size_fillFrame {filled bytes : List UInt8} {input rest : Input}
    (h : fillFrame filled input = (.ok bytes, rest)) :
    rest.size + bytes.length ≤ input.size + filled.length := by
  fun_induction fillFrame filled input with
  | case1 filled input _ rest' hread =>
      have := Input.size_read hread
      simp only [Prod.mk.injEq, Except.ok.injEq] at h
      simp only [← h.1, ← h.2, List.length_nil] at *
      omega
  | case2 filled input _ byte taken rest' hread ih =>
      have := Input.size_read hread
      have := ih h
      simp only [List.length_append, List.length_cons] at *
      omega
  | case3 filled input _ fault rest' hread _ ih =>
      have := ih h
      rw [Input.eq_cons_of_read_failed hread, Input.size_cons]
      omega
  | case4 => simp at h
  | case5 filled input _ =>
      simp only [Prod.mk.injEq, Except.ok.injEq] at h
      simp [← h.1, ← h.2]

end StreamPlot
