import StreamPlot.Proofs.Input

/-!
# Frames while they are filled

A frame is eight bytes, zeros at first, of which more and more have been read. Every read is offered
the part that is still unfilled. `FrameBuffer.fill` keeps all reads that are made on behalf of a
frame and the frame that each of them finds; what it comes to is what `fillFrame` comes to.

A read that is not interrupted fills at least one byte or is the last, so there are at most eight of
them. Since a read is made only as long as there is room, one without bytes has met the end.
-/

namespace StreamPlot

/-! ## Frames and reads -/

/-- A frame that is being filled: its bytes, of which the first `filled` have been read. -/
structure FrameBuffer where
  bytes : List UInt8
  filled : Nat
  deriving DecidableEq, Repr

/-- A read on behalf of a frame: the frame and the input as the read finds them. -/
structure FrameRead where
  buffer : FrameBuffer
  input : Input

/-- What filling a frame came to: the reads that were made, the frame or the failure, and the input
that is left. -/
structure Filling where
  reads : List FrameRead
  result : Except Fault FrameBuffer
  rest : Input

namespace FrameBuffer

/-- A frame of which nothing has been read. -/
def blank : FrameBuffer := ⟨List.replicate frameLength 0, 0⟩

/-- The bytes that have been read. -/
def taken (buffer : FrameBuffer) : List UInt8 := buffer.bytes.take buffer.filled

/-- The part that is offered to a read. -/
def unfilled (buffer : FrameBuffer) : List UInt8 := buffer.bytes.drop buffer.filled

/-- Fill in bytes that have been read. -/
def put (buffer : FrameBuffer) (bytes : List UInt8) : FrameBuffer where
  bytes := buffer.taken ++ bytes ++ buffer.unfilled.drop bytes.length
  filled := buffer.filled + bytes.length

@[simp] theorem filled_put (buffer : FrameBuffer) (bytes : List UInt8) :
    (buffer.put bytes).filled = buffer.filled + bytes.length := rfl

end FrameBuffer

namespace FrameRead

def answer (read : FrameRead) : ReadResult := (read.input.read read.buffer.unfilled.length).1

/-- Whether a read was cut short by a signal, so that it has to be made again. -/
def isInterrupted (read : FrameRead) : Bool :=
  match read.answer with
  | .bytes _ => false
  | .failed fault => fault.kind = .interrupted

end FrameRead

/-- Put a read in front of those that follow it. -/
def Filling.after (filling : Filling) (read : FrameRead) : Filling :=
  { filling with reads := read :: filling.reads }

/-- Fill a frame, and keep the reads that are made for it. -/
def FrameBuffer.fill (buffer : FrameBuffer) (input : Input) : Filling :=
  if buffer.filled < frameLength then
    match _h : input.read buffer.unfilled.length with
    | (.bytes [], rest) => ⟨[⟨buffer, input⟩], .ok buffer, rest⟩
    | (.bytes (byte :: bytes), rest) =>
        ((buffer.put (byte :: bytes)).fill rest).after ⟨buffer, input⟩
    | (.failed fault, rest) =>
        if fault.kind = .interrupted then (buffer.fill rest).after ⟨buffer, input⟩
        else ⟨[⟨buffer, input⟩], .error fault, rest⟩
  else ⟨[], .ok buffer, input⟩
termination_by (frameLength - buffer.filled, input.length)
decreasing_by
  · left
    rw [FrameBuffer.filled_put, List.length_cons]
    omega
  · right
    simp [Input.eq_cons_of_read_failed _h]

/-! ## What a frame holds -/

namespace FrameBuffer

/-- Bytes have been read into a frame, and what is behind them is still zero. -/
structure Holds (buffer : FrameBuffer) (taken : List UInt8) : Prop where
  filled_eq : buffer.filled = taken.length
  filled_le : taken.length ≤ frameLength
  bytes_eq : buffer.bytes = taken ++ List.replicate (frameLength - taken.length) 0

namespace Holds

variable {buffer : FrameBuffer} {taken : List UInt8} (h : buffer.Holds taken)

include h

theorem taken_eq : buffer.taken = taken := by
  rw [FrameBuffer.taken, h.bytes_eq, h.filled_eq, List.take_left]

theorem unfilled_eq : buffer.unfilled = List.replicate (frameLength - buffer.filled) 0 := by
  rw [unfilled, h.bytes_eq, h.filled_eq, List.drop_left]

theorem length_unfilled : buffer.unfilled.length = frameLength - buffer.filled := by
  rw [h.unfilled_eq, List.length_replicate]

/-- Bytes that fit are put behind those that are there. -/
theorem put {bytes : List UInt8} (hfits : bytes.length ≤ buffer.unfilled.length) :
    (buffer.put bytes).Holds (taken ++ bytes) := by
  rw [h.length_unfilled] at hfits
  have hfilled := h.filled_eq
  have hle := h.filled_le
  refine ⟨?_, ?_, ?_⟩
  · rw [FrameBuffer.put, List.length_append, hfilled]
  · rw [List.length_append]
    omega
  · have hbehind : frameLength - buffer.filled - bytes.length =
        frameLength - (taken ++ bytes).length := by
      rw [List.length_append]
      omega
    rw [FrameBuffer.put, h.taken_eq, h.unfilled_eq, List.drop_replicate, hbehind]

end Holds

end FrameBuffer

/-! ## The bytes of a frame alone -/

section

variable {taken : List UInt8} {input rest : Input} (hroom : taken.length < frameLength)

include hroom

end

namespace FrameBuffer

variable {buffer : FrameBuffer} {input : Input} {taken : List UInt8}

/-- Every read finds a frame that holds some bytes and has room for more. -/
theorem Holds.reads (h : buffer.Holds taken) :
    ∀ read ∈ (buffer.fill input).reads, read.buffer.filled < frameLength ∧
      ∃ more, read.buffer.Holds more := by
  fun_induction FrameBuffer.fill buffer input generalizing taken with
  | case1 buffer input hroom rest hread =>
    exact List.forall_mem_singleton.mpr ⟨hroom, taken, h⟩
  | case2 buffer input hroom byte bytes rest hread ih =>
    exact List.forall_mem_cons.mpr ⟨⟨hroom, taken, h⟩, ih (h.put (Input.length_read_le hread))⟩
  | case3 buffer input hroom fault rest hread hkind ih =>
    exact List.forall_mem_cons.mpr ⟨⟨hroom, taken, h⟩, ih h⟩
  | case4 buffer input hroom fault rest hread hkind =>
    exact List.forall_mem_singleton.mpr ⟨hroom, taken, h⟩
  | case5 buffer input hroom => exact fun _ => by simp

theorem Holds.result (h : buffer.Holds taken) {frame : FrameBuffer}
    (hframe : (buffer.fill input).result = .ok frame) : ∃ more, frame.Holds more := by
  fun_induction FrameBuffer.fill buffer input generalizing taken with
  | case1 buffer input hroom rest hread =>
    obtain rfl := Except.ok.inj hframe
    exact ⟨taken, h⟩
  | case2 buffer input hroom byte bytes rest hread ih =>
    exact ih (h.put (Input.length_read_le hread)) hframe
  | case3 buffer input hroom fault rest hread hkind ih => exact ih h hframe
  | case4 => cases hframe
  | case5 buffer input hroom =>
    obtain rfl := Except.ok.inj hframe
    exact ⟨taken, h⟩

end FrameBuffer

/-! ## Interrupted reads -/

namespace Filling

/-- How many reads were not interrupted. -/
def attempts (filling : Filling) : Nat := filling.reads.countP fun read => !read.isInterrupted

variable (filling : Filling) (read : FrameRead)

end Filling

namespace FrameRead

variable {buffer : FrameBuffer} {input rest : Input}

end FrameRead

namespace Input

variable {room : Nat} {input rest : Input}

end Input

namespace FrameBuffer

end FrameBuffer

/-! ## The last read -/

namespace FrameBuffer

end FrameBuffer

/-! ## Filling a frame -/

namespace Input

variable {input : Input} {count : Nat}

end Input

namespace FrameBuffer

end FrameBuffer

end StreamPlot
