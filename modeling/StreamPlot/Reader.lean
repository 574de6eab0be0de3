import StreamPlot.Input
import StreamPlot.Echo
import StreamPlot.Log

/-!
# The sample reader

A reader pulls one sample at a time from an input and echoes it. It ends once, at
the first short frame or the first failure, and then answers nothing but the end.

`Reader.steps` is the whole future of a reader: every answer up to and with the
one that ends it. The programs are written as functions of that list.
-/

namespace StreamPlot

/-- A reader of samples. -/
structure Reader where
  input : Input
  echo : Echo := .off
  count : Nat := 0
  finished : Bool := false

/-- What a reader tells the log. -/
inductive ReaderNotice where
  /-- A sample was read; its number counts from 1. -/
  | sampleRead (number : Nat) (sample : Sample)
  /-- The echo failed and is off from now on. -/
  | echoLost (fault : Fault)
  | readFailed (count : Nat) (fault : Fault)
  /-- The input ended inside a frame, of which that many bytes were there. -/
  | tailDropped (bytes : Nat)
  | ended (count : Nat)
  deriving DecidableEq, Repr, Inhabited

namespace ReaderNotice

/-- A notice as a line of the log. -/
def entry : ReaderNotice → LogEntry
  | sampleRead number sample =>
      ⟨.trace, "reader", "record #" ++ number.repr ++ " " ++ sample.text⟩
  | echoLost fault => ⟨.warn, "reader", "echo failed, disabling it: " ++ fault.message⟩
  | readFailed count fault =>
      ⟨.error, "reader", "read failed after " ++ count.repr ++ " records: " ++ fault.message⟩
  | tailDropped bytes => ⟨.debug, "reader", "discarding " ++ bytes.repr ++ " trailing bytes"⟩
  | ended count => ⟨.info, "reader", "end of stream after " ++ count.repr ++ " records"⟩

end ReaderNotice

/-- One answer of a reader. -/
structure ReaderStep where
  /-- The next sample, the end of the sequence, or a failure. -/
  result : Except Fault (Option Sample)
  /-- The reader that is left. -/
  reader : Reader
  /-- What the log is told, in order. -/
  notices : List ReaderNotice

namespace Reader

/-- A reader at the start of an input. -/
def ofInput (input : Input) (echo : Echo) : Reader where
  input := input
  echo := echo

/-- Echo a sample that has just been read. -/
def report (reader : Reader) (sample : Sample) : Reader × List ReaderNotice :=
  let (fault, echo) := reader.echo.emit sample
  ({ reader with echo }, (fault.map ReaderNotice.echoLost).toList)

/-- Read the next sample. A reader that has ended leaves its input alone. -/
def next (reader : Reader) : ReaderStep :=
  if reader.finished then ⟨.ok none, reader, []⟩
  else
    match fillFrame [] reader.input with
    | (.error fault, input) =>
        ⟨.error fault, { reader with input, finished := true },
          [.readFailed reader.count fault]⟩
    | (.ok frame, input) =>
        if frame.length < frameLength then
          ⟨.ok none, { reader with input, finished := true },
            (if frame.isEmpty then [] else [.tailDropped frame.length])
              ++ [.ended reader.count]⟩
        else
          let sample := Sample.decode frame
          let (reported, lost) :=
            { reader with input, count := reader.count + 1 : Reader }.report sample
          ⟨.ok (some sample), reported, .sampleRead reported.count sample :: lost⟩

/-- A result as an item of a sequence: none once the sequence has ended. -/
def itemOf : Except Fault (Option Sample) → Option (Except Fault Sample)
  | .ok none => none
  | .ok (some sample) => some (.ok sample)
  | .error fault => some (.error fault)

/-- The next answer as an item of a sequence. -/
def item? (reader : Reader) : Option (Except Fault Sample) :=
  itemOf reader.next.result

/-- Reporting leaves everything but the echo as it is. -/
theorem report_input (reader : Reader) (sample : Sample) :
    (reader.report sample).1.input = reader.input := rfl

/-- Each sample takes a frame from the input. -/
theorem size_next {reader : Reader} {sample : Sample}
    (h : reader.next.result = .ok (some sample)) :
    reader.next.reader.input.size < reader.input.size := by
  unfold next at h ⊢
  split at h
  next => simp at h
  next hlive =>
    rw [if_neg hlive]
    split at h
    next => simp at h
    next frame input hfill =>
      split at h
      next => simp at h
      next hfull =>
        simp only [hfull, if_false]
        have := size_fillFrame hfill
        simp only [report_input, frameLength, List.length_nil] at *
        omega

/-- All answers of a reader, up to and with the one that ends its sequence. -/
def steps (reader : Reader) : List ReaderStep :=
  let step := reader.next
  match _h : step.result with
  | .ok (some _) => step :: steps step.reader
  | _ => [step]
termination_by reader.input.size
decreasing_by exact size_next _h

/-- The samples that a reader will yield, in order. -/
def samples (reader : Reader) : List Sample :=
  reader.steps.filterMap fun step => step.result.toOption.join

/-- The failure that ends a reader's sequence, if one does. -/
def fault? (reader : Reader) : Option Fault :=
  reader.steps.findSome? fun step =>
    match step.result with
    | .error fault => some fault
    | .ok _ => none

/-- All items that a reader will yield: its samples, and last the failure that
ended it, if one did. -/
def items (reader : Reader) : List (Except Fault Sample) :=
  reader.steps.filterMap fun step => itemOf step.result

/-- The reader that is left when its sequence has ended. -/
def exhausted (reader : Reader) : Reader :=
  match reader.steps.getLast? with
  | some step => step.reader
  | none => reader

end Reader

end StreamPlot
