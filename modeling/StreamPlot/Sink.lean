import StreamPlot.Fault

/-!
# Sinks

A sink takes text and may take less than it is offered, nothing, or fail. How it
answers is a function of what it has taken and how often it was asked, so a sink
can stand for a file, a full disk or a pipe that closes. All text that this
program writes to a sink is plain ASCII: a character is a byte.
-/

namespace StreamPlot

/-- What a writer answers to one offer of text. -/
inductive WriteReply where
  /-- It takes that many characters, or all of them if there are fewer. -/
  | taken (count : Nat)
  /-- It fails. An interrupted write never shows here, since it is made again. -/
  | failed (fault : Fault)
  deriving DecidableEq, Repr, Inhabited

/-- How a writer answers, from the number of characters that it has taken, the
number of offers made before and the number of characters offered now. -/
structure Writer where
  reply : (taken attempts offered : Nat) → WriteReply
  /-- How it answers the request to pass on all that it has taken. -/
  flush : (taken attempts : Nat) → Option Fault := fun _ _ => none

namespace Writer

def unlimited : Writer where
  reply := fun _ _ offered => .taken offered

/-- Takes `capacity` characters in all. After that it fails with `fault`, or
takes nothing if there is none. -/
def limited (capacity : Nat) (fault : Option Fault) : Writer where
  reply := fun taken _ offered =>
    if taken < capacity then .taken (min offered (capacity - taken))
    else match fault with
      | some fault => .failed fault
      | none => .taken 0

def closed : Writer := limited 0 (some .brokenPipe)

end Writer

/-- A writer and what has become of it. -/
structure Sink where
  writer : Writer
  text : Array Char := #[]
  attempts : Nat := 0
  /-- How often it was asked to pass on what it has taken. -/
  flushes : Nat := 0

namespace Sink

/-- Write a whole text, by as many offers as it takes. A writer that takes
nothing has failed. -/
def write (sink : Sink) (text : List Char) : Except Fault Unit × Sink :=
  if text.isEmpty then (.ok (), sink)
  else
    let asked := { sink with attempts := sink.attempts + 1 }
    match sink.writer.reply sink.text.size sink.attempts text.length with
    | .failed fault => (.error fault, asked)
    | .taken 0 => (.error .writeZero, asked)
    | .taken (count + 1) =>
        write { asked with text := sink.text ++ text.take (count + 1) } (text.drop (count + 1))
termination_by text.length
decreasing_by
  cases text with
  | nil => simp at *
  | cons head tail => simp only [List.length_drop, List.length_cons]; omega

/-- Write some texts in order, up to the first that fails. -/
def writeAll (sink : Sink) : List String → Except Fault Unit × Sink
  | [] => (.ok (), sink)
  | piece :: pieces =>
      match sink.write piece.toList with
      | (.ok (), next) => next.writeAll pieces
      | (.error fault, next) => (.error fault, next)

/-- Write a whole text and ask the writer to pass it on. -/
def execute (sink : Sink) (text : String) : Except Fault Unit × Sink :=
  match sink.write text.toList with
  | (.error fault, next) => (.error fault, next)
  | (.ok (), next) =>
      let flushed := { next with flushes := next.flushes + 1 }
      match next.writer.flush next.text.size next.attempts with
      | some fault => (.error fault, flushed)
      | none => (.ok (), flushed)

/-- What a sink has taken, as one text. -/
def contents (sink : Sink) : String :=
  String.ofList sink.text.toList

end Sink

end StreamPlot
