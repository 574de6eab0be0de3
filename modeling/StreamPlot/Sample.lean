/-!
# Samples and their frames

A sample is one point of the plot as it travels: two 32-bit words. On the wire
it is a frame of eight bytes, the horizontal word first and each word with its
least significant byte first. Every frame of eight bytes is a sample, so the
wire has no way to mark or to damage one.
-/

namespace StreamPlot

/-- One point of the stream, as two machine words. -/
structure Sample where
  /-- The horizontal coordinate, from the first four bytes of a frame. -/
  x : UInt32
  /-- The vertical coordinate, from the last four bytes of a frame. -/
  y : UInt32
  deriving DecidableEq, Repr, Inhabited

def frameLength : Nat := 8

/-- The number that a list of bytes denotes, least significant byte first. -/
def littleEndian : List UInt8 → Nat
  | [] => 0
  | byte :: bytes => byte.toNat + 256 * littleEndian bytes

/-- The lowest `count` bytes of a number, least significant byte first. -/
def littleEndianBytes : (count : Nat) → Nat → List UInt8
  | 0, _ => []
  | count + 1, value => UInt8.ofNat value :: littleEndianBytes count (value / 256)

@[simp] theorem littleEndianBytes_length (count value : Nat) :
    (littleEndianBytes count value).length = count := by
  induction count generalizing value with
  | zero => rfl
  | succ count ih => simp [littleEndianBytes, ih]

namespace Sample

def decode (frame : List UInt8) : Sample where
  x := UInt32.ofNat (littleEndian (frame.take 4))
  y := UInt32.ofNat (littleEndian ((frame.drop 4).take 4))

def encode (sample : Sample) : List UInt8 :=
  littleEndianBytes 4 sample.x.toNat ++ littleEndianBytes 4 sample.y.toNat

@[simp] theorem encode_length (sample : Sample) : sample.encode.length = frameLength := by
  simp [encode, frameLength]

/-- The pieces in which a sample's text is written, in order. -/
def textPieces (sample : Sample) : List String :=
  ["(", sample.x.toNat.repr, ", ", sample.y.toNat.repr, ")"]

/-- A sample as text: both words in decimal, in parentheses. -/
def text (sample : Sample) : String :=
  String.join sample.textPieces

end Sample

/-- A position on the plane in which samples are drawn. -/
structure Point where
  x : Float
  y : Float
  deriving Repr, Inhabited

/-- The point at which a sample is drawn. Every 32-bit word is a float exactly. -/
def Sample.point (sample : Sample) : Point where
  x := sample.x.toFloat
  y := sample.y.toFloat

/-- The frames of a sequence of samples, one after the other. -/
def encodeAll (samples : List Sample) : List UInt8 :=
  samples.flatMap Sample.encode

/-- The whole frames at the start of a byte sequence, decoded in order. Bytes
after the last whole frame belong to no sample. -/
def decodeAll (bytes : List UInt8) : List Sample :=
  if _ : bytes.length < frameLength then []
  else Sample.decode (bytes.take frameLength) :: decodeAll (bytes.drop frameLength)
termination_by bytes.length
decreasing_by simp [frameLength] at *; omega

end StreamPlot
