import StreamPlot.Sample
import StreamPlot.Decimal.Binary

/-!
# Waveforms and the samples made of them

A waveform gives a height for every index of a sequence of samples, from the
length of its period and the greatest height. Heights are computed in floats and
rounded to words at the end. The sine function is a parameter, since what is true
of a waveform holds for every function with values between -1 and 1.
-/

namespace StreamPlot

/-- The shape of a sequence of heights. -/
inductive Waveform where
  | ramp
  /-- A sine wave between 0 and the amplitude. -/
  | sine
  /-- Rises evenly to the amplitude, then drops to 0. -/
  | sawtooth
  /-- The amplitude in the first half of each period and 0 in the second. -/
  | square
  deriving DecidableEq, Repr, Inhabited

/-- An index as a word; the last word stands for all beyond it. -/
def saturate (index : UInt64) : UInt32 :=
  if index < 4294967295 then index.toUInt32 else 4294967295

namespace Waveform

/-- All waveforms, in the order in which they are listed to the user. -/
def all : List Waveform := [ramp, sine, sawtooth, square]

/-- The name of a waveform on a command line. -/
def name : Waveform → String
  | ramp => "ramp"
  | sine => "sine"
  | sawtooth => "sawtooth"
  | square => "square"

def ofName? (name : String) : Option Waveform :=
  all.find? fun waveform => waveform.name == name

/-- The waveform of a name in any case of its letters. -/
def ofNameIgnoringCase? (name : String) : Option Waveform :=
  ofName? name.toLower

/-- The part of its period that a waveform has gone through at an index. A period
of no samples counts as one. -/
def phase (index period : UInt64) : Float :=
  let period := max period 1
  (index % period).toFloat / period.toFloat

def turn : Float := 6.283185307179586

/-- The height at an index, for a given sine function. -/
def sampleWith (sine : Float → Float) (waveform : Waveform) (index period : UInt64)
    (amplitude : UInt32) : UInt32 :=
  let phase := phase index period
  let scale := amplitude.toFloat
  match waveform with
  | .ramp => saturate index
  | .sine => roundToWord (scale * (0.5 + 0.5 * sine (turn * phase)))
  | .sawtooth => roundToWord (scale * phase)
  | .square => if phase < 0.5 then amplitude else 0

def sample : Waveform → (index period : UInt64) → (amplitude : UInt32) → UInt32 :=
  sampleWith Float.sin

end Waveform

/-- What the horizontal coordinate of a made sample tells. -/
inductive GeneratorClock where
  | index
  /-- The milliseconds since the generator was set up. -/
  | elapsed
  deriving DecidableEq, Repr, Inhabited

/-- An endless sequence of made samples. -/
structure Generator where
  waveform : Waveform
  period : UInt64 := 100
  amplitude : UInt32 := 1000
  clock : GeneratorClock := .index
  index : UInt64 := 0
  deriving DecidableEq, Repr

/-- One choice in the set-up of a generator. -/
inductive GeneratorOption where
  /-- The samples in a period. None at all count as one. -/
  | period (samples : UInt64)
  | amplitude (height : UInt32)
  /-- Whether to tell the time instead of the index. -/
  | timestamps (enabled : Bool)
  deriving DecidableEq, Repr

namespace Generator

/-- Make one choice. A later choice of the same kind takes its place. -/
def configure (generator : Generator) : GeneratorOption → Generator
  | .period samples => { generator with period := max samples 1 }
  | .amplitude height => { generator with amplitude := height }
  | .timestamps enabled => { generator with clock := if enabled then .elapsed else .index }

/-- Make some choices in order. -/
def configureAll (generator : Generator) (options : List GeneratorOption) : Generator :=
  options.foldl configure generator

/-- The sample at an index of the sequence, `milliseconds` after the set-up. -/
def sampleAt (generator : Generator) (index : UInt64) (milliseconds : UInt64) : Sample where
  x := match generator.clock with
    | .index => saturate index
    | .elapsed => saturate milliseconds
  y := generator.waveform.sample index generator.period generator.amplitude

def skip (generator : Generator) (count : Nat) : Generator :=
  { generator with index := generator.index + UInt64.ofNat count }

/-- The next `count` samples, when no time passes. -/
def take (generator : Generator) (count : Nat) : List Sample :=
  (List.range count).map fun offset =>
    generator.sampleAt (generator.index + UInt64.ofNat offset) 0

/-- The frames of the next `count` samples, when no time passes. -/
def frames (generator : Generator) (count : Nat) : List UInt8 :=
  encodeAll (generator.take count)

end Generator

end StreamPlot
