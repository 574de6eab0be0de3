import StreamPlot.Proofs.Decimal.Reading
import StreamPlot.Proofs.Transcript
import StreamPlot.Proofs.Wire

/-!
# Reading a transcript back

A transcript has one line for each sample: two decimal numbers in parentheses. No line holds
a line end of its own and no number is filled up, so the lines and then the numbers can be
told apart, and a transcript is read back as the samples that it tells of. What a headless
run echoes is therefore as good as its input, but for an incomplete frame at the end.
-/

namespace StreamPlot

namespace Transcript

open Decimal

/-! ## The reader -/

/-- The lines of a text in which every line has its end. -/
def lines? (text : List Char) : Option (List (List Char)) :=
  if (text.splitOn '\n').getLast? = some [] then some (text.splitOn '\n').dropLast else none

/-- A decimal number at the front of a text, and what comes behind it. -/
def number? (text : List Char) : Option (ℕ × List Char) :=
  (natural? (leadingDigits text).1).map fun number => (number, (leadingDigits text).2)

/-- Two decimal numbers in parentheses, with a comma and a blank between them. -/
def numbers? (line : List Char) : Option (ℕ × ℕ) := do
  let text ← line.dropPrefix? ['(']
  let (x, text) ← number? text
  let text ← text.dropPrefix? [',', ' ']
  let (y, text) ← number? text
  if text = [')'] then some (x, y) else none

/-- Numbers that are too large for a word are those of no sample. -/
def sampleOf? (numbers : ℕ × ℕ) : Option Sample :=
  if numbers.1 < UInt32.size ∧ numbers.2 < UInt32.size then
    some ⟨UInt32.ofNat numbers.1, UInt32.ofNat numbers.2⟩
  else none

/-- Read a text line by line. -/
def read? (text : String) : Option (List Sample) := do
  let lines ← lines? text.toList
  let numbers ← lines.mapM numbers?
  numbers.mapM sampleOf?

theorem number?_repr_append (number : ℕ) {first : Char} (h : first.isDigit = false)
    (rest : List Char) :
    number? (number.repr.toList ++ first :: rest) = some (number, first :: rest) := by
  have hsplit : leadingDigits (number.repr.toList ++ first :: rest) =
      (number.repr.toList, first :: rest) := by
    apply leadingDigits_append fun _ => isDigit_of_mem_repr
    rintro _ _ ⟨⟩
    exact h
  rw [number?, hsplit, natural?_repr]
  rfl

end Transcript

namespace Sample

open Decimal Transcript

variable (sample : Sample)

/-! ## One line -/

/-- The numbers of a sample. -/
def numbers : ℕ × ℕ := (sample.x.toNat, sample.y.toNat)

theorem echoLine_eq_text : sample.echoLine = sample.text ++ "\n" := by
  simp [echoLine, echoPieces, text, String.join_append]

theorem toList_text :
    sample.text.toList = '(' :: (sample.x.toNat.repr.toList ++ ',' :: ' ' ::
      (sample.y.toNat.repr.toList ++ [')'])) := by
  simp [text, textPieces]

theorem numbers?_text : numbers? sample.text.toList = some sample.numbers := by
  have hcomma : ','.isDigit = false := by decide
  have hclose : ')'.isDigit = false := by decide
  have hx := number?_repr_append sample.x.toNat hcomma
    (' ' :: (sample.y.toNat.repr.toList ++ [')']))
  have hy := number?_repr_append sample.y.toNat hclose []
  simp only [toList_text, numbers?, List.dropPrefix?, beq_self_eq_true, if_true, Option.bind_eq_bind,
    Option.bind_some, hx, hy, numbers]

theorem sampleOf?_numbers : sampleOf? sample.numbers = some sample := by
  have hwords : sample.x.toNat < UInt32.size ∧ sample.y.toNat < UInt32.size :=
    ⟨sample.x.toNat_lt, sample.y.toNat_lt⟩
  simp [sampleOf?, numbers, hwords]

theorem lineEnd_notMem_text : '\n' ∉ sample.text.toList := by
  have hdigits (word : UInt32) : '\n' ∉ word.toNat.repr.toList := by
    intro hmem
    exact absurd (isDigit_of_mem_repr hmem) (by decide)
  have hx := hdigits sample.x
  have hy := hdigits sample.y
  rw [toList_text]
  simp only [List.mem_cons, List.mem_append, List.not_mem_nil, or_false, hx, hy]
  decide

end Sample

namespace Transcript

/-! ## All lines -/

/-- Lines that are ended one by one are split into these lines, with nothing behind them. -/
theorem splitOn_lines {lines : List (List Char)} (h : ∀ line ∈ lines, '\n' ∉ line) :
    (lines.flatMap (· ++ ['\n'])).splitOn '\n' = lines ++ [[]] := by
  induction lines with
  | nil => rfl
  | cons line lines ih =>
      obtain ⟨hline, hlines⟩ := List.forall_mem_cons.mp h
      rw [List.flatMap_cons, List.append_assoc, List.singleton_append,
        List.splitOn_append_cons_self_of_not_mem hline, ih hlines, List.cons_append]

variable (samples : List Sample)

theorem toList_join_echoLine :
    (String.join (samples.map Sample.echoLine)).toList =
      (samples.map fun sample => sample.text.toList).flatMap (· ++ ['\n']) := by
  simp [String.toList_join, List.flatMap_map, Sample.echoLine_eq_text]

theorem lines?_echo :
    lines? (String.join (samples.map Sample.echoLine)).toList =
      some (samples.map fun sample => sample.text.toList) := by
  have hlines : ∀ line ∈ samples.map fun sample => sample.text.toList, '\n' ∉ line := by
    intro line hline
    obtain ⟨sample, -, rfl⟩ := List.mem_map.mp hline
    exact sample.lineEnd_notMem_text
  rw [lines?, toList_join_echoLine, splitOn_lines hlines, List.getLast?_concat, if_pos rfl,
    List.dropLast_concat]

theorem mapM_numbers?_text :
    (samples.map fun sample => sample.text.toList).mapM numbers? =
      some (samples.map Sample.numbers) := by
  induction samples with
  | nil => rfl
  | cons sample samples ih => simp [sample.numbers?_text, ih]

theorem mapM_sampleOf?_numbers :
    (samples.map Sample.numbers).mapM sampleOf? = some samples := by
  induction samples with
  | nil => rfl
  | cons sample samples ih => simp [sample.sampleOf?_numbers, ih]

theorem read?_echo : read? (String.join (samples.map Sample.echoLine)) = some samples := by
  rw [read?, lines?_echo]
  change ((samples.map fun sample => sample.text.toList).mapM numbers?).bind _ = _
  rw [mapM_numbers?_text]
  exact mapM_sampleOf?_numbers samples

end Transcript

/-- The whole frames of some bytes are all but an incomplete frame at the end. -/
theorem encodeAll_decodeAll_eq_take (bytes : List UInt8) :
    encodeAll (decodeAll bytes) = bytes.take (bytes.length - bytes.length % frameLength) := by
  have hlength := Nat.div_add_mod bytes.length frameLength
  rw [encodeAll_decodeAll]
  congr 1
  omega

/-- A transcript determines what it tells of. Its lines are the texts of the samples, each text
is read as the two numbers of its sample, and all of it as the samples, so no two lists of
samples have one transcript. A headless run that may echo, to an output that refuses nothing,
leaves a transcript of its input: the frames of the samples that are read from it are the
input without the incomplete frame at its end. -/
theorem transcript_tells_samples :
    (∀ sample : Sample, sample.echoLine = sample.text ++ "\n" ∧
      Transcript.numbers? sample.text.toList = some (sample.x.toNat, sample.y.toNat)) ∧
      (∀ samples : List Sample,
        let transcript := String.join (samples.map Sample.echoLine)
        Transcript.lines? transcript.toList =
            some (samples.map fun sample => sample.text.toList) ∧
          Transcript.read? transcript = some samples) ∧
      (Function.Injective fun samples : List Sample =>
        String.join (samples.map Sample.echoLine)) ∧
      ∀ (surroundings : PlotSurroundings) (command : PlotCommand) settings,
        surroundings.RunsHeadless command settings → settings.echo = true →
        surroundings.output.TakesAll →
        let bytes := surroundings.input.data
        ∃ text samples, (plot surroundings).output = .text text ∧
          Transcript.read? text = some samples ∧
          encodeAll samples = bytes.take (bytes.length - bytes.length % frameLength) := by
  refine ⟨?_, ?_, ?_, ?_⟩
  · intro sample
    exact ⟨sample.echoLine_eq_text, sample.numbers?_text⟩
  · intro samples transcript
    exact ⟨Transcript.lines?_echo samples, Transcript.read?_echo samples⟩
  · intro samples others hsame
    have hread := congrArg Transcript.read? hsame
    dsimp only at hread
    rw [Transcript.read?_echo, Transcript.read?_echo] at hread
    exact Option.some.inj hread
  · intro surroundings command settings hruns hecho houtput bytes
    refine ⟨_, decodeAll bytes, PlotSurroundings.output_plot hruns hecho houtput, ?_, ?_⟩
    · exact Transcript.read?_echo (decodeAll bytes)
    · exact encodeAll_decodeAll_eq_take bytes

/-- Two frames that come in pieces, and the beginning of a third. -/
theorem transcript_of_cut_stream :
    let input : Input := [.data [1, 0, 0, 0, 2],
      .data [0, 0, 0, 255, 255, 255, 255, 12, 0, 0, 0, 7, 7, 7]]
    ∃ text samples, (plot (.headlessOver input false)).output = .text text ∧
      Transcript.read? text = some samples ∧
      encodeAll samples = [1, 0, 0, 0, 2, 0, 0, 0, 255, 255, 255, 255, 12, 0, 0, 0] := by
  intro input
  obtain ⟨-, -, -, hheadless⟩ := transcript_tells_samples
  have hruns := PlotSurroundings.runsHeadless_headlessOver input false
  have hframes : input.data.take (input.data.length - input.data.length % frameLength) =
      [1, 0, 0, 0, 2, 0, 0, 0, 255, 255, 255, 255, 12, 0, 0, 0] := by decide
  rw [← hframes]
  exact hheadless _ _ _ hruns rfl Writer.unlimited_takesAll

end StreamPlot
