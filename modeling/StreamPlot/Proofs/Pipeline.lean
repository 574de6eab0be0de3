import StreamPlot.Program.Generating
import StreamPlot.Proofs.Arguments
import StreamPlot.Proofs.CommandLine
import StreamPlot.Proofs.Generator
import StreamPlot.Proofs.Transcript
import StreamPlot.Proofs.Wire

/-!
# From a generator to a plot

The generating program writes the frames of the samples that it draws from the start. A
reader gets just these samples back, however the bytes come to it, and a headless run that
echoes tells of just these samples.
-/

namespace StreamPlot

/-! ## The generating program -/

theorem GenerateOption.knowsNames : GenerateOption.interface.KnowsNames where
  ofLong?_long option := by cases option <;> decide
  long_ne_empty option := by cases option <;> decide
  equals_not_mem option := by cases option <;> decide

namespace GenerateCommand

/-- The options that ask for a command. -/
def written (command : GenerateCommand) : List (WrittenOption GenerateOption) :=
  [.choice .pattern command.waveform.name, .number .intervalMs command.intervalMs.toNat,
      .number .amplitude command.amplitude.toNat, .number .period command.period.toNat]
    ++ (command.count.toList.map fun count => .number .count count.toNat)
    ++ (if command.timestamps then [.flag .timestamps] else [])
    ++ (if command.debug then [.flag .debug] else [])

/-- The command line that asks for a command. -/
def arguments (command : GenerateCommand) : List String :=
  command.written.flatMap (WrittenOption.arguments GenerateOption.interface)

theorem legible_written {command : GenerateCommand} (h : command.period ≠ 0) :
    ∀ written ∈ command.written, written.Legible GenerateOption.interface := by
  have hpattern (waveform : Waveform) :
      (WrittenOption.choice GenerateOption.pattern waveform.name).Legible
        GenerateOption.interface := by
    cases waveform <;> exact ⟨by rfl, by decide⟩
  have hword (word : UInt64) : (word.toNat : Int) ≤ 18446744073709551615 :=
    Int.ofNat_le.mpr (Nat.le_of_lt_succ word.toNat_lt)
  have hshort (word : UInt32) : (word.toNat : Int) ≤ 4294967295 :=
    Int.ofNat_le.mpr (Nat.le_of_lt_succ word.toNat_lt)
  have hperiod : (1 : Int) ≤ command.period.toNat := by
    have hne : command.period.toNat ≠ 0 := fun hzero => h (UInt64.toNat_inj.mp hzero)
    omega
  have hnatural (number : Nat) : (0 : Int) ≤ number := Int.natCast_nonneg number
  intro written hwritten
  simp only [GenerateCommand.written, List.mem_append, List.mem_cons, List.mem_map,
    List.not_mem_nil, or_false] at hwritten
  obtain (((rfl | rfl | rfl | rfl) | ⟨count, -, rfl⟩) | htimestamps) | hdebug := hwritten
  · exact hpattern command.waveform
  · exact WrittenOption.legible_number rfl (by decide) (hnatural _) (hword _)
  · exact WrittenOption.legible_number rfl (by decide) (hnatural _) (hshort _)
  · exact WrittenOption.legible_number rfl (by decide) hperiod (hword _)
  · exact WrittenOption.legible_number rfl (by decide) (hnatural _) (hword _)
  · split at htimestamps <;> simp only [List.mem_singleton, List.not_mem_nil] at htimestamps
    subst htimestamps
    rfl
  · split at hdebug <;> simp only [List.mem_singleton, List.not_mem_nil] at hdebug
    subst hdebug
    rfl

theorem ofOptions_written (command : GenerateCommand) :
    ofOptions (command.written.map WrittenOption.found) = command := by
  have hwaveform (waveform : Waveform) :
      (Waveform.ofName? waveform.name).getD .sine = waveform := by
    cases waveform <;> decide
  obtain ⟨waveform, count, intervalMs, amplitude, period, timestamps, debug⟩ := command
  cases count <;> cases timestamps <;> cases debug <;>
    simp [ofOptions, written, WrittenOption.choice, WrittenOption.number, WrittenOption.flag,
      findText, findNumber, hasOption, findOption, hwaveform]

/-- Every command with a period can be asked for. -/
theorem read_arguments {command : GenerateCommand} (h : command.period ≠ 0) :
    read command.arguments = .ok command := by
  have hdistinct : (command.written.map fun written => written.found.option).Nodup := by
    obtain ⟨waveform, count, intervalMs, amplitude, period, timestamps, debug⟩ := command
    cases count <;> cases timestamps <;> cases debug <;>
      simp [written, WrittenOption.choice, WrittenOption.number, WrittenOption.flag]
  rw [read, arguments,
    Interface.read_arguments GenerateOption.knowsNames (legible_written h) hdistinct]
  exact congrArg Except.ok command.ofOptions_written

/-- No command line asks for a period of no samples. -/
theorem period_ne_zero_of_read {arguments : List String} {command : GenerateCommand}
    (h : read arguments = .ok command) : command.period ≠ 0 := by
  unfold read at h
  cases hread : GenerateOption.interface.read arguments with
  | error stop =>
      rw [hread] at h
      cases h
  | ok found =>
      rw [hread] at h
      cases h
      cases hperiod : findNumber GenerateOption.period found with
      | none => simp [ofOptions, hperiod]
      | some number =>
          obtain ⟨value, rfl, hleast, hgreatest⟩ := exists_of_findNumber hread rfl hperiod
          have hkind : (GenerateOption.interface.form .period).kind =
              .valued "PERIOD" (.number .positive) := rfl
          have hne := ofNat_ne_zero_of_findNumber hread hkind hperiod
          simpa [ofOptions, hperiod] using hne

/-- The samples that a command asks for, if they do not tell the time. -/
def samples (command : GenerateCommand) (count : UInt64) : List Sample :=
  command.waveform.samples command.period command.amplitude 0 count.toNat

section

variable {command : GenerateCommand} {count : UInt64}

theorem getElem?_samples (index : Nat) :
    (command.samples count)[index]? =
      if index < count.toNat then
        some ⟨UInt32.ofNat (min index 4294967295),
          command.waveform.sample (UInt64.ofNat index) command.period command.amplitude⟩
      else none := by
  rw [samples, Waveform.getElem?_samples, UInt64.zero_add]
  split
  next hindex =>
    have hlt : index < UInt64.size := Nat.lt_trans hindex count.toNat_lt
    rw [Waveform.sampleAt, UInt64.toNat_ofNat_of_lt' hlt]
  next => rfl

theorem length_samples : (command.samples count).length = count.toNat := by
  rw [samples, Waveform.samples, List.length_map, List.length_range]

theorem clock_generator (h : command.timestamps = false) :
    command.generator.clock = .index := by
  have hclock : command.generator.clock = if command.timestamps then .elapsed else .index := rfl
  rw [hclock, h]
  rfl

/-- The generator of a command draws the samples that it asks for, whenever it does. -/
theorem draw_generator (h : command.timestamps = false) {times : List UInt64}
    (htimes : times.length = count.toNat) :
    command.generator.draw times = command.samples count := by
  rw [Generator.draw_of_index (clock_generator h), htimes]
  exact command.waveform.samples_max_period command.period command.amplitude 0 count.toNat

theorem output_generate {arguments : List String} {logVariable : Option String}
    (hread : read arguments = .ok command) (hcount : command.count = some count)
    (h : command.timestamps = false) :
    (generate { arguments, logVariable }).output = .bytes (encodeAll (command.samples count)) := by
  have hlimit : command.limit = count.toNat := by rw [limit, hcount, Option.getD_some]
  have htake : command.generator.take count.toNat = command.samples count := by
    rw [Generator.take_of_index (clock_generator h)]
    exact command.waveform.samples_max_period command.period command.amplitude 0 count.toNat
  simp only [generate, hread, ending, made]
  rw [Generator.frames, hlimit, htake]

end

end GenerateCommand

/-- What the generating program writes is what is plotted. Every command with a period can be
asked for, and no other. If it asks for a number of samples that do not tell the time, just
their frames are written, with whatever time between two of them. A reader of these bytes
yields just these samples, however the bytes come to it, and a headless run echoes them line
by line; their indices never decrease. What a generator draws is decided by the last choice
of each kind, and what it draws behind the first samples is what it draws if it starts
there. -/
theorem generated_frames_are_plotted :
    (∀ command : GenerateCommand,
      command.period ≠ 0 ↔ ∃ arguments, GenerateCommand.read arguments = .ok command) ∧
      (∀ arguments logVariable command count,
        GenerateCommand.read arguments = .ok command → command.count = some count →
        command.timestamps = false →
        (generate { arguments, logVariable }).output =
            .bytes (encodeAll (command.samples count)) ∧
          (encodeAll (command.samples count)).length = frameLength * count.toNat ∧
          (∀ times : List UInt64, times.length = count.toNat →
            command.generator.draw times = command.samples count) ∧
          (command.samples count).Pairwise (fun first second => first.x ≤ second.x) ∧
          ∀ input : Input, input.Delivers (encodeAll (command.samples count)) →
            (∀ echo, (Reader.ofInput input echo).items.length = count.toNat ∧
              ∀ call, (Reader.ofInput input echo).answers call =
                if call < count.toNat then
                  some (.ok ⟨UInt32.ofNat (min call 4294967295),
                    command.waveform.sample (UInt64.ofNat call) command.period
                      command.amplitude⟩)
                else none) ∧
            ∀ (surroundings : PlotSurroundings) (plotCommand : PlotCommand) settings,
              surroundings.RunsHeadless plotCommand settings → settings.echo = true →
              surroundings.output.TakesAll → surroundings.input = input →
              (plot surroundings).output =
                  .text (String.join ((command.samples count).map Sample.echoLine)) ∧
                (plot surroundings).status = 0) ∧
      (∀ waveform options times,
        lastChoice GeneratorOption.timestamps? options false = false →
        (Generator.configured waveform options).draw times =
          waveform.samples (max (lastChoice GeneratorOption.period? options 100) 1)
            (lastChoice GeneratorOption.amplitude? options 1000) 0 times.length) ∧
      ∀ waveform options (first : UInt64) (early times : List UInt64),
        early.length = first.toNat →
        ((Generator.configured waveform options).draw (early ++ times)).drop first.toNat =
          Generator.draw { Generator.configured waveform options with index := first } times := by
  refine ⟨?_, ?_, ?_, ?_⟩
  · intro command
    refine ⟨fun h => ⟨command.arguments, GenerateCommand.read_arguments h⟩, ?_⟩
    rintro ⟨arguments, hread⟩
    exact GenerateCommand.period_ne_zero_of_read hread
  · intro arguments logVariable command count hread hcount htimestamps
    have hlength : (command.samples count).length = count.toNat := GenerateCommand.length_samples
    have hcount64 : count.toNat ≤ 18446744073709551616 := Nat.le_of_lt count.toNat_lt
    refine ⟨GenerateCommand.output_generate hread hcount htimestamps, ?_, ?_, ?_, ?_⟩
    · rw [length_encodeAll, hlength]
    · intro times htimes
      exact GenerateCommand.draw_generator htimestamps htimes
    · exact command.waveform.pairwise_samples command.period command.amplitude hcount64
    · intro input hdelivers
      refine ⟨?_, ?_⟩
      · intro echo
        refine ⟨?_, ?_⟩
        · rw [Reader.items_of_delivers hdelivers, decodeAll_encodeAll, List.length_map, hlength]
        · intro call
          rw [Reader.answers_of_delivers hdelivers, decodeAll_encodeAll,
            GenerateCommand.getElem?_samples]
          split <;> rfl
      · intro surroundings plotCommand settings hruns hecho houtput hinput
        refine ⟨?_, ?_⟩
        · rw [PlotSurroundings.output_plot hruns hecho houtput, hinput, hdelivers.data_eq,
            decodeAll_encodeAll]
        · rw [PlotSurroundings.status_plot hruns, hinput, hdelivers.fault?_eq, ite_self]
          rfl
  · intro waveform options times h
    exact Generator.draw_configured h times
  · intro waveform options first early times h
    exact Generator.drop_draw_configured h times

/-- Three samples of a ramp, whose frames come in two pieces. -/
theorem ramp_of_three_is_plotted :
    let input : Input := [.data [0, 0, 0, 0, 0],
      .data [0, 0, 0, 1, 0, 0, 0, 1, 0, 0, 0, 2, 0, 0, 0, 2, 0, 0, 0]]
    (generate { arguments := ["--pattern", "ramp", "-n3"] }).output = .bytes input.data ∧
      (plot (.headlessOver input false)).output = .text "(0, 0)\n(1, 1)\n(2, 2)\n" := by
  intro input
  obtain ⟨-, hplotted, -, -⟩ := generated_frames_are_plotted
  have hbytes : encodeAll (GenerateCommand.samples { waveform := .ramp, count := some 3 } 3) =
      input.data := by decide
  obtain ⟨houtput, -, -, -, hread⟩ := hplotted ["--pattern", "ramp", "-n3"] none
    { waveform := .ramp, count := some 3 } 3 (by rfl) rfl rfl
  rw [hbytes] at houtput hread
  obtain ⟨-, hheadless⟩ := hread input ⟨rfl, rfl⟩
  have hruns := PlotSurroundings.runsHeadless_headlessOver input false
  obtain ⟨htext, -⟩ := hheadless _ _ _ hruns rfl Writer.unlimited_takesAll rfl
  exact ⟨houtput, htext.trans (by rfl)⟩

end StreamPlot
