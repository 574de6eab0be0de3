import StreamPlot.Waveform

/-!
# What a generator draws

A generator is an index and some choices. Drawing a sample moves the index by one, so what is
drawn at a place is told by the place, by the waveform and by the last choice of each kind,
unless the samples tell the time.
-/

namespace StreamPlot

theorem toNat_saturate (index : UInt64) :
    (saturate index).toNat = min index.toNat 4294967295 := by
  unfold saturate
  split
  next hsmall =>
    have hlt : index.toNat < 4294967295 := UInt64.lt_iff_toNat_lt.mp hsmall
    rw [UInt64.toNat_toUInt32, Nat.min_eq_left (Nat.le_of_lt hlt)]
    omega
  next hlarge =>
    have hle : 4294967295 ≤ index.toNat :=
      Nat.not_lt.mp fun hlt => hlarge (UInt64.lt_iff_toNat_lt.mpr hlt)
    rw [Nat.min_eq_right hle]
    rfl

theorem toNat_max (first second : UInt64) :
    (max first second).toNat = max first.toNat second.toNat := by
  have hle : first ≤ second ↔ first.toNat ≤ second.toNat := UInt64.le_iff_toNat_le
  rw [show max first second = if first ≤ second then second else first from rfl]
  by_cases hordered : first ≤ second
  · rw [if_pos hordered, Nat.max_eq_right (hle.mp hordered)]
  · rw [if_neg hordered, Nat.max_eq_left (Nat.le_of_not_le fun h => hordered (hle.mpr h))]

namespace Waveform

/-! ## The samples that tell their index -/

/-- The sample that tells an index, as far as a word can, and the height there. -/
def sampleAt (waveform : Waveform) (period : UInt64) (amplitude : UInt32) (index : UInt64) :
    Sample where
  x := UInt32.ofNat (min index.toNat 4294967295)
  y := waveform.sample index period amplitude

/-- The samples at so many indices from the first on. -/
def samples (waveform : Waveform) (period : UInt64) (amplitude : UInt32) (first : UInt64)
    (count : Nat) : List Sample :=
  (List.range count).map fun offset =>
    waveform.sampleAt period amplitude (first + UInt64.ofNat offset)

variable (waveform : Waveform) (period : UInt64) (amplitude : UInt32)

/-- A period of no samples counts as one of a single sample. -/
theorem samples_max_period (first : UInt64) (count : Nat) :
    waveform.samples (max period 1) amplitude first count =
      waveform.samples period amplitude first count := by
  have hperiod : max (max period 1) 1 = max period 1 := by
    rw [← UInt64.toNat_inj, toNat_max, toNat_max, Nat.max_assoc, Nat.max_self]
  have hphase (index : UInt64) : phase index (max period 1) = phase index period := by
    simp only [phase, hperiod]
  simp only [samples, sampleAt, sample, sampleWith, hphase]

theorem samples_succ (first : UInt64) (count : Nat) :
    waveform.samples period amplitude first (count + 1) =
      waveform.sampleAt period amplitude first ::
        waveform.samples period amplitude (first + 1) count := by
  have hnext (offset : Nat) :
      first + UInt64.ofNat (offset + 1) = first + 1 + UInt64.ofNat offset := by
    rw [Nat.add_comm, UInt64.ofNat_add, UInt64.add_assoc]
    rfl
  simp only [samples, List.range_succ_eq_map, List.map_cons, List.map_map, Function.comp_def,
    Nat.succ_eq_add_one, hnext]
  simp

theorem getElem?_samples (first : UInt64) (count index : Nat) :
    (waveform.samples period amplitude first count)[index]? =
      if index < count then
        some (waveform.sampleAt period amplitude (first + UInt64.ofNat index))
      else none := by
  rw [samples, List.getElem?_map]
  by_cases hindex : index < count
  · rw [List.getElem?_range hindex, if_pos hindex]
    rfl
  · rw [List.getElem?_eq_none (by simpa using hindex), if_neg hindex]
    rfl

/-- The indices do not decrease before they run out of words. -/
theorem pairwise_samples {count : Nat} (h : count ≤ 18446744073709551616) :
    (waveform.samples period amplitude 0 count).Pairwise fun first second =>
      first.x ≤ second.x := by
  rw [samples, List.pairwise_map]
  refine List.Pairwise.imp_of_mem ?_ List.pairwise_lt_range
  intro first second hfirst hsecond hlt
  rw [List.mem_range] at hfirst hsecond
  have htoNat {index : Nat} (hindex : index < count) :
      ((0 : UInt64) + UInt64.ofNat index).toNat = index := by
    rw [UInt64.zero_add, UInt64.toNat_ofNat_of_lt' (by rw [UInt64.size]; omega)]
  rw [sampleAt, sampleAt, htoNat hfirst, htoNat hsecond, UInt32.le_iff_toNat_le,
    UInt32.toNat_ofNat_of_lt' (by rw [UInt32.size]; omega),
    UInt32.toNat_ofNat_of_lt' (by rw [UInt32.size]; omega)]
  omega

end Waveform

namespace Generator

/-! ## Drawing samples -/

/-- Draw the next sample, so many milliseconds after the set-up. -/
def next (generator : Generator) (milliseconds : UInt64) : Sample × Generator :=
  (generator.sampleAt generator.index milliseconds, generator.skip 1)

/-- Draw a sample at each of these times. -/
def draw : (generator : Generator) → (times : List UInt64) → List Sample
  | _, [] => []
  | generator, time :: times =>
      (generator.next time).1 :: draw (generator.next time).2 times

variable {generator : Generator}

theorem skip_skip (first second : Nat) :
    (generator.skip first).skip second = generator.skip (first + second) := by
  simp only [skip, UInt64.ofNat_add, UInt64.add_assoc]

theorem length_draw (times : List UInt64) : (generator.draw times).length = times.length := by
  induction times generalizing generator with
  | nil => rfl
  | cons time times ih => rw [draw, List.length_cons, List.length_cons, ih]

theorem draw_append (early late : List UInt64) :
    generator.draw (early ++ late) =
      generator.draw early ++ (generator.skip early.length).draw late := by
  induction early generalizing generator with
  | nil => simp [draw, skip]
  | cons time early ih =>
      rw [List.cons_append, draw, draw, ih, List.cons_append, next, skip_skip,
        List.length_cons, Nat.add_comm 1]

theorem sampleAt_of_index (h : generator.clock = .index) (index milliseconds : UInt64) :
    generator.sampleAt index milliseconds =
      generator.waveform.sampleAt generator.period generator.amplitude index := by
  have hsaturate : saturate index = UInt32.ofNat (min index.toNat 4294967295) := by
    rw [← toNat_saturate, UInt32.ofNat_toNat]
  rw [sampleAt, Waveform.sampleAt, h, hsaturate]

theorem take_of_index (h : generator.clock = .index) (count : Nat) :
    generator.take count =
      generator.waveform.samples generator.period generator.amplitude generator.index count := by
  simp only [take, sampleAt_of_index h, Waveform.samples]

/-- When samples are drawn does not show in samples that tell their index. -/
theorem draw_of_index (h : generator.clock = .index) (times : List UInt64) :
    generator.draw times =
      generator.waveform.samples generator.period generator.amplitude generator.index
        times.length := by
  induction times generalizing generator with
  | nil => rfl
  | cons time times ih =>
      have hskipped : (generator.skip 1).clock = .index := h
      rw [draw, next, sampleAt_of_index h, ih hskipped, List.length_cons, Waveform.samples_succ]
      rfl

end Generator

/-! ## Setting up a generator -/

namespace GeneratorOption

def period? : GeneratorOption → Option UInt64
  | .period samples => some samples
  | _ => none

def amplitude? : GeneratorOption → Option UInt32
  | .amplitude height => some height
  | _ => none

def timestamps? : GeneratorOption → Option Bool
  | .timestamps enabled => some enabled
  | _ => none

end GeneratorOption

/-- The last of the choices that are of one kind. -/
def lastChoice {α : Type} (choice? : GeneratorOption → Option α) (options : List GeneratorOption)
    (initial : α) : α :=
  (options.filterMap choice?).getLastD initial

namespace Generator

/-- If the choices of one kind decide about a field and the others leave it alone, the last
choice of the kind decides. -/
theorem field_configureAll {α β : Type} (field : Generator → β)
    (choice? : GeneratorOption → Option α) (decided : α → β)
    (hstep : ∀ generator option,
      field (configure generator option) = ((choice? option).map decided).getD (field generator))
    {generator : Generator} {initial : α} (hinitial : field generator = decided initial)
    (options : List GeneratorOption) :
    field (generator.configureAll options) = decided (lastChoice choice? options initial) := by
  -- Behind a choice of the kind, what was decided before it plays the part of `initial`.
  induction options generalizing generator initial with
  | nil => exact hinitial
  | cons option options ih =>
      have hconfigured := hstep generator option
      cases hchoice : choice? option with
      | none =>
          rw [hchoice, hinitial] at hconfigured
          rw [lastChoice, List.filterMap_cons_none hchoice]
          exact ih hconfigured
      | some value =>
          rw [hchoice] at hconfigured
          rw [lastChoice, List.filterMap_cons_some hchoice, List.getLastD_cons]
          exact ih hconfigured

/-- What no choice changes stays. -/
theorem kept_configureAll {β : Type} (field : Generator → β)
    (hstep : ∀ generator option, field (configure generator option) = field generator)
    (generator : Generator) (options : List GeneratorOption) :
    field (generator.configureAll options) = field generator := by
  induction options generalizing generator with
  | nil => rfl
  | cons option options ih => exact (ih (generator.configure option)).trans (hstep _ _)

section

variable (generator : Generator) (options : List GeneratorOption)

theorem waveform_configureAll :
    (generator.configureAll options).waveform = generator.waveform :=
  kept_configureAll waveform (fun _ option => by cases option <;> rfl) generator options

theorem index_configureAll : (generator.configureAll options).index = generator.index :=
  kept_configureAll index (fun _ option => by cases option <;> rfl) generator options

end

/-- The generator of a waveform after some choices. -/
def configured (waveform : Waveform) (options : List GeneratorOption) : Generator :=
  ({ waveform } : Generator).configureAll options

section

variable (waveform : Waveform) (options : List GeneratorOption)

theorem period_configured :
    (configured waveform options).period =
      max (lastChoice GeneratorOption.period? options 100) 1 :=
  field_configureAll period GeneratorOption.period? (max · 1)
    (fun _ option => by cases option <;> rfl) (by rfl) options

theorem amplitude_configured :
    (configured waveform options).amplitude =
      lastChoice GeneratorOption.amplitude? options 1000 :=
  field_configureAll amplitude GeneratorOption.amplitude? id
    (fun _ option => by cases option <;> rfl) rfl options

theorem clock_configured :
    (configured waveform options).clock =
      if lastChoice GeneratorOption.timestamps? options false then .elapsed else .index :=
  field_configureAll clock GeneratorOption.timestamps? (if · then .elapsed else .index)
    (fun _ option => by cases option <;> rfl) rfl options

end

/-- What a generator of a waveform draws, if its samples do not tell the time. -/
theorem draw_configured {waveform : Waveform} {options : List GeneratorOption}
    (h : lastChoice GeneratorOption.timestamps? options false = false) (times : List UInt64) :
    (configured waveform options).draw times =
      waveform.samples (max (lastChoice GeneratorOption.period? options 100) 1)
        (lastChoice GeneratorOption.amplitude? options 1000) 0 times.length := by
  have hclock : (configured waveform options).clock = .index := by
    rw [clock_configured, h]
    rfl
  have hwaveform : (configured waveform options).waveform = waveform :=
    waveform_configureAll { waveform } options
  have hindex : (configured waveform options).index = 0 := index_configureAll { waveform } options
  rw [draw_of_index hclock, hwaveform, hindex, period_configured, amplitude_configured]

/-- What is drawn behind the first samples is what a generator draws that starts at their
number. -/
theorem drop_draw_configured {waveform : Waveform} {options : List GeneratorOption}
    {first : UInt64} {early : List UInt64} (h : early.length = first.toNat)
    (times : List UInt64) :
    ((configured waveform options).draw (early ++ times)).drop first.toNat =
      draw { configured waveform options with index := first } times := by
  have hindex : (configured waveform options).index = 0 := index_configureAll { waveform } options
  have hskip : (configured waveform options).skip first.toNat =
      { configured waveform options with index := first } := by
    rw [skip, hindex, UInt64.zero_add, UInt64.ofNat_toNat]
  rw [draw_append, h, hskip, ← h, List.drop_left' (length_draw early)]

end Generator

end StreamPlot
