import Mathlib
import StreamPlot.Proofs.Reader

/-!
# The wire format

A sample and its frame determine each other: decoding undoes encoding, and encoding undoes
decoding. Whole streams inherit this. A reader over the frames of some samples yields just
these samples, whatever incomplete frame stands behind them, and the frames of what a
reader yields are the whole frames that it was given.
-/

namespace StreamPlot

/-! ## Words and their bytes -/

theorem littleEndian_lt (bytes : List UInt8) : littleEndian bytes < 256 ^ bytes.length := by
  induction bytes with
  | nil => decide
  | cons byte bytes ih =>
      have hbyte : byte.toNat < 256 := byte.toNat_lt
      rw [littleEndian, List.length_cons, Nat.pow_succ]
      omega

/-- The lowest bytes of a number denote the number without the bytes above them. -/
theorem littleEndian_littleEndianBytes (count value : Nat) :
    littleEndian (littleEndianBytes count value) = value % 256 ^ count := by
  induction count generalizing value with
  | zero => rw [Nat.pow_zero, Nat.mod_one]; rfl
  | succ count ih =>
      have hpow : 256 ^ (count + 1) = 256 * 256 ^ count := Nat.pow_succ'
      have hsplit : value % (256 * 256 ^ count) =
          value % 256 + 256 * (value / 256 % 256 ^ count) := Nat.mod_mul
      rw [littleEndianBytes, littleEndian, ih, UInt8.toNat_ofNat', hpow, hsplit]

theorem littleEndianBytes_littleEndian {count : Nat} {bytes : List UInt8}
    (h : bytes.length = count) : littleEndianBytes count (littleEndian bytes) = bytes := by
  subst h
  induction bytes with
  | nil => rfl
  | cons byte bytes ih =>
      have hbyte : byte.toNat < 256 := byte.toNat_lt
      rw [littleEndian, List.length_cons, littleEndianBytes]
      congr 1
      · rw [← UInt8.toNat_inj, UInt8.toNat_ofNat']
        omega
      · rw [show (byte.toNat + 256 * littleEndian bytes) / 256 = littleEndian bytes by omega, ih]

/-- Four bytes denote a word of 32 bits. -/
theorem toNat_ofNat_littleEndian {bytes : List UInt8} (h : bytes.length = 4) :
    (UInt32.ofNat (littleEndian bytes)).toNat = littleEndian bytes := by
  have hlt := littleEndian_lt bytes
  rw [h] at hlt
  exact UInt32.toNat_ofNat_of_lt' hlt

/-! ## Samples and their frames -/

namespace Sample

variable {frame : List UInt8}

theorem toNat_x_decode (h : frame.length = frameLength) :
    (decode frame).x.toNat = littleEndian (frame.take 4) :=
  toNat_ofNat_littleEndian (by rw [List.length_take, h]; rfl)

theorem toNat_y_decode (h : frame.length = frameLength) :
    (decode frame).y.toNat = littleEndian (frame.drop 4) := by
  have hlength : (frame.drop 4).length = 4 := by rw [List.length_drop, h]; rfl
  rw [decode, List.take_of_length_le (Nat.le_of_eq hlength)]
  exact toNat_ofNat_littleEndian hlength

theorem decode_encode (sample : Sample) : decode sample.encode = sample := by
  have hx : littleEndian (littleEndianBytes 4 sample.x.toNat) = sample.x.toNat := by
    rw [littleEndian_littleEndianBytes]
    exact Nat.mod_eq_of_lt sample.x.toNat_lt
  have hy : littleEndian (littleEndianBytes 4 sample.y.toNat) = sample.y.toNat := by
    rw [littleEndian_littleEndianBytes]
    exact Nat.mod_eq_of_lt sample.y.toNat_lt
  have hfirst : sample.encode.take 4 = littleEndianBytes 4 sample.x.toNat :=
    List.take_left' (littleEndianBytes_length 4 _)
  have hsecond : sample.encode.drop 4 = littleEndianBytes 4 sample.y.toNat :=
    List.drop_left' (littleEndianBytes_length 4 _)
  rw [decode, hfirst, hsecond, List.take_of_length_le (by simp), hx, hy, UInt32.ofNat_toNat,
    UInt32.ofNat_toNat]

theorem encode_decode (h : frame.length = frameLength) : (decode frame).encode = frame := by
  have hfirst : (frame.take 4).length = 4 := by rw [List.length_take, h]; rfl
  have hsecond : (frame.drop 4).length = 4 := by rw [List.length_drop, h]; rfl
  rw [encode, toNat_x_decode h, toNat_y_decode h, littleEndianBytes_littleEndian hfirst,
    littleEndianBytes_littleEndian hsecond, List.take_append_drop]

end Sample

/-! ## Streams of samples and of bytes -/

@[simp] theorem encodeAll_cons (sample : Sample) (samples : List Sample) :
    encodeAll (sample :: samples) = sample.encode ++ encodeAll samples := List.flatMap_cons

theorem length_encodeAll (samples : List Sample) :
    (encodeAll samples).length = frameLength * samples.length := by
  induction samples with
  | nil => rfl
  | cons sample samples ih =>
      rw [encodeAll_cons, List.length_append, ih, Sample.encode_length, List.length_cons,
        Nat.mul_succ, Nat.add_comm]

/-- The frames of samples are read as these samples, and an incomplete frame behind them as
none. -/
theorem decodeAll_encodeAll_append (samples : List Sample) {tail : List UInt8}
    (h : tail.length < frameLength) : decodeAll (encodeAll samples ++ tail) = samples := by
  induction samples with
  | nil => exact decodeAll_of_lt h
  | cons sample samples ih =>
      have hlength := sample.encode_length
      have hframe : frameLength ≤ (encodeAll (sample :: samples) ++ tail).length := by
        rw [encodeAll_cons, List.length_append, List.length_append, hlength]
        omega
      rw [decodeAll_of_le hframe, encodeAll_cons, List.append_assoc, List.take_left' hlength,
        List.drop_left' hlength, ih, sample.decode_encode]

theorem decodeAll_encodeAll (samples : List Sample) : decodeAll (encodeAll samples) = samples := by
  have hnothing : ([] : List UInt8).length < frameLength := by decide
  simpa using decodeAll_encodeAll_append samples hnothing

/-- The samples of some bytes have the whole frames among these bytes as their frames. -/
theorem encodeAll_decodeAll (bytes : List UInt8) :
    encodeAll (decodeAll bytes) = bytes.take (frameLength * (bytes.length / frameLength)) := by
  fun_induction decodeAll bytes with
  | case1 bytes hshort =>
      rw [Nat.div_eq_of_lt hshort, Nat.mul_zero]
      rfl
  | case2 bytes hfull ih =>
      have hframe : frameLength ≤ bytes.length := by omega
      have hfirst : (bytes.take frameLength).length = frameLength := by
        rw [List.length_take, Nat.min_eq_left hframe]
      have hframes : bytes.length / frameLength =
          (bytes.length - frameLength) / frameLength + 1 :=
        Nat.div_eq_sub_div (by decide) hframe
      rw [encodeAll_cons, Sample.encode_decode hfirst, ih, List.length_drop, hframes,
        Nat.mul_succ, Nat.add_comm (frameLength * _), List.take_add]

/-! ## Inputs that deliver bytes -/

/-- An input delivers these bytes, in pieces of any sizes and with any reads interrupted,
and then ends. -/
structure Input.Delivers (input : Input) (bytes : List UInt8) : Prop where
  data_eq : input.data = bytes
  fault?_eq : input.fault? = none

/-- Bytes can be cut into pieces at will. -/
theorem Input.delivers_pieces {pieces : List (List UInt8)} (h : ∀ piece ∈ pieces, piece ≠ []) :
    Delivers (pieces.map .data) pieces.flatten := by
  induction pieces with
  | nil => exact ⟨rfl, rfl⟩
  | cons piece pieces ih =>
      obtain ⟨hpiece, hpieces⟩ := List.forall_mem_cons.mp h
      obtain ⟨hdata, hfault⟩ := ih hpieces
      rw [List.map_cons, ← Input.pushBack_of_ne_nil hpiece, List.flatten_cons]
      exact ⟨by rw [Input.data_pushBack, hdata], by rw [Input.fault?_pushBack, hfault]⟩

namespace Reader

/-- The samples that a reader yields are the whole frames of its input. -/
theorem samples_ofInput (input : Input) (echo : Echo) :
    (ofInput input echo).samples = decodeAll input.data := by
  have hlive : (ofInput input echo).finished = false := rfl
  have hresults : (ofInput input echo).samples =
      ((ofInput input echo).steps.map ReaderStep.result).filterMap
        fun result => result.toOption.join := by
    rw [List.filterMap_map]
    rfl
  rw [hresults, results_steps hlive, List.filterMap_append, List.filterMap_map]
  have hsamples : (decodeAll (ofInput input echo).input.data).filterMap
      ((fun result => result.toOption.join) ∘ fun sample => (.ok (some sample) :
        Except Fault (Option Sample))) = decodeAll input.data :=
    List.filterMap_some
  rw [hsamples, ending]
  cases (ofInput input echo).input.fault? <;> exact List.append_nil _

section

variable {input : Input} {bytes : List UInt8}

theorem items_of_delivers (h : input.Delivers bytes) (echo : Echo) :
    (ofInput input echo).items = (decodeAll bytes).map .ok := by
  rw [items_eq_ahead, ahead_ofInput, h.data_eq, h.fault?_eq]
  exact List.append_nil _

theorem answers_of_delivers (h : input.Delivers bytes) (echo : Echo) (call : Nat) :
    (ofInput input echo).answers call = (decodeAll bytes)[call]?.map .ok := by
  rw [answers_eq_getElem?, ← items_eq_ahead, items_of_delivers h, List.getElem?_map]

end

/-- The wire carries every sequence of samples and nothing else. A reader over the frames
of some samples, with less than a frame behind them, yields these samples and then ends,
however the bytes are cut. The frames of what a reader yields from some bytes are the whole
frames of these bytes. Either word of a frame has its least significant byte first. -/
theorem wire_carries_samples :
    (∀ samples tail input echo, tail.length < frameLength →
      Input.Delivers input (encodeAll samples ++ tail) →
        (ofInput input echo).items = samples.map .ok ∧
          ∀ call, (ofInput input echo).answers call = samples[call]?.map .ok) ∧
      (∀ bytes input echo, Input.Delivers input bytes →
        (ofInput input echo).items = (ofInput input echo).samples.map .ok ∧
          encodeAll (ofInput input echo).samples =
            bytes.take (frameLength * (bytes.length / frameLength))) ∧
      ∀ b0 b1 b2 b3 b4 b5 b6 b7 : UInt8,
        (Sample.decode [b0, b1, b2, b3, b4, b5, b6, b7]).x.toNat =
            b0.toNat + 256 * b1.toNat + 65536 * b2.toNat + 16777216 * b3.toNat ∧
          (Sample.decode [b0, b1, b2, b3, b4, b5, b6, b7]).y.toNat =
            b4.toNat + 256 * b5.toNat + 65536 * b6.toNat + 16777216 * b7.toNat := by
  refine ⟨?_, ?_, ?_⟩
  · intro samples tail input echo htail hdelivers
    have hsamples := decodeAll_encodeAll_append samples htail
    refine ⟨?_, ?_⟩
    · rw [items_of_delivers hdelivers, hsamples]
    · intro call
      rw [answers_of_delivers hdelivers, hsamples]
  · intro bytes input echo hdelivers
    rw [samples_ofInput, hdelivers.data_eq]
    exact ⟨items_of_delivers hdelivers echo, encodeAll_decodeAll bytes⟩
  · intro b0 b1 b2 b3 b4 b5 b6 b7
    rw [Sample.toNat_x_decode rfl, Sample.toNat_y_decode rfl]
    simp only [List.take_succ_cons, List.take_zero, List.drop_succ_cons, List.drop_zero,
      littleEndian]
    omega

/-- Two frames and seven bytes of a third, cut within the frames. -/
theorem wire_carries_two_samples :
    (ofInput [.data [1, 0, 0, 0, 2], .data [0, 0, 0, 255, 255, 255, 255, 128, 0, 0],
        .data [0, 7, 7, 7, 7, 7, 7, 7]] .off).items = [.ok ⟨1, 2⟩, .ok ⟨4294967295, 128⟩] := by
  obtain ⟨hframes, -, -⟩ := wire_carries_samples
  have hpieces : ∀ piece ∈ [[1, 0, 0, 0, 2], [0, 0, 0, 255, 255, 255, 255, 128, 0, 0],
      [0, 7, 7, 7, 7, 7, 7, (7 : UInt8)]], piece ≠ [] := by decide
  exact (hframes [⟨1, 2⟩, ⟨4294967295, 128⟩] [7, 7, 7, 7, 7, 7, 7] _ .off (by decide)
    (Input.delivers_pieces hpieces)).1

end Reader

end StreamPlot
