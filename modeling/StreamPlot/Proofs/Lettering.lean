import StreamPlot.Screen.View

/-!
# Plain text on a screen

In printable ASCII every character is a symbol of its own and takes one column. So a line of
it that is not longer than its room is written in full, one character to a cell.
-/

namespace StreamPlot

/-- Printable ASCII. -/
def IsPlain (c : Char) : Prop := 0x20 ≤ c.toNat ∧ c.toNat ≤ 0x7E

/-- The symbol of a plain character. -/
def plainSymbol (c : Char) : Symbol := ⟨String.ofList [c], 1⟩

/-- A text that is written one character to a cell. -/
def letters (row column : Nat) (text : List Char) : Drawing :=
  text.mapIdx fun index c => ⟨column + index, row, .symbol (String.ofList [c])⟩

@[simp] theorem letters_nil (row column : Nat) : letters row column [] = [] := rfl

@[simp] theorem letters_cons (row column : Nat) (c : Char) (text : List Char) :
    letters row column (c :: text) =
      ⟨column, row, .symbol (String.ofList [c])⟩ :: letters row (column + 1) text := by
  simp [letters, List.mapIdx_cons, Nat.add_assoc, Nat.add_comm 1]

theorem isPlain_of_isDigit {c : Char} (h : c.isDigit = true) : IsPlain c := by
  obtain ⟨hlower, hupper⟩ := Char.isDigit_iff_toNat.mp h
  exact ⟨Nat.le_trans (by decide) hlower, Nat.le_trans hupper (by decide)⟩

/-- A plain character is no control. -/
theorem IsPlain.ne_of_lt {c control : Char} (h : IsPlain c) (hcontrol : control.toNat < 0x20) :
    c ≠ control := by
  rintro rfl
  exact Nat.not_le.mpr hcontrol h.1

/-! ## Symbols -/

section

variable {c : Char}

theorem ClusterClass.of_plain (h : IsPlain c) : ClusterClass.of c = .other := by
  have hreturn : c ≠ '\r' := h.ne_of_lt (by decide)
  have hfeed : c ≠ '\n' := h.ne_of_lt (by decide)
  obtain ⟨hlower, hupper⟩ := h
  simp [ClusterClass.of, hreturn, hfeed, hlower, hupper]

/-- A plain character begins a symbol of its own. -/
theorem ClusterState.joins_plain {first : Char} (hfirst : IsPlain first) (h : IsPlain c) :
    (ClusterState.after none first).joins c = false := by
  simp [ClusterState.joins, ClusterState.after, ClusterClass.of_plain hfirst,
    ClusterClass.of_plain h]

theorem clustersFrom_plain {first : Char} {rest : List Char} (hfirst : IsPlain first)
    (hrest : ∀ c ∈ rest, IsPlain c) :
    clustersFrom (.after none first) [first] rest = (first :: rest).map fun c => [c] := by
  induction rest generalizing first with
  | nil => rfl
  | cons c rest ih =>
      obtain ⟨hc, hrest⟩ := List.forall_mem_cons.mp hrest
      rw [clustersFrom, ClusterState.joins_plain hfirst hc, ih hc hrest]
      rfl

theorem clusters_plain {text : List Char} (h : ∀ c ∈ text, IsPlain c) :
    clusters text = text.map fun c => [c] := by
  cases text with
  | nil => rfl
  | cons first rest =>
      obtain ⟨hfirst, hrest⟩ := List.forall_mem_cons.mp h
      exact clustersFrom_plain hfirst hrest

theorem textColumns_plain (h : IsPlain c) : textColumns [c] = 1 := by
  have hreturn : c ≠ '\r' := h.ne_of_lt (by decide)
  have hfeed : c ≠ '\n' := h.ne_of_lt (by decide)
  have hnarrow : c.toNat ≤ 0xA0 := Nat.le_trans h.2 (by decide)
  simp [textColumns, columnsFrom, addChar, RightContext.dropPicture, charWidth, hfeed, hreturn,
    hnarrow]

theorem symbols_plain {text : String} (h : ∀ c ∈ text.toList, IsPlain c) :
    symbols text = text.toList.map plainSymbol := by
  rw [symbols, clusters_plain h, List.map_map]
  apply List.map_congr_left
  intro c hc
  rw [Function.comp_apply, textColumns_plain (h c hc), plainSymbol]

end

/-! ## Lines -/

/-- What has room is not cut. -/
theorem fitting_plain {width used : Nat} {text : List Char} (h : used + text.length ≤ width) :
    fitting width used (text.map plainSymbol) = text.map plainSymbol := by
  induction text generalizing used with
  | nil => rfl
  | cons c text ih =>
      rw [List.length_cons] at h
      have hroom : used + 1 + text.length ≤ width := by omega
      have hsymbol : ¬ (plainSymbol c).width > width := by
        change ¬ 1 > width
        omega
      have hused : ¬ used + (plainSymbol c).width > width := by
        change ¬ used + 1 > width
        omega
      rw [List.map_cons, fitting, if_neg hsymbol, if_neg hused, if_neg (by simp [plainSymbol])]
      exact congrArg _ (ih hroom)

theorem writeSymbols_plain (row column : Nat) (text : List Char) :
    writeSymbols row [] column (text.map plainSymbol) = letters row column text := by
  induction text generalizing column with
  | nil => rfl
  | cons c text ih =>
      rw [List.map_cons, writeSymbols, ih, letters_cons]
      rfl

theorem writeLine_plain (row column : Nat) {width : Nat} {line : String}
    (hplain : ∀ c ∈ line.toList, IsPlain c) (hroom : line.length ≤ width) :
    writeLine row column width [] line = letters row column line.toList := by
  have hfits : 0 + line.toList.length ≤ width := by
    rwa [Nat.zero_add, String.length_toList]
  rw [writeLine, symbols_plain hplain, fitting_plain hfits, writeSymbols_plain]

/-- Lines that have room in an area are all written in full. -/
theorem paragraph_plain {area : Area} {lines : List String}
    (hplain : ∀ line ∈ lines, ∀ c ∈ line.toList, IsPlain c)
    (hwidth : ∀ line ∈ lines, line.length ≤ area.width) (hheight : lines.length ≤ area.height) :
    Viewer.paragraph area (lines.map fun line => ([], line)) =
      (lines.mapIdx fun index line =>
        letters (area.top + index) area.left line.toList).flatten := by
  have hwritten : (lines.map fun line => ([], line)).mapIdx (fun index line =>
        writeLine (area.top + index) area.left area.width line.1 line.2) =
      lines.mapIdx fun index line => letters (area.top + index) area.left line.toList := by
    apply List.ext_getElem (by simp)
    intro index hindex _
    rw [List.length_mapIdx, List.length_map] at hindex
    have hmem := List.getElem_mem hindex
    simp only [List.getElem_mapIdx, List.getElem_map]
    exact writeLine_plain _ _ (hplain _ hmem) (hwidth _ hmem)
  unfold Viewer.paragraph
  rw [List.take_of_length_le (by simpa using hheight), hwritten]
  split
  next hempty =>
    symm
    rw [List.flatten_eq_nil_iff]
    intro drawing hdrawing
    obtain ⟨index, hindex, rfl⟩ := List.mem_mapIdx.mp hdrawing
    -- without a row there is no line, and without a column it is empty
    have hmem := List.getElem_mem hindex
    have hlength := hwidth _ hmem
    rw [Area.isEmpty, Bool.or_eq_true, beq_iff_eq, beq_iff_eq] at hempty
    have hnothing : lines[index].toList = [] := by
      rw [← List.length_eq_zero_iff, String.length_toList]
      omega
    rw [hnothing, letters_nil]
  next => rfl

end StreamPlot
