import StreamPlot.Screen.Chart

/-!
# Drawings that stay in their area

Every way to draw something is given an area, or a part of a row, and makes strokes on no cell
outside it. Text is cut where its room ends, so this holds for any text; a frame needs an area that
has cells at all. Whatever stays in an area stays in every area that encloses it.
-/

namespace StreamPlot

namespace Area

/-- All of an area lies in another. -/
structure LiesIn (area outer : Area) : Prop where
  left : outer.left ≤ area.left
  right : area.right ≤ outer.right
  top : outer.top ≤ area.top
  bottom : area.bottom ≤ outer.bottom

variable {area : Area}

theorem LiesIn.trans {middle outer : Area} (h : area.LiesIn middle) (h' : middle.LiesIn outer) :
    area.LiesIn outer :=
  ⟨Nat.le_trans h'.left h.left, Nat.le_trans h.right h'.right, Nat.le_trans h'.top h.top,
    Nat.le_trans h.bottom h'.bottom⟩

theorem Holds.mono {outer : Area} {column row : Nat} (h : area.Holds column row)
    (hsub : area.LiesIn outer) : outer.Holds column row := by
  obtain ⟨⟨hleft, hright⟩, htop, hbottom⟩ := h
  exact ⟨⟨Nat.le_trans hsub.left hleft, Nat.lt_of_lt_of_le hright hsub.right⟩,
    Nat.le_trans hsub.top htop, Nat.lt_of_lt_of_le hbottom hsub.bottom⟩

theorem not_isEmpty_iff : ¬ area.isEmpty ↔ 0 < area.width ∧ 0 < area.height := by
  rw [isEmpty, Bool.or_eq_true, beq_iff_eq, beq_iff_eq]
  omega

theorem left_lt_right (h : 0 < area.width) : area.left < area.right :=
  Nat.lt_add_of_pos_right h

theorem top_lt_bottom (h : 0 < area.height) : area.top < area.bottom :=
  Nat.lt_add_of_pos_right h

theorem mem_columns {column : Nat} :
    column ∈ area.columns ↔ area.left ≤ column ∧ column < area.right := by
  rw [columns, List.mem_range'_1, right]

theorem mem_rows {row : Nat} : row ∈ area.rows ↔ area.top ≤ row ∧ row < area.bottom := by
  rw [rows, List.mem_range'_1, bottom]

theorem not_isEmpty_of_inner (h : ¬ area.inner.isEmpty) : ¬ area.isEmpty := by
  obtain ⟨hwidth, hheight⟩ := not_isEmpty_iff.mp h
  exact not_isEmpty_iff.mpr
    ⟨Nat.lt_of_lt_of_le hwidth (Nat.sub_le _ _), Nat.lt_of_lt_of_le hheight (Nat.sub_le _ _)⟩

theorem inner_liesIn (h : ¬ area.isEmpty) : area.inner.LiesIn area := by
  obtain ⟨hwidth, hheight⟩ := not_isEmpty_iff.mp h
  constructor <;> simp only [inner, right, bottom] <;> omega

end Area

/-! ## Drawings put together -/

namespace Drawing

variable {area : Area} {first second : Drawing}

theorem within_nil (area : Area) : Within [] area := fun _ h => by cases h

theorem within_cons {stroke : Stroke} {rest : Drawing} :
    Within (stroke :: rest) area ↔ area.Holds stroke.column stroke.row ∧ Within rest area :=
  List.forall_mem_cons

theorem within_append : (first ++ second).Within area ↔ first.Within area ∧ second.Within area :=
  List.forall_mem_append

theorem Within.mono {drawing : Drawing} {outer : Area} (h : drawing.Within area)
    (hsub : area.LiesIn outer) : drawing.Within outer :=
  fun stroke hstroke => (h stroke hstroke).mono hsub

theorem within_flatMap {α : Type} {parts : List α} {draw : α → Drawing}
    (h : ∀ part ∈ parts, (draw part).Within area) : Within (parts.flatMap draw) area := by
  intro stroke hstroke
  obtain ⟨part, hpart, hstroke⟩ := List.mem_flatMap.mp hstroke
  exact h part hpart stroke hstroke

theorem within_flatten_mapIdx {α : Type} {parts : List α} {draw : Nat → α → Drawing}
    (h : ∀ index part, index < parts.length → (draw index part).Within area) :
    Within (parts.mapIdx draw).flatten area := by
  intro stroke hstroke
  obtain ⟨drawing, hdrawing, hstroke⟩ := List.mem_flatten.mp hstroke
  obtain ⟨index, hindex, rfl⟩ := List.mem_mapIdx.mp hdrawing
  exact h index _ hindex stroke hstroke

theorem within_ite {condition : Prop} [Decidable condition] (h : condition → first.Within area)
    (h' : ¬ condition → second.Within area) :
    Within (if condition then first else second) area := by
  split
  next hcondition => exact h hcondition
  next hcondition => exact h' hcondition

theorem within_fill (area : Area) (ink : Ink) : (area.fill ink).Within area := by
  refine within_flatMap fun row hrow => ?_
  intro stroke hstroke
  obtain ⟨column, hcolumn, rfl⟩ := List.mem_map.mp hstroke
  exact ⟨Area.mem_columns.mp hcolumn, Area.mem_rows.mp hrow⟩

theorem within_colored {column row : Nat} (h : area.Holds column row) (symbol : String)
    (color : Color) : Within (colored column row symbol color) area :=
  within_cons.mpr ⟨h, within_cons.mpr ⟨h, within_nil area⟩⟩

end Drawing

/-! ## Text -/

/-- A part of a row. -/
def Area.strip (row column width : Nat) : Area := ⟨column, row, width, 1⟩

theorem Area.strip_holds {row start width column : Nat} (h : start ≤ column)
    (h' : column < start + width) : (strip row start width).Holds column row :=
  ⟨⟨h, h'⟩, Nat.le_refl row, Nat.lt_succ_self row⟩

theorem Area.strip_liesIn {area : Area} {row start width : Nat}
    (hrow : area.top ≤ row ∧ row < area.bottom) (hleft : area.left ≤ start)
    (hright : start + width ≤ area.right) : (strip row start width).LiesIn area :=
  ⟨hleft, hright, hrow.1, hrow.2⟩

theorem Area.strip_liesIn_strip {row start width start' width' : Nat} (h : start' ≤ start)
    (h' : start + width ≤ start' + width') :
    (strip row start width).LiesIn (strip row start' width') :=
  strip_liesIn ⟨Nat.le_refl row, Nat.lt_succ_self row⟩ h h'

section

open Drawing

variable {row : Nat}

/-- A piece of a heading stays between its start and the end of its room. -/
theorem within_headingFrom {start room : Nat} (hroom : 0 < room) {begun : Bool} {column : Nat}
    (hcolumn : start ≤ column) (hbegun : begun = false → column = start) (symbols : List Symbol) :
    (headingFrom row start (start + room) begun column symbols).Within
      (.strip row start room) := by
  induction symbols generalizing begun column with
  | nil => exact within_nil _
  | cons symbol rest ih =>
    rw [headingFrom]
    refine within_ite (fun _ => within_nil _) fun hfits => ?_
    have hnext : start ≤ column + symbol.width := Nat.le_add_right_of_le hcolumn
    refine within_cons.mpr ⟨?_, within_append.mpr ⟨?_, ih hnext (by simp)⟩⟩
    · have hstart : (Area.strip row start room).Holds start row :=
        Area.strip_holds (Nat.le_refl start) (Nat.lt_add_of_pos_right hroom)
      have hwide (h : symbol.width ≠ 0) : (Area.strip row start room).Holds column row :=
        Area.strip_holds hcolumn (by omega)
      -- a mark goes to the cell before, which is there unless the piece has just begun
      split
      next hnew =>
        rw [hbegun (by simpa using hnew)]
        exact hstart
      next =>
        split
        next hfirst =>
          rw [beq_iff_eq.mp hfirst]
          exact hstart
        next hlater =>
          rw [beq_iff_eq] at hlater
          split
          next =>
            have hbefore : (Area.strip row start room).Holds (column - 1) row :=
              Area.strip_holds (by omega) (by omega)
            exact hbefore
          next hsymbol => exact hwide (by simpa using hsymbol)
    · intro stroke hstroke
      obtain ⟨hidden, hhidden, rfl⟩ := List.mem_map.mp hstroke
      rw [List.mem_range'_1] at hhidden
      have hbehind : (Area.strip row start room).Holds hidden row :=
        Area.strip_holds (by omega) (by omega)
      exact hbehind

theorem within_headingPieces {start room : Nat} {column : Nat} (hcolumn : start ≤ column)
    (pieces : List String) :
    (headingPieces row (start + room) column pieces).Within (.strip row start room) := by
  induction pieces generalizing column with
  | nil => exact within_nil _
  | cons piece rest ih =>
    rw [headingPieces]
    refine within_ite (fun _ => ih hcolumn) fun _ => within_ite (fun hbefore => ?_) fun _ =>
      within_nil _
    refine within_append.mpr ⟨?_, ih (Nat.le_add_right_of_le hcolumn)⟩
    obtain ⟨left, hleft⟩ := Nat.exists_eq_add_of_lt hbefore
    have hpiece : (headingFrom row column (column + (left + 1)) false column
        (symbols piece)).Within (.strip row column (left + 1)) :=
      within_headingFrom (Nat.succ_pos left) (Nat.le_refl column) (fun _ => rfl) _
    rw [hleft, Nat.add_assoc]
    exact hpiece.mono (Area.strip_liesIn_strip hcolumn (by omega))

theorem within_heading (row column width : Nat) (text : String) :
    (heading row column width text).Within (.strip row column width) := by
  refine (within_headingPieces (Nat.le_refl column) _).mono ?_
  exact Area.strip_liesIn_strip (Nat.le_refl column) (by omega)

/-- The symbols that fit are written where there is still room. -/
theorem within_writeSymbols (column width used : Nat) (inks : List Ink) (symbols : List Symbol) :
    (writeSymbols row inks (column + used) (fitting width used symbols)).Within
      (.strip row column width) := by
  fun_induction fitting width used symbols with
  | case1 => exact within_nil _
  | case2 used symbol rest hwide ih => exact ih
  | case3 used symbol rest _ hfull => exact within_nil _
  | case4 used symbol rest _ hroom hnone ih => exact ih
  | case5 used symbol rest _ hroom hsome ih =>
    rw [beq_iff_eq] at hsome
    have hhere : (Area.strip row column width).Holds (column + used) row :=
      Area.strip_holds (Nat.le_add_right column used) (by omega)
    rw [writeSymbols, Nat.add_assoc]
    refine within_append.mpr ⟨?_, ih⟩
    intro stroke hstroke
    obtain ⟨ink, -, rfl⟩ := List.mem_map.mp hstroke
    exact hhere

theorem within_writeLine (row column width : Nat) (inks : List Ink) (line : String) :
    (writeLine row column width inks line).Within (.strip row column width) :=
  within_writeSymbols column width 0 inks _

theorem within_label (row column width : Nat) (alignment : Alignment) (text : String) :
    (label row column width alignment text).Within (.strip row column width) := by
  rw [label]
  obtain ⟨shift, lost⟩ := alignment.place text.length width
  intro stroke hstroke
  obtain ⟨index, hindex, rfl⟩ := List.mem_mapIdx.mp hstroke
  have hshown : index < width - shift :=
    Nat.lt_of_lt_of_le hindex (List.length_take_le _ _)
  have hhere : (Area.strip row column width).Holds (column + shift + index) row :=
    Area.strip_holds (by omega) (by omega)
  exact hhere

end

/-! ## Frames -/

section

open Drawing

variable {area : Area} (h : ¬ area.isEmpty)

include h

theorem within_border (color : Color) : (border area color).Within area := by
  obtain ⟨hwidth, hheight⟩ := Area.not_isEmpty_iff.mp h
  have hcolumns := Area.left_lt_right hwidth
  have hrows := Area.top_lt_bottom hheight
  have hleft : area.left ≤ area.left ∧ area.left < area.right := ⟨Nat.le_refl _, hcolumns⟩
  have hlast : area.left ≤ area.right - 1 ∧ area.right - 1 < area.right :=
    ⟨Nat.le_sub_one_of_lt hcolumns, Nat.sub_one_lt_of_lt hcolumns⟩
  have htop : area.top ≤ area.top ∧ area.top < area.bottom := ⟨Nat.le_refl _, hrows⟩
  have hfoot : area.top ≤ area.bottom - 1 ∧ area.bottom - 1 < area.bottom :=
    ⟨Nat.le_sub_one_of_lt hrows, Nat.sub_one_lt_of_lt hrows⟩
  have hside {column : Nat} (hcolumn : area.left ≤ column ∧ column < area.right) :
      Within (area.rows.flatMap fun row => colored column row "│" color) area :=
    within_flatMap fun row hrow => within_colored ⟨hcolumn, Area.mem_rows.mp hrow⟩ _ _
  have hedge {row : Nat} (hrow : area.top ≤ row ∧ row < area.bottom) :
      Within (area.columns.flatMap fun column => colored column row "─" color) area :=
    within_flatMap fun column hcolumn => within_colored ⟨Area.mem_columns.mp hcolumn, hrow⟩ _ _
  simp only [border, within_append]
  exact ⟨⟨⟨⟨⟨⟨⟨hside hleft, hedge htop⟩, hside hlast⟩, hedge hfoot⟩,
    within_colored ⟨hlast, hfoot⟩ _ _⟩, within_colored ⟨hlast, htop⟩ _ _⟩,
    within_colored ⟨hleft, hfoot⟩ _ _⟩, within_colored ⟨hleft, htop⟩ _ _⟩

end

theorem within_frame (area : Area) (title : String) (color : Color) :
    (frame area title color).Within area := by
  refine Drawing.within_ite (fun _ => Drawing.within_nil _) fun h => ?_
  obtain ⟨hwidth, hheight⟩ := Area.not_isEmpty_iff.mp h
  have hright : area.right = area.left + area.width := rfl
  refine Drawing.within_append.mpr ⟨within_border h color, (within_heading _ _ _ _).mono ?_⟩
  exact Area.strip_liesIn ⟨Nat.le_refl _, Area.top_lt_bottom hheight⟩ (Nat.le_succ _) (by omega)

end StreamPlot
