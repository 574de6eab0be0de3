import StreamPlot.Proofs.Drawing
import StreamPlot.Screen.View

/-!
# The picture stays on the screen

The layout of a chart cuts its area into parts of it, and so do the chart, the list of the newest
samples, the status line and the help with the screen. With nothing left for a part it is drawn
nowhere. So on a screen of any size, down to none at all, every stroke of the picture is on a cell
that the screen has.
-/

namespace StreamPlot

open Drawing

/-! ## The graph -/

namespace Graph

variable (graph : Graph) (left top : Nat)

/-- The cells of a graph that has its top left one at a place. -/
def area : Area := ⟨left, top, graph.width, graph.height⟩

theorem area_addAll (dots : List Dot) :
    (graph.addAll dots).area left top = graph.area left top := by
  induction dots generalizing graph with
  | nil => rfl
  | cons dot dots ih => exact ih (graph.add dot)

theorem area_addJoints (dots : List (Option Dot)) :
    (graph.addJoints dots).area left top = graph.area left top := by
  fun_induction addJoints graph dots with
  | case1 graph a b rest ih => rw [ih, area_addAll]
  | case2 graph first rest hlast ih => exact ih
  | case3 graph => rfl

theorem area_addPoints (window : Window) (style : PlotStyle) (points : List Point) :
    (graph.addPoints window style points).area left top = graph.area left top := by
  cases style with
  | line => exact (area_addJoints _ left top _).trans (area_addAll _ left top _)
  | scatter => exact area_addAll _ left top _

theorem drawing_within (color : Color) :
    (graph.drawing left top color).Within (graph.area left top) := by
  refine within_flatMap fun row hrow => within_flatMap fun column hcolumn => ?_
  rw [List.mem_range] at hrow hcolumn
  have hcell : (graph.area left top).Holds (left + column) (top + row) :=
    ⟨⟨Nat.le_add_right _ _, Nat.add_lt_add_left hcolumn left⟩,
      Nat.le_add_right _ _, Nat.add_lt_add_left hrow top⟩
  refine within_ite (fun _ => within_nil _) fun _ => within_cons.mpr ⟨hcell, ?_⟩
  exact within_ite (fun _ => within_nil _) fun _ => within_cons.mpr ⟨hcell, within_nil _⟩

end Graph

/-! ## The layout of a chart -/

namespace ChartLayout

/-- Every part of a layout is in its area, and something is left for the graph. -/
structure Fits (layout : ChartLayout) : Prop where
  graph : layout.graph.LiesIn layout.area
  someWidth : 0 < layout.graph.width
  someHeight : 0 < layout.graph.height
  labelRow : ∀ row ∈ layout.labelRow, layout.area.top ≤ row ∧ row < layout.area.bottom
  axisRow : ∀ row ∈ layout.axisRow, layout.area.top ≤ row ∧ row < layout.area.bottom
  axisColumn : ∀ column ∈ layout.axisColumn,
    layout.area.left ≤ column ∧ column < layout.area.right

theorem labelColumns_lt {area : Area} (h : 0 < area.width) (xLabels yLabels : List String) :
    labelColumns area xLabels yLabels < area.width :=
  Nat.lt_of_le_of_lt (Nat.min_le_right _ _) (Nat.div_lt_self h (by decide))

/-- The labels and the axis each take the last row that is left, unless it is the only one. -/
theorem foot_taken {top foot rest : Nat} {taken : Option Nat} (h : top ≤ foot)
    (htaken : taken = if foot > top then some foot else none)
    (hrest : rest = if taken.isSome then foot - 1 else foot) :
    (∀ row ∈ taken, top ≤ row ∧ row ≤ foot) ∧ top ≤ rest ∧ rest ≤ foot := by
  subst hrest
  by_cases hroom : foot > top
  · rw [if_pos hroom] at htaken
    subst htaken
    refine ⟨?_, Nat.le_sub_one_of_lt hroom, Nat.sub_le foot 1⟩
    rintro row ⟨⟩
    exact ⟨h, Nat.le_refl foot⟩
  · rw [if_neg hroom] at htaken
    subst htaken
    exact ⟨by simp, h, Nat.le_refl foot⟩

/-- The axis takes the first column that is left, unless it is the only one. -/
theorem column_taken {column right rest : Nat} {taken : Option Nat} (h : column < right)
    (htaken : taken = if column + 1 < right then some column else none)
    (hrest : rest = if taken.isSome then column + 1 else column) :
    (∀ axis ∈ taken, axis = column) ∧ column ≤ rest ∧ rest < right := by
  subst hrest
  by_cases hroom : column + 1 < right
  · rw [if_pos hroom] at htaken
    subst htaken
    exact ⟨by simp, Nat.le_succ column, hroom⟩
  · rw [if_neg hroom] at htaken
    subst htaken
    exact ⟨by simp, Nat.le_refl column, h⟩

theorem fits_inside {area : Area} (h : ¬ area.isEmpty) (xLabels yLabels : List String) :
    (inside area xLabels yLabels).Fits := by
  obtain ⟨hwidth, hheight⟩ := Area.not_isEmpty_iff.mp h
  have hleft : area.left ≤ area.left + labelColumns area xLabels yLabels := Nat.le_add_right _ _
  have hright : area.left + labelColumns area xLabels yLabels < area.right :=
    Nat.add_lt_add_left (labelColumns_lt hwidth xLabels yLabels) area.left
  have hbottom := Area.top_lt_bottom hheight
  unfold inside
  -- rows go to the labels and the axis from below, a column goes to the axis from the left
  extract_lets foot labelRow lineFoot axisRow graphFoot column axisColumn graphColumn
  have hfoot : area.top ≤ foot := Nat.le_sub_one_of_lt hbottom
  have hlast : foot < area.bottom := Nat.sub_one_lt_of_lt hbottom
  obtain ⟨hlabelRow, hlineFoot, hlineFootLe⟩ :
      (∀ row ∈ labelRow, area.top ≤ row ∧ row ≤ foot) ∧ area.top ≤ lineFoot ∧ lineFoot ≤ foot :=
    foot_taken hfoot rfl rfl
  obtain ⟨haxisRow, hgraphFoot, hgraphFootLe⟩ :
      (∀ row ∈ axisRow, area.top ≤ row ∧ row ≤ lineFoot) ∧
        area.top ≤ graphFoot ∧ graphFoot ≤ lineFoot :=
    foot_taken hlineFoot rfl rfl
  obtain ⟨haxisColumn, hgraphColumn, hgraphColumnLt⟩ :
      (∀ axis ∈ axisColumn, axis = column) ∧ column ≤ graphColumn ∧ graphColumn < area.right :=
    column_taken hright rfl rfl
  refine ⟨⟨Nat.le_trans hleft hgraphColumn, ?_, Nat.le_refl area.top, ?_⟩,
    Nat.sub_pos_of_lt hgraphColumnLt, Nat.succ_pos _, fun row hrow => ?_, fun row hrow => ?_,
    fun axis haxis => ?_⟩
  · exact Nat.le_of_eq (Nat.add_sub_of_le (Nat.le_of_lt hgraphColumnLt))
  · change area.top + (graphFoot - area.top + 1) ≤ area.bottom
    omega
  · obtain ⟨htop, hle⟩ := hlabelRow row hrow
    exact ⟨htop, Nat.lt_of_le_of_lt hle hlast⟩
  · obtain ⟨htop, hle⟩ := haxisRow row hrow
    exact ⟨htop, Nat.lt_of_le_of_lt (Nat.le_trans hle hlineFootLe) hlast⟩
  · rw [haxisColumn axis haxis]
    exact ⟨hleft, hright⟩

variable {layout : ChartLayout} (h : layout.Fits)

include h

theorem within_xLabels (labels : List String) : (layout.xLabels labels).Within layout.area := by
  have hleft := h.graph.left
  have hright := h.graph.right
  have hwidth := h.someWidth
  have hedge : layout.graph.right = layout.graph.left + layout.graph.width := rfl
  unfold xLabels
  split
  next row low middle high hlabel =>
    have hslot {column width : Nat} (hfrom : layout.area.left ≤ column)
        (hto : column + width ≤ layout.area.right) (alignment : Alignment) (text : String) :
        (label row column width alignment text).Within layout.area :=
      (within_label _ _ _ _ _).mono (Area.strip_liesIn (h.labelRow row hlabel) hfrom hto)
    simp only [within_append]
    exact ⟨⟨hslot (by omega) (by omega) _ _, hslot (by omega) (by omega) _ _⟩,
      hslot (by omega) (by omega) _ _⟩
  next => exact within_nil _

theorem within_yLabels {labels : List String} (hlabels : labels.length ≤ 3) :
    (layout.yLabels labels).Within layout.area := by
  have hleft := h.graph.left
  have hright := h.graph.right
  have htop := h.graph.top
  have hbottom := h.graph.bottom
  have hheight := h.someHeight
  have hfoot : layout.graph.bottom = layout.graph.top + layout.graph.height := rfl
  have hedge : layout.graph.right = layout.graph.left + layout.graph.width := rfl
  refine within_flatten_mapIdx fun index text hindex => ?_
  -- the third label is the highest, as far above the first as the graph has rows
  have hstep : index * (layout.graph.height - 1) ≤ 2 * (layout.graph.height - 1) :=
    Nat.mul_le_mul_right _ (by omega)
  exact (within_label _ _ _ _ _).mono
    (Area.strip_liesIn ⟨by omega, by omega⟩ (Nat.le_refl _) (by omega))

theorem within_axes : layout.axes.Within layout.area := by
  have hcolumn {column : Nat} (hmem : column ∈ layout.graph.columns) :
      layout.area.left ≤ column ∧ column < layout.area.right := by
    obtain ⟨hleft, hright⟩ := Area.mem_columns.mp hmem
    exact ⟨Nat.le_trans h.graph.left hleft, Nat.lt_of_lt_of_le hright h.graph.right⟩
  have hrow {row : Nat} (hmem : row ∈ layout.graph.rows) :
      layout.area.top ≤ row ∧ row < layout.area.bottom := by
    obtain ⟨htop, hbottom⟩ := Area.mem_rows.mp hmem
    exact ⟨Nat.le_trans h.graph.top htop, Nat.lt_of_lt_of_le hbottom h.graph.bottom⟩
  refine within_append.mpr ⟨within_append.mpr ⟨?_, ?_⟩, ?_⟩
  · split
    next row haxis =>
      exact within_flatMap fun column hmem =>
        within_colored ⟨hcolumn hmem, h.axisRow row haxis⟩ _ _
    next => exact within_nil _
  · split
    next column haxis =>
      exact within_flatMap fun row hmem =>
        within_colored ⟨h.axisColumn column haxis, hrow hmem⟩ _ _
    next => exact within_nil _
  · split
    next row column haxisRow haxisColumn =>
      exact within_colored ⟨h.axisColumn column haxisColumn, h.axisRow row haxisRow⟩ _ _
    next => exact within_nil _

theorem within_names (color : Color) : (layout.names color).Within layout.area := by
  have hcolumns := Area.left_lt_right h.someWidth
  have hrows := Area.top_lt_bottom h.someHeight
  have hlast : layout.graph.Holds (layout.graph.right - 1) (layout.graph.bottom - 1) :=
    ⟨⟨Nat.le_sub_one_of_lt hcolumns, Nat.sub_one_lt_of_lt hcolumns⟩,
      Nat.le_sub_one_of_lt hrows, Nat.sub_one_lt_of_lt hrows⟩
  have hfirst : layout.graph.Holds layout.graph.left layout.graph.top :=
    ⟨⟨Nat.le_refl _, hcolumns⟩, Nat.le_refl _, hrows⟩
  refine within_append.mpr ⟨?_, ?_⟩
  · exact within_ite (fun _ => within_colored (hlast.mono h.graph) _ _) fun _ => within_nil _
  · exact within_ite (fun _ => within_colored (hfirst.mono h.graph) _ _) fun _ => within_nil _

end ChartLayout

theorem Chart.drawing_within (chart : Chart) (area : Area) :
    (chart.drawing area).Within area := by
  refine within_append.mpr ⟨within_frame area _ _, ?_⟩
  refine within_ite (fun _ => within_nil _) fun h => ?_
  extract_lets xLabels yLabels layout graph
  have hfits : layout.Fits := ChartLayout.fits_inside h xLabels yLabels
  have hlabels : yLabels.length ≤ 3 := Nat.le_refl 3
  have hgraph : graph.area layout.graph.left layout.graph.top = layout.graph :=
    Graph.area_addPoints _ _ _ _ _ _
  have hpoints : (graph.drawing layout.graph.left layout.graph.top chart.color).Within
      layout.graph := hgraph ▸ graph.drawing_within _ _ _
  have hlayout : layout.area.LiesIn area := Area.inner_liesIn (Area.not_isEmpty_of_inner h)
  simp only [within_append]
  exact ⟨⟨⟨⟨(ChartLayout.within_xLabels hfits _).mono hlayout,
    (ChartLayout.within_yLabels hfits hlabels).mono hlayout⟩,
    (ChartLayout.within_axes hfits).mono hlayout⟩, hpoints.mono (hfits.graph.trans hlayout)⟩,
    (ChartLayout.within_names hfits _).mono hlayout⟩

/-! ## The parts of the picture -/

/-- An area in the middle of a screen: to the right of it is left as much as to the left or one
column more, and below it as much as above or one row more. -/
structure Area.IsCentered (area : Area) (columns rows : Nat) : Prop where
  right : area.right ≤ columns
  bottom : area.bottom ≤ rows
  across : area.left ≤ columns - area.right ∧ columns - area.right ≤ area.left + 1
  down : area.top ≤ rows - area.bottom ∧ rows - area.bottom ≤ area.top + 1

/-- A part of a screen. -/
theorem Area.part_liesIn {column row width height columns rows : Nat}
    (hright : column + width ≤ columns) (hbottom : row + height ≤ rows) :
    LiesIn ⟨column, row, width, height⟩ ⟨0, 0, columns, rows⟩ :=
  ⟨Nat.zero_le _, by simpa [right] using hright, Nat.zero_le _, by simpa [bottom] using hbottom⟩

namespace Viewer

variable (viewer : Viewer)

theorem statusDrawing_within (area : Area) : (viewer.statusDrawing area).Within area := by
  refine within_ite (fun _ => within_nil _) fun h => ?_
  obtain ⟨hwidth, hheight⟩ := Area.not_isEmpty_iff.mp h
  refine within_append.mpr ⟨within_fill area _, (within_writeLine _ _ _ _ _).mono ?_⟩
  exact Area.strip_liesIn ⟨Nat.le_refl _, Area.top_lt_bottom hheight⟩ (Nat.le_refl _)
    (Nat.le_refl _)

theorem paragraph_within (area : Area) (lines : List (List Ink × String)) :
    (paragraph area lines).Within area := by
  refine within_ite (fun _ => within_nil _) fun _ => ?_
  refine within_flatten_mapIdx fun index line hindex => ?_
  have hrow : index < area.height := Nat.lt_of_lt_of_le hindex (List.length_take_le _ _)
  exact (within_writeLine _ _ _ _ _).mono (Area.strip_liesIn
    ⟨Nat.le_add_right _ _, Nat.add_lt_add_left hrow area.top⟩ (Nat.le_refl _) (Nat.le_refl _))

/-- Inside a frame. -/
theorem paragraph_inner_within (area : Area) (lines : List (List Ink × String)) :
    (paragraph area.inner lines).Within area := by
  by_cases h : area.inner.isEmpty
  · rw [paragraph, if_pos h]
    exact within_nil area
  · exact (paragraph_within _ lines).mono (Area.inner_liesIn (Area.not_isEmpty_of_inner h))

theorem recentDrawing_within (area : Area) : (viewer.recentDrawing area).Within area :=
  within_append.mpr ⟨within_frame area _ _, paragraph_inner_within area _⟩

/-- The list of the newest samples never has more lines than its frame has rows for them. -/
theorem recentLines_fit (height : Nat) :
    viewer.recentLines height = [] ∨ (viewer.recentLines height).length + 2 ≤ height := by
  have hlength : (viewer.recentLines height).length ≤ height - 2 := by
    rw [recentLines, List.length_map, Series.takeLast_eq, List.length_drop,
      Series.size_eq_length]
    omega
  rw [← List.length_eq_zero_iff]
  omega

theorem isCentered_helpArea (width height : Nat) :
    (helpArea width height).IsCentered width height := by
  constructor <;> simp only [helpArea, helpWidth, helpHeight, Area.right, Area.bottom] <;> omega

theorem helpDrawing_within (width height : Nat) :
    (helpDrawing width height).Within (helpArea width height) := by
  refine within_append.mpr ⟨within_append.mpr ⟨within_fill _ _, within_frame _ _ _⟩, ?_⟩
  exact paragraph_inner_within _ _

theorem chartWidth_le (width : Nat) : chartWidth width ≤ width :=
  Nat.max_le.mpr ⟨Nat.min_le_left _ _, Nat.sub_le _ _⟩

theorem chartHeight_le (height : Nat) : chartHeight height ≤ height :=
  Nat.max_le.mpr ⟨Nat.min_le_left _ _, Nat.sub_le _ _⟩

theorem upperDrawing_within (width height : Nat) :
    (viewer.upperDrawing width height).Within ⟨0, 0, width, height⟩ := by
  have hchart := chartWidth_le width
  refine within_ite (fun _ => within_append.mpr ⟨?_, ?_⟩) fun _ => viewer.chart.drawing_within _
  · exact (viewer.chart.drawing_within _).mono (Area.part_liesIn (by omega) (by omega))
  · exact (viewer.recentDrawing_within _).mono (Area.part_liesIn (by omega) (by omega))

theorem drawing_within (width height : Nat) :
    (viewer.drawing width height).Within ⟨0, 0, width, height⟩ := by
  have habove := chartHeight_le height
  have hhelp := isCentered_helpArea width height
  refine within_append.mpr ⟨within_append.mpr ⟨?_, ?_⟩, ?_⟩
  · exact (viewer.upperDrawing_within _ _).mono (Area.part_liesIn (by omega) (by omega))
  · exact (viewer.statusDrawing_within _).mono (Area.part_liesIn (by omega) (by omega))
  · refine within_ite (fun _ => ?_) fun _ => within_nil _
    exact (helpDrawing_within _ _).mono (Area.part_liesIn hhelp.right hhelp.bottom)

end Viewer

/-! ## The screen -/

namespace Screen

/-- A screen has a cell for every column of every row. -/
def IsGrid (screen : Screen) : Prop := screen.cells.size = screen.width * screen.height

theorem isGrid_blank (width height : Nat) : (blank width height).IsGrid := Array.size_replicate

theorem size_paint (screen : Screen) (drawing : Drawing) :
    (screen.paint drawing).width = screen.width ∧ (screen.paint drawing).height = screen.height ∧
      (screen.paint drawing).cells.size = screen.cells.size := by
  induction drawing generalizing screen with
  | nil => exact ⟨rfl, rfl, rfl⟩
  | cons stroke rest ih =>
    have hrest := ih (screen.stroke stroke)
    simp only [stroke_width, stroke_height, stroke_size] at hrest
    exact hrest

theorem length_rows (screen : Screen) : screen.rows.length = screen.height := by
  rw [rows, List.length_map, List.length_range]

theorem length_of_mem_rows {screen : Screen} (h : screen.IsGrid) {cells : List Cell}
    (hcells : cells ∈ screen.rows) : cells.length = screen.width := by
  obtain ⟨row, hrow, rfl⟩ := List.mem_map.mp hcells
  have hend : (row + 1) * screen.width ≤ screen.cells.size := by
    rw [h, Nat.mul_comm]
    exact Nat.mul_le_mul_left _ (List.mem_range.mp hrow)
  rw [Screen.row, Array.length_toList, Array.size_extract, Nat.min_eq_left hend, ← Nat.sub_mul,
    Nat.add_sub_cancel_left, Nat.one_mul]

end Screen

namespace Area

/-- An area on a screen that has sixteen bits for a size has edges that fit them too. -/
theorem toNat_edges {area : Area} {columns rows : UInt16} (hright : area.right ≤ columns.toNat)
    (hbottom : area.bottom ≤ rows.toNat) :
    (UInt16.ofNat area.left + UInt16.ofNat area.width).toNat = area.right ∧
      (UInt16.ofNat area.top + UInt16.ofNat area.height).toNat = area.bottom := by
  rw [← UInt16.ofNat_add, ← UInt16.ofNat_add]
  exact ⟨UInt16.toNat_ofNat_of_lt (Nat.lt_of_le_of_lt hright columns.toNat_lt),
    UInt16.toNat_ofNat_of_lt (Nat.lt_of_le_of_lt hbottom rows.toNat_lt)⟩

end Area

namespace Viewer

variable (viewer : Viewer)

/-- The screen that is shown has all its rows, each with all its cells. -/
theorem screen_rows (width height : Nat) :
    (viewer.screen width height).rows.length = height ∧
      ∀ cells ∈ (viewer.screen width height).rows, cells.length = width := by
  obtain ⟨hwidth, hheight, hsize⟩ :=
    Screen.size_paint (.blank width height) (viewer.drawing width height)
  have hgrid : (viewer.screen width height).IsGrid := by
    rw [Screen.IsGrid, screen, hwidth, hheight, hsize]
    exact Screen.isGrid_blank width height
  refine ⟨(Screen.length_rows _).trans hheight, fun cells hcells => ?_⟩
  exact (Screen.length_of_mem_rows hgrid hcells).trans hwidth

/-- Whatever a viewer shows on a terminal of whatever size, the terminal gets all its cells and no
stroke is outside them. The list of the newest samples leaves room for its frame, and the help is in
the middle, with edges that sixteen bits can hold. -/
theorem picture_stays_on_screen (viewer : Viewer) (width height : UInt16) :
    let columns := width.toNat
    let rows := height.toNat
    let panel := viewer.recentLines (chartHeight rows)
    let help := helpArea columns rows
    ((viewer.screen columns rows).rows.length = rows ∧
      ∀ cells ∈ (viewer.screen columns rows).rows, cells.length = columns) ∧
    (viewer.drawing columns rows).Within ⟨0, 0, columns, rows⟩ ∧
    (panel = [] ∨ panel.length + 2 ≤ chartHeight rows) ∧
    help.IsCentered columns rows ∧
    (UInt16.ofNat help.left + UInt16.ofNat help.width).toNat = help.right ∧
    (UInt16.ofNat help.top + UInt16.ofNat help.height).toNat = help.bottom := by
  intro columns rows panel help
  have hhelp : help.IsCentered columns rows := isCentered_helpArea columns rows
  exact ⟨viewer.screen_rows columns rows, viewer.drawing_within columns rows,
    viewer.recentLines_fit _, hhelp, Area.toNat_edges hhelp.right hhelp.bottom⟩

end Viewer

end StreamPlot
