import StreamPlot.Proofs.Binary.Order
import StreamPlot.Proofs.Plot

/-!
# The extent of any floats

Points may have any floats as coordinates. Each interval then follows the values on its own
axis alone. If the first of them is not a number, no comparison with it succeeds and the
interval is stuck. Otherwise its ends are the least and the greatest of the values that can
be compared, and among equals, such as the two zeros, it is the first that stays.
-/

namespace StreamPlot

open Binary

/-! ## The first best value -/

/-- A comparison that orders the floats apart from those that are not numbers. -/
structure Preference (better : Float → Float → Prop) : Prop where
  comparable : ∀ {first second}, better first second →
    first.isNaN = false ∧ second.isNaN = false
  irrefl : ∀ value, ¬ better value value
  trans : ∀ {first second third}, better first second → better second third → better first third
  not_trans : ∀ {first second third}, second.isNaN = false →
    ¬ better first second → ¬ better second third → ¬ better first third

namespace Preference

theorem below : Preference (· < ·) where
  comparable := isNaN_eq_false_of_lt
  irrefl := by
    intro value hlt
    obtain ⟨level, hlevel⟩ := exists_hasLevel (isNaN_eq_false_of_lt hlt).1
    exact lt_irrefl level ((hlevel.lt_iff hlevel).mp hlt)
  trans := by
    intro first second third hlt hlt'
    obtain ⟨hfirst, hsecond⟩ := isNaN_eq_false_of_lt hlt
    obtain ⟨low, hlow⟩ := exists_hasLevel hfirst
    obtain ⟨middle, hmiddle⟩ := exists_hasLevel hsecond
    obtain ⟨high, hhigh⟩ := exists_hasLevel (isNaN_eq_false_of_lt hlt').2
    rw [hlow.lt_iff hmiddle] at hlt
    rw [hmiddle.lt_iff hhigh] at hlt'
    exact (hlow.lt_iff hhigh).mpr (hlt.trans hlt')
  not_trans := by
    intro first second third hsecond hnot hnot' hlt
    obtain ⟨hfirst, hthird⟩ := isNaN_eq_false_of_lt hlt
    obtain ⟨low, hlow⟩ := exists_hasLevel hfirst
    obtain ⟨middle, hmiddle⟩ := exists_hasLevel hsecond
    obtain ⟨high, hhigh⟩ := exists_hasLevel hthird
    rw [hlow.lt_iff hmiddle, not_lt] at hnot
    rw [hmiddle.lt_iff hhigh, not_lt] at hnot'
    rw [hlow.lt_iff hhigh] at hlt
    exact absurd (hnot'.trans hnot) (not_le.mpr hlt)

theorem flip {better : Float → Float → Prop} (h : Preference better) :
    Preference (fun first second => better second first) where
  comparable := fun hbetter => (h.comparable hbetter).symm
  irrefl := h.irrefl
  trans := fun hbetter hbetter' => h.trans hbetter' hbetter
  not_trans := fun hsecond hnot hnot' => h.not_trans hsecond hnot' hnot

theorem above : Preference (· > ·) := below.flip

end Preference

/-- No value of a list is better than this one, as far as they can be compared. -/
structure Unbeaten (better : Float → Float → Prop) (values : List Float) (value : Float) :
    Prop where
  comparable : value.isNaN = false
  unbeaten : ∀ other ∈ values, other.isNaN = false → ¬ better other value

/-- A value stands in a list and has a property that no value in front of it has. -/
def FirstWith (property : Float → Prop) (values : List Float) (value : Float) : Prop :=
  ∃ before after, values = before ++ value :: after ∧ property value ∧
    ∀ earlier ∈ before, ¬ property earlier

/-- A value is the first of the best ones of a list. -/
def FirstBest (better : Float → Float → Prop) (values : List Float) : Float → Prop :=
  FirstWith (Unbeaten better values) values

namespace FirstBest

variable {better : Float → Float → Prop} {values : List Float} {best value : Float}

theorem mem (h : FirstBest better values best) : best ∈ values := by
  obtain ⟨before, after, rfl, -, -⟩ := h
  exact List.mem_append_right before List.mem_cons_self

theorem unbeaten (h : FirstBest better values best) : Unbeaten better values best := by
  obtain ⟨before, after, -, hbest, -⟩ := h
  exact hbest

theorem single (hbetter : Preference better) (h : value.isNaN = false) :
    FirstBest better [value] value := by
  refine ⟨[], [], rfl, ⟨h, ?_⟩, by simp⟩
  intro other hother _
  rw [List.mem_singleton.mp hother]
  exact hbetter.irrefl value

/-- A better value beats all that have been seen before it. -/
theorem replace (hbetter : Preference better) (h : FirstBest better values best)
    (hvalue : better value best) : FirstBest better (values ++ [value]) value := by
  obtain ⟨hcomparable, hunbeaten⟩ := h.unbeaten
  refine ⟨values, [], rfl, ⟨(hbetter.comparable hvalue).1, ?_⟩, ?_⟩
  · intro other hother hnumber hbeaten
    rcases List.mem_append.mp hother with hold | hnew
    · exact hunbeaten other hold hnumber (hbetter.trans hbeaten hvalue)
    · rw [List.mem_singleton.mp hnew] at hbeaten
      exact hbetter.irrefl value hbeaten
  · intro earlier hearlier hstill
    have hnew : ¬ better value earlier :=
      hstill.unbeaten value (by simp) (hbetter.comparable hvalue).1
    have hold : ¬ better earlier best := hunbeaten earlier hearlier hstill.comparable
    exact hbetter.not_trans hstill.comparable hnew hold hvalue

theorem keep (h : FirstBest better values best) (hvalue : ¬ better value best) :
    FirstBest better (values ++ [value]) best := by
  obtain ⟨before, after, rfl, ⟨hcomparable, hunbeaten⟩, hfirst⟩ := h
  refine ⟨before, after ++ [value], by simp, ⟨hcomparable, ?_⟩, ?_⟩
  · intro other hother hnumber
    rcases List.mem_append.mp hother with hold | hnew
    · exact hunbeaten other hold hnumber
    · rwa [List.mem_singleton.mp hnew]
  · intro earlier hearlier hstill
    refine hfirst earlier hearlier ⟨hstill.comparable, ?_⟩
    intro other hother
    exact hstill.unbeaten other (List.mem_append_left _ hother)

end FirstBest

/-! ## One axis -/

/-- The ends of an interval are the first least and the first greatest of some values. -/
structure Span.Spans (span : Span) (values : List Float) : Prop where
  lo : FirstBest (· < ·) values span.lo
  hi : FirstBest (· > ·) values span.hi

namespace Span

variable {span wider : Span} {values more : List Float}

theorem spans_single {value : Float} (h : value.isNaN = false) : (single value).Spans [value] where
  lo := .single .below h
  hi := .single .above h

namespace Spans

theorem widen (h : span.Spans values) (value : Float) :
    (span.widen value).Spans (values ++ [value]) where
  lo := by
    change FirstBest _ _ (if value < span.lo then value else span.lo)
    split
    next hlt => exact h.lo.replace .below hlt
    next hle => exact h.lo.keep hle
  hi := by
    change FirstBest _ _ (if value > span.hi then value else span.hi)
    split
    next hlt => exact h.hi.replace .above hlt
    next hle => exact h.hi.keep hle

theorem widenAll (h : span.Spans values) (more : List Float) :
    (more.foldl Span.widen span).Spans (values ++ more) := by
  induction more generalizing span values with
  | nil => rwa [List.append_nil]
  | cons value more ih =>
    rw [← List.singleton_append, ← List.append_assoc]
    exact ih (h.widen value)

theorem lo_le_hi (h : span.Spans values) : span.lo ≤ span.hi := by
  have hunbeaten := h.lo.unbeaten
  have hcomparable := h.hi.unbeaten.comparable
  exact le_of_not_lt hunbeaten.comparable hcomparable
    (hunbeaten.unbeaten span.hi h.hi.mem hcomparable)

theorem within (h : span.Spans values) (hwider : wider.Spans (values ++ more)) :
    span.Within wider := by
  have hlo := h.lo.unbeaten.comparable
  have hhi := h.hi.unbeaten.comparable
  obtain ⟨hleast, hbelow⟩ := hwider.lo.unbeaten
  obtain ⟨hgreatest, habove⟩ := hwider.hi.unbeaten
  constructor
  · exact le_of_not_lt hleast hlo (hbelow span.lo (List.mem_append_left more h.lo.mem) hlo)
  · exact le_of_not_lt hhi hgreatest (habove span.hi (List.mem_append_left more h.hi.mem) hhi)

end Spans

/-- The interval to which a first value and those behind it lead. -/
def ofValues (first : Float) (rest : List Float) : Span := rest.foldl widen (single first)

theorem spans_ofValues {first : Float} (h : first.isNaN = false) (rest : List Float) :
    (ofValues first rest).Spans (first :: rest) :=
  (spans_single h).widenAll rest

/-- No value is below or above one that is not a number, so it stays for ever. -/
theorem ofValues_of_isNaN {first : Float} (h : first.isNaN = true) (rest : List Float) :
    ofValues first rest = single first := by
  induction rest with
  | nil => rfl
  | cons value rest ih =>
    have hwiden : (single first).widen value = single first := by
      simp [widen, single, not_lt_of_isNaN_left h, not_lt_of_isNaN_right h]
    rw [ofValues, List.foldl_cons, hwiden]
    exact ih

end Span

/-! ## Both axes -/

namespace Bounds

variable {span? : Bounds → Option Span} {coordinate : Point → Float}

/-- One coordinate of each point widens an interval of the bounds. -/
structure WidenedBy (span? : Bounds → Option Span) (coordinate : Point → Float) : Prop where
  start : span? .empty = none
  step : ∀ (bounds : Bounds) (point : Point), span? (bounds.observe point) =
    some ((span? bounds).elim (.single (coordinate point)) (·.widen (coordinate point)))

namespace WidenedBy

theorem foldl (h : WidenedBy span? coordinate) {bounds : Bounds} {span : Span}
    (hspan : span? bounds = some span) (points : List Point) :
    span? (points.foldl observe bounds) =
      some ((points.map coordinate).foldl Span.widen span) := by
  induction points generalizing bounds span with
  | nil => exact hspan
  | cons point points ih => exact ih (by rw [h.step, hspan, Option.elim_some])

theorem ofList_cons (h : WidenedBy span? coordinate) (first : Point) (rest : List Point) :
    span? (ofList (first :: rest)) =
      some (.ofValues (coordinate first) (rest.map coordinate)) :=
  h.foldl (by rw [h.step, h.start, Option.elim_none]) rest

end WidenedBy

/-- An interval of the bounds follows one coordinate of the points, whatever floats they have. -/
structure Follows (span? : Bounds → Option Span) (coordinate : Point → Float) : Prop where
  /-- The other coordinate has no influence. -/
  alone : ∀ points points' : List Point, points.map coordinate = points'.map coordinate →
    span? (ofList points) = span? (ofList points')
  none_iff : ∀ points : List Point, span? (ofList points) = none ↔ points = []
  stuck : ∀ (first : Point) (rest : List Point), (coordinate first).isNaN = true →
    span? (ofList (first :: rest)) = some ⟨coordinate first, coordinate first⟩
  spans : ∀ (first : Point) (rest : List Point), (coordinate first).isNaN = false →
    ∃ span, span? (ofList (first :: rest)) = some span ∧
      span.Spans ((first :: rest).map coordinate) ∧
      span.lo ≤ span.hi ∧
      ∀ more : List Point, ∃ wider, span? (ofList (first :: rest ++ more)) = some wider ∧
        span.Within wider

theorem WidenedBy.follows (h : WidenedBy span? coordinate) : Follows span? coordinate where
  alone := by
    intro points points' hsame
    cases points with
    | nil =>
      rw [List.map_nil, eq_comm, List.map_eq_nil_iff] at hsame
      rw [hsame]
    | cons first rest =>
      obtain ⟨first', rest', rfl, hfirst, hrest⟩ := List.map_eq_cons_iff.mp hsame.symm
      rw [h.ofList_cons, h.ofList_cons, hfirst, hrest]
  none_iff := by
    intro points
    cases points with
    | nil => exact ⟨fun _ => rfl, fun _ => h.start⟩
    | cons first rest => simp [h.ofList_cons]
  stuck := by
    intro first rest hnan
    rw [h.ofList_cons, Span.ofValues_of_isNaN hnan]
    rfl
  spans := by
    intro first rest hnumber
    have hspan := Span.spans_ofValues hnumber (rest.map coordinate)
    refine ⟨_, h.ofList_cons first rest, hspan, hspan.lo_le_hi, ?_⟩
    intro more
    have hwider := Span.spans_ofValues hnumber ((rest ++ more).map coordinate)
    rw [List.map_append, ← List.cons_append] at hwider
    refine ⟨_, h.ofList_cons first (rest ++ more), ?_⟩
    rw [List.map_append]
    exact hspan.within hwider

/-- Bounds that have seen any floats hold on each axis the first least and the first greatest
of the values that can be compared, unless the very first value cannot. -/
theorem intervals_follow_any_floats :
    Follows x? Point.x ∧ Follows y? Point.y ∧
      ∀ points : List Point, (ofList points).isEmpty = true ↔ points = [] := by
  have hx : WidenedBy x? Point.x := ⟨rfl, x?_observe⟩
  have hy : WidenedBy y? Point.y := ⟨rfl, y?_observe⟩
  refine ⟨hx.follows, hy.follows, ?_⟩
  intro points
  rw [← hx.follows.none_iff points]
  cases ofList points with
  | empty => exact ⟨fun _ => rfl, fun _ => rfl⟩
  | box x y => exact ⟨nofun, nofun⟩

end Bounds

end StreamPlot
