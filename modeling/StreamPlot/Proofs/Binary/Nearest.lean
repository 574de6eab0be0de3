import Mathlib.Data.Int.Log
import Mathlib.Data.Rat.Floor
import Mathlib.Tactic.FieldSimp
import Mathlib.Tactic.Linarith
import Mathlib.Tactic.Positivity
import Mathlib.Tactic.Ring

/-!
# The nearest float

Floats are not equally dense: a float of a magnitude is a whole multiple of the spacing
there, a power of two. `Binary.nearest` takes a number to the nearest multiple of its
spacing, a tie to the even one. It is monotone, although the spacing changes from one
magnitude to the next, and it leaves every number alone that is a float already.
-/

namespace StreamPlot

/-! ## Whole numbers -/

/-- The whole number nearest to a number; a tie goes to the even neighbour. -/
def nearestWhole (number : ℚ) : ℤ :=
  let rest := number - ⌊number⌋
  if rest < 1 / 2 then ⌊number⌋
  else if 1 / 2 < rest then ⌊number⌋ + 1
  else if ⌊number⌋ % 2 = 0 then ⌊number⌋ else ⌊number⌋ + 1

@[simp] theorem nearestWhole_intCast (whole : ℤ) : nearestWhole whole = whole := by
  simp [nearestWhole]

theorem floor_le_nearestWhole (number : ℚ) : ⌊number⌋ ≤ nearestWhole number := by
  unfold nearestWhole
  dsimp only
  split_ifs <;> omega

theorem nearestWhole_le_floor_add_one (number : ℚ) : nearestWhole number ≤ ⌊number⌋ + 1 := by
  unfold nearestWhole
  dsimp only
  split_ifs <;> omega

theorem nearestWhole_mono {small large : ℚ} (hle : small ≤ large) :
    nearestWhole small ≤ nearestWhole large := by
  rcases (Int.floor_mono hle).lt_or_eq with hfloor | hfloor
  · calc
      nearestWhole small ≤ ⌊small⌋ + 1 := nearestWhole_le_floor_add_one small
      _ ≤ ⌊large⌋ := hfloor
      _ ≤ nearestWhole large := floor_le_nearestWhole large
  · have hrest : small - ⌊small⌋ ≤ large - ⌊large⌋ := by
      rw [hfloor]
      linarith
    unfold nearestWhole
    dsimp only
    rw [hfloor] at hrest ⊢
    split_ifs <;> first | omega | linarith

theorem nearestWhole_neg (number : ℚ) : nearestWhole (-number) = -nearestWhole number := by
  by_cases hwhole : number = ⌊number⌋
  · rw [hwhole, ← Int.cast_neg, nearestWhole_intCast, nearestWhole_intCast]
  · -- between whole numbers, negation exchanges the two neighbours
    have hlow : (⌊number⌋ : ℚ) < number := lt_of_le_of_ne (Int.floor_le number) (Ne.symm hwhole)
    have hhigh := Int.lt_floor_add_one number
    have hfloor : ⌊-number⌋ = -⌊number⌋ - 1 := by
      rw [Int.floor_eq_iff]
      push_cast
      constructor <;> linarith
    unfold nearestWhole
    dsimp only
    rw [hfloor]
    push_cast
    split_ifs <;> first | omega | linarith

theorem abs_nearestWhole_sub_le (number : ℚ) : |nearestWhole number - number| ≤ 1 / 2 := by
  have hlow := Int.floor_le number
  have hhigh := Int.lt_floor_add_one number
  rw [abs_le]
  unfold nearestWhole
  dsimp only
  split_ifs <;> push_cast <;> constructor <;> linarith

/-- A whole number that is at most a half away is the nearest one, if it is even at a tie. -/
theorem nearestWhole_eq {number : ℚ} {whole : ℤ} (h : |number - whole| ≤ 1 / 2)
    (htie : |number - whole| = 1 / 2 → whole % 2 = 0) : nearestWhole number = whole := by
  obtain ⟨hlow, hhigh⟩ := abs_le.mp h
  unfold nearestWhole
  dsimp only
  rcases le_or_gt (whole : ℚ) number with hge | hlt
  · have hfloor : ⌊number⌋ = whole := Int.floor_eq_iff.mpr ⟨hge, by linarith⟩
    rw [hfloor]
    rcases hhigh.lt_or_eq with hbelow | hequal
    · rw [if_pos hbelow]
    · have heven := htie (by rw [hequal]; norm_num)
      rw [if_neg hequal.not_lt, if_neg hequal.not_gt, if_pos heven]
  · have hfloor : ⌊number⌋ = whole - 1 :=
      Int.floor_eq_iff.mpr ⟨by push_cast; linarith, by push_cast; linarith⟩
    rw [hfloor]
    push_cast
    rcases hlow.lt_or_eq with habove | hequal
    · rw [if_neg (by linarith), if_pos (by linarith), sub_add_cancel]
    · have heven := htie (by rw [← hequal]; norm_num)
      rw [if_neg (by linarith), if_neg (by linarith), if_neg (by omega), sub_add_cancel]

/-! ## Floats -/

namespace Binary

/-- The exponent of the power of two of which the floats of a magnitude are multiples. -/
def spacing (number : ℚ) : ℤ := max (Int.log 2 |number| - 52) (-1074)

/-- The number to which arithmetic takes an exact result. There is no largest float here. -/
def nearest (number : ℚ) : ℚ :=
  nearestWhole (number / 2 ^ spacing number) * 2 ^ spacing number

theorem two_zpow_pos (exponent : ℤ) : (0 : ℚ) < 2 ^ exponent := zpow_pos (by norm_num) exponent

theorem two_zpow_add (first second : ℤ) : (2 : ℚ) ^ (first + second) = 2 ^ first * 2 ^ second :=
  zpow_add₀ (by norm_num) first second

@[simp] theorem spacing_neg (number : ℚ) : spacing (-number) = spacing number := by
  rw [spacing, spacing, abs_neg]

theorem nearest_neg (number : ℚ) : nearest (-number) = -nearest number := by
  rw [nearest, nearest, spacing_neg, neg_div, nearestWhole_neg]
  push_cast
  ring

/-- A multiple of the spacing of a number, if it is an upper bound, stays one. -/
theorem nearest_le_of_le {number : ℚ} {whole : ℤ} (h : number ≤ whole * 2 ^ spacing number) :
    nearest number ≤ whole * 2 ^ spacing number := by
  have hpos := two_zpow_pos (spacing number)
  have hquotient : number / 2 ^ spacing number ≤ whole := (div_le_iff₀ hpos).mpr h
  have hwhole : nearestWhole (number / 2 ^ spacing number) ≤ whole := by
    simpa using nearestWhole_mono hquotient
  exact mul_le_mul_of_nonneg_right (by exact_mod_cast hwhole) hpos.le

theorem le_nearest_of_le {number : ℚ} {whole : ℤ} (h : whole * 2 ^ spacing number ≤ number) :
    whole * 2 ^ spacing number ≤ nearest number := by
  have hpos := two_zpow_pos (spacing number)
  have hquotient : (whole : ℚ) ≤ number / 2 ^ spacing number := (le_div_iff₀ hpos).mpr h
  have hwhole : whole ≤ nearestWhole (number / 2 ^ spacing number) := by
    simpa using nearestWhole_mono hquotient
  exact mul_le_mul_of_nonneg_right (by exact_mod_cast hwhole) hpos.le

/-- A multiple of its own spacing is left alone. -/
theorem nearest_of_multiple {number : ℚ} (whole : ℤ)
    (h : number = whole * 2 ^ spacing number) : nearest number = number := by
  have hpos := two_zpow_pos (spacing number)
  rw [nearest, (div_eq_iff hpos.ne').mpr h, nearestWhole_intCast]
  exact h.symm

/-! ### Magnitudes -/

theorem abs_lt_of_spacing (number : ℚ) : |number| < 2 ^ (spacing number + 53) := by
  have hlog : |number| < 2 ^ (Int.log 2 |number| + 1) :=
    Int.lt_zpow_succ_log_self (by norm_num) |number|
  refine hlog.trans_le (zpow_le_zpow_right₀ (by norm_num) ?_)
  unfold spacing
  omega

theorem le_abs_of_spacing {number : ℚ} (hnumber : number ≠ 0) (h : -1074 < spacing number) :
    2 ^ (spacing number + 52) ≤ |number| := by
  have hlog : (2 : ℚ) ^ Int.log 2 |number| ≤ |number| :=
    Int.zpow_log_le_self (by norm_num) (abs_pos.mpr hnumber)
  refine (zpow_le_zpow_right₀ (by norm_num) ?_).trans hlog
  unfold spacing at h ⊢
  omega

theorem spacing_le_of_abs_lt {number : ℚ} (hnumber : number ≠ 0) {exponent : ℤ}
    (hexponent : -1074 ≤ exponent) (h : |number| < 2 ^ (exponent + 53)) :
    spacing number ≤ exponent := by
  have hlog : Int.log 2 |number| < exponent + 53 :=
    (Int.lt_zpow_iff_log_lt (by norm_num) (abs_pos.mpr hnumber)).mp (by exact_mod_cast h)
  unfold spacing
  omega

theorem spacing_mono {small large : ℚ} (hsmall : small ≠ 0) (h : |small| ≤ |large|) :
    spacing small ≤ spacing large := by
  have hlog : Int.log 2 |small| ≤ Int.log 2 |large| :=
    Int.log_mono_right (abs_pos.mpr hsmall) h
  unfold spacing
  omega

/-- A magnitude with a significand of 53 bits tells its spacing, and so does a shorter one if the
spacing is the least. -/
theorem spacing_eq {number : ℚ} (hnumber : number ≠ 0) {exponent : ℤ}
    (hexponent : -1074 ≤ exponent) (hupper : |number| < 2 ^ (exponent + 53))
    (hlower : 2 ^ (exponent + 52) ≤ |number| ∨ exponent = -1074) : spacing number = exponent := by
  refine le_antisymm (spacing_le_of_abs_lt hnumber hexponent hupper) ?_
  rcases hlower with hlower | rfl
  · have hlt := (zpow_lt_zpow_iff_right₀ (by norm_num)).mp (hlower.trans_lt (abs_lt_of_spacing number))
    omega
  · exact le_max_right _ _

/-- A number that has the spacing of a float rounds to it if the float is at most half a unit away,
and even at a tie. -/
theorem nearest_of_quotient {number : ℚ} {whole : ℕ} {exponent : ℤ} (hpos : 0 < number)
    (hexponent : -1074 ≤ exponent) (hupper : number / 2 ^ exponent < 2 ^ 53)
    (hlower : 2 ^ 52 ≤ number / 2 ^ exponent ∨ exponent = -1074)
    (h : |number / 2 ^ exponent - whole| ≤ 1 / 2)
    (htie : |number / 2 ^ exponent - whole| = 1 / 2 → whole % 2 = 0) :
    nearest number = whole * 2 ^ exponent := by
  have hunit := two_zpow_pos exponent
  have hspacing : spacing number = exponent := by
    refine spacing_eq hpos.ne' hexponent ?_ (hlower.imp_left fun hlower => ?_)
    · rw [abs_of_pos hpos, add_comm, two_zpow_add, ← div_lt_iff₀ hunit]
      exact_mod_cast hupper
    · rw [abs_of_pos hpos, add_comm, two_zpow_add, ← le_div_iff₀ hunit]
      exact_mod_cast hlower
  have hwhole : nearestWhole (number / 2 ^ exponent) = whole := by
    refine nearestWhole_eq (by exact_mod_cast h) fun hhalf => ?_
    exact_mod_cast htie (by exact_mod_cast hhalf)
  rw [nearest, hspacing, hwhole, Int.cast_natCast]

/-- Rounding up leads at most to the first significand that has too many bits. -/
theorem nearestWhole_quotient_le {number : ℚ} (hpos : 0 < number) :
    nearestWhole (number / 2 ^ spacing number) ≤ 2 ^ 53 := by
  have habs := abs_lt_of_spacing number
  rw [abs_of_pos hpos, add_comm, two_zpow_add, ← div_lt_iff₀ (two_zpow_pos _)] at habs
  have hmono : nearestWhole _ ≤ nearestWhole ((2 ^ 53 : ℤ) : ℚ) :=
    nearestWhole_mono (habs.le.trans_eq (by norm_num))
  rwa [nearestWhole_intCast] at hmono

theorem le_nearestWhole_quotient {number : ℚ} (hpos : 0 < number)
    (hspacing : -1074 < spacing number) :
    2 ^ 52 ≤ nearestWhole (number / 2 ^ spacing number) := by
  have habs := le_abs_of_spacing hpos.ne' hspacing
  rw [abs_of_pos hpos, add_comm, two_zpow_add, ← le_div_iff₀ (two_zpow_pos _)] at habs
  have hmono : nearestWhole ((2 ^ 52 : ℤ) : ℚ) ≤ nearestWhole _ :=
    nearestWhole_mono (habs.trans_eq' (by norm_num))
  rwa [nearestWhole_intCast] at hmono

/-! ### Numbers that are floats -/

@[simp] theorem nearest_zero : nearest 0 = 0 := by
  have hzero : nearestWhole 0 = 0 := by exact_mod_cast nearestWhole_intCast 0
  rw [nearest, zero_div, hzero, Int.cast_zero, zero_mul]

theorem nearest_of_abs_lt {number : ℚ} (whole exponent : ℤ) (h : number = whole * 2 ^ exponent)
    (hwhole : |whole| < 2 ^ 53) (hexponent : -1074 ≤ exponent) : nearest number = number := by
  rcases eq_or_ne number 0 with rfl | hnumber
  · exact nearest_zero
  have habs : |number| < 2 ^ (exponent + 53) := by
    have hcast : |(whole : ℚ)| < 2 ^ (53 : ℤ) := by exact_mod_cast hwhole
    rw [h, abs_mul, abs_of_pos (two_zpow_pos exponent), add_comm, two_zpow_add]
    exact mul_lt_mul_of_pos_right hcast (two_zpow_pos exponent)
  have hspacing := spacing_le_of_abs_lt hnumber hexponent habs
  obtain ⟨shift, hshift⟩ := Int.eq_ofNat_of_zero_le (sub_nonneg.mpr hspacing)
  have hsum : exponent = shift + spacing number := by omega
  apply nearest_of_multiple (whole * 2 ^ shift)
  calc
    number = whole * 2 ^ exponent := h
    _ = whole * (2 ^ (shift : ℤ) * 2 ^ spacing number) := by rw [hsum, two_zpow_add]
    _ = ((whole * 2 ^ shift : ℤ) : ℚ) * 2 ^ spacing number := by
      push_cast
      rw [zpow_natCast, mul_assoc]

/-- A number that has a significand of at most 53 bits, or is the power of two behind them,
is left alone. -/
theorem nearest_of_float {number : ℚ} (whole exponent : ℤ) (h : number = whole * 2 ^ exponent)
    (hwhole : |whole| ≤ 2 ^ 53) (hexponent : -1074 ≤ exponent) : nearest number = number := by
  rcases hwhole.lt_or_eq with hlt | heq
  · exact nearest_of_abs_lt whole exponent h hlt hexponent
  · -- the power of two is even, so half of it will do with the next exponent
    obtain ⟨half, hhalf, hsmall⟩ : ∃ half : ℤ, whole = half * 2 ∧ |half| < 2 ^ 53 := by
      rcases abs_choice whole with hsign | hsign
      · exact ⟨2 ^ 52, by omega, by norm_num⟩
      · exact ⟨-2 ^ 52, by omega, by norm_num⟩
    refine nearest_of_abs_lt half (exponent + 1) ?_ hsmall (by omega)
    rw [h, hhalf, two_zpow_add]
    push_cast
    ring

theorem nearest_intCast {whole : ℤ} (h : |whole| ≤ 2 ^ 53) : nearest whole = whole :=
  nearest_of_float whole 0 (by simp) h (by norm_num)

theorem nearest_two_zpow {exponent : ℤ} (h : -1074 ≤ exponent) :
    nearest (2 ^ exponent) = 2 ^ exponent :=
  nearest_of_float 1 exponent (by simp) (by norm_num) h

/-! ### Order -/

theorem nearest_nonneg {number : ℚ} (h : 0 ≤ number) : 0 ≤ nearest number := by
  have hzero : ((0 : ℤ) : ℚ) * 2 ^ spacing number ≤ nearest number :=
    le_nearest_of_le (by simpa using h)
  simpa using hzero

/-- Between numbers of different spacing lies a power of two, which is a multiple of either
spacing. -/
theorem nearest_le_of_spacing_lt {small large : ℚ} (hsmall : 0 ≤ small)
    (h : spacing small < spacing large) (hlarge : 0 < large) : nearest small ≤ nearest large := by
  have hleast : -1074 ≤ spacing small := le_max_right _ _
  have hbelow : small ≤ 2 ^ (spacing large + 52) := by
    have habs := abs_lt_of_spacing small
    rw [abs_of_nonneg hsmall] at habs
    exact habs.le.trans (zpow_le_zpow_right₀ (by norm_num) (by omega))
  have habove : 2 ^ (spacing large + 52) ≤ large := by
    have habs := le_abs_of_spacing hlarge.ne' (by omega)
    rwa [abs_of_pos hlarge] at habs
  have hnonneg : 0 ≤ spacing large + 52 - spacing small := by omega
  obtain ⟨shift, hshift⟩ := Int.eq_ofNat_of_zero_le hnonneg
  have hpower (number : ℚ) (count : ℕ) (hcount : spacing number + count = spacing large + 52) :
      ((2 ^ count : ℤ) : ℚ) * 2 ^ spacing number = 2 ^ (spacing large + 52) := by
    rw [← hcount, add_comm, two_zpow_add, zpow_natCast]
    push_cast
    rfl
  calc
    nearest small ≤ ((2 ^ shift : ℤ) : ℚ) * 2 ^ spacing small :=
      nearest_le_of_le (by rw [hpower small shift (by omega)]; exact hbelow)
    _ = ((2 ^ 52 : ℤ) : ℚ) * 2 ^ spacing large := by
      rw [hpower small shift (by omega), hpower large 52 rfl]
    _ ≤ nearest large := le_nearest_of_le (by rw [hpower large 52 rfl]; exact habove)

theorem nearest_le_of_nonneg {small large : ℚ} (hsmall : 0 ≤ small) (h : small ≤ large) :
    nearest small ≤ nearest large := by
  rcases hsmall.eq_or_lt with rfl | hpos
  · rw [nearest_zero]
    exact nearest_nonneg h
  have hlarge := hpos.trans_le h
  rcases (spacing_mono hpos.ne' (abs_le_abs_of_nonneg hsmall h)).lt_or_eq with hlt | heq
  · exact nearest_le_of_spacing_lt hsmall hlt hlarge
  · have hscale := two_zpow_pos (spacing large)
    have hquotient : small / 2 ^ spacing large ≤ large / 2 ^ spacing large :=
      div_le_div_of_nonneg_right h hscale.le
    rw [nearest, nearest, heq]
    exact mul_le_mul_of_nonneg_right (by exact_mod_cast nearestWhole_mono hquotient) hscale.le

theorem nearest_mono : Monotone nearest := by
  intro small large h
  rcases le_total 0 small with hsmall | hsmall
  · exact nearest_le_of_nonneg hsmall h
  rcases le_total 0 large with hlarge | hlarge
  · have hneg := nearest_nonneg (neg_nonneg.mpr hsmall)
    rw [nearest_neg] at hneg
    linarith [nearest_nonneg hlarge]
  · have hneg := nearest_le_of_nonneg (neg_nonneg.mpr hlarge) (neg_le_neg h)
    rw [nearest_neg, nearest_neg] at hneg
    linarith

/-- A whole number that rounds to a small one is that one. -/
theorem eq_of_nearest_natCast {number whole : ℕ} (h : nearest number = whole)
    (hless : whole < 2 ^ 53) : number = whole := by
  have hsmall : number ≤ 2 ^ 53 := by
    by_contra hlarge
    have hmono : nearest ((2 ^ 53 : ℕ) : ℤ) ≤ nearest number :=
      nearest_mono (by exact_mod_cast (not_le.mp hlarge).le)
    rw [h, nearest_intCast (by norm_num)] at hmono
    have hle : 2 ^ 53 ≤ whole := by exact_mod_cast hmono
    omega
  have hfixed : nearest (number : ℤ) = (number : ℤ) :=
    nearest_intCast (by rw [Nat.abs_cast]; exact_mod_cast hsmall)
  rw [Int.cast_natCast, h] at hfixed
  exact_mod_cast hfixed.symm

/-- Rounding does not lead beyond a power of two. -/
theorem abs_nearest_le {number : ℚ} {exponent : ℤ} (hexponent : -1074 ≤ exponent)
    (h : |number| ≤ 2 ^ exponent) : |nearest number| ≤ 2 ^ exponent := by
  have hpower := nearest_two_zpow hexponent
  obtain ⟨hlow, hhigh⟩ := abs_le.mp h
  rw [abs_le]
  constructor
  · calc
      -2 ^ exponent = nearest (-2 ^ exponent) := by rw [nearest_neg, hpower]
      _ ≤ nearest number := nearest_mono hlow
  · calc
      nearest number ≤ nearest (2 ^ exponent) := nearest_mono hhigh
      _ = 2 ^ exponent := hpower

/-! ### Distance -/

theorem abs_nearest_sub_le (number : ℚ) : |nearest number - number| ≤ 2 ^ spacing number / 2 := by
  have hpos := two_zpow_pos (spacing number)
  have hwhole := abs_nearestWhole_sub_le (number / 2 ^ spacing number)
  calc
    |nearest number - number| =
        |nearestWhole (number / 2 ^ spacing number) - number / 2 ^ spacing number| *
          2 ^ spacing number := by
      rw [← abs_of_pos hpos, ← abs_mul, abs_of_pos hpos, sub_mul, div_mul_cancel₀ _ hpos.ne',
        nearest]
    _ ≤ 1 / 2 * 2 ^ spacing number := mul_le_mul_of_nonneg_right hwhole hpos.le
    _ = 2 ^ spacing number / 2 := by ring

theorem abs_nearest_sub_le_of_abs_lt {number : ℚ} {exponent : ℤ} (hexponent : -1074 ≤ exponent)
    (h : |number| < 2 ^ (exponent + 53)) : |nearest number - number| ≤ 2 ^ exponent / 2 := by
  rcases eq_or_ne number 0 with rfl | hnumber
  · simpa using (half_pos (two_zpow_pos exponent)).le
  · refine (abs_nearest_sub_le number).trans ?_
    gcongr
    · norm_num
    · exact spacing_le_of_abs_lt hnumber hexponent h

end Binary

end StreamPlot
