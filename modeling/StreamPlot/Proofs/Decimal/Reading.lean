import Mathlib.Data.Rat.Floor
import Mathlib.Tactic.Positivity
import StreamPlot.Decimal.Digits
import StreamPlot.Proofs.Arguments

/-!
# Reading decimals back

A decimal text says a number, and it also says how exactly: its last digit is worth a power
of ten. The reader knows digits, perhaps with a point among them, perhaps with a power of ten
behind them, and nothing else.
-/

namespace StreamPlot

namespace Decimal

/-! ## The reader -/

/-- What a decimal text says: a number, and what its last digit is worth. -/
structure Reading where
  number : ℚ
  unit : ℚ
  deriving DecidableEq

/-- The digits at the front of a text, and what comes behind them. -/
def leadingDigits (text : List Char) : List Char × List Char :=
  (text.takeWhile Char.isDigit, text.dropWhile Char.isDigit)

/-- The decimals at the front of a text, and what comes behind them. -/
def decimals? : List Char → Option (List Char × List Char)
  | '.' :: text => if (leadingDigits text).1 = [] then none else some (leadingDigits text)
  | text => some ([], text)

def natural? (text : List Char) : Option ℕ :=
  if text ≠ [] ∧ text.all Char.isDigit then some (Nat.ofDigitChars 10 text 0) else none

def integer? : List Char → Option ℤ
  | '-' :: text => (natural? text).map Int.negOfNat
  | text => (natural? text).map Int.ofNat

/-- The power of ten at the end of a text. -/
def power? : List Char → Option ℤ
  | [] => some 0
  | 'e' :: text => integer? text
  | _ => none

/-- Read digits, perhaps decimals and perhaps a power of ten. -/
def magnitude? (text : List Char) : Option Reading := do
  let (whole, rest) := leadingDigits text
  guard (whole ≠ [])
  let (fraction, rest) ← decimals? rest
  let power ← power? rest
  let unit := (10 : ℚ) ^ (power - fraction.length)
  return ⟨Nat.ofDigitChars 10 (whole ++ fraction) 0 * unit, unit⟩

def Reading.signed (negative : Bool) (reading : Reading) : Reading :=
  ⟨if negative then -reading.number else reading.number, reading.unit⟩

/-- Read a text that is a decimal as a whole. -/
def read? (text : String) : Option Reading :=
  match text.toList with
  | '-' :: text => (magnitude? text).map (.signed true)
  | text => magnitude? text

/-! ## Digits -/

theorem ofDigitChars_repr (number : ℕ) : Nat.ofDigitChars 10 number.repr.toList 0 = number := by
  rw [Nat.toList_repr, Nat.ofDigitChars_ten_toDigits]

theorem repr_ne_nil (number : ℕ) : number.repr.toList ≠ [] :=
  Nat.toList_repr ▸ Nat.toDigits_ne_nil

theorem natural?_repr (number : ℕ) : natural? number.repr.toList = some number := by
  have hdigits : number.repr.toList.all Char.isDigit := by
    rw [List.all_eq_true]
    intro digit hdigit
    exact isDigit_of_mem_repr hdigit
  rw [natural?, if_pos ⟨repr_ne_nil number, hdigits⟩, ofDigitChars_repr]

theorem integer?_of_isDigit {first : Char} {rest : List Char} (h : first.isDigit = true) :
    integer? (first :: rest) = (natural? (first :: rest)).map Int.ofNat := by
  unfold integer?
  split
  next heq =>
    rw [(List.cons.inj heq).1] at h
    cases h
  next => rfl

theorem integer?_repr (number : ℤ) : integer? number.repr.toList = some number := by
  cases number with
  | ofNat number =>
    obtain ⟨first, rest, hrepr⟩ := List.exists_cons_of_ne_nil (repr_ne_nil number)
    have hfirst : first.isDigit = true := isDigit_of_mem_repr (hrepr ▸ List.mem_cons_self)
    change integer? number.repr.toList = _
    rw [hrepr, integer?_of_isDigit hfirst, ← hrepr, natural?_repr]
    rfl
  | negSucc number =>
    change integer? ("-" ++ (number + 1).repr).toList = some (Int.negSucc number)
    rw [String.toList_append]
    change (natural? (number + 1).repr.toList).map Int.negOfNat = _
    rw [natural?_repr]
    rfl

theorem power?_repr (power : ℤ) : power? ("e" ++ power.repr).toList = some power := by
  rw [String.toList_append]
  exact integer?_repr power

theorem leadingDigits_append {digits rest : List Char}
    (hdigits : ∀ digit ∈ digits, digit.isDigit = true)
    (hrest : ∀ first more, rest = first :: more → first.isDigit = false) :
    leadingDigits (digits ++ rest) = (digits, rest) := by
  unfold leadingDigits
  rw [List.takeWhile_append_of_pos hdigits, List.dropWhile_append_of_pos hdigits]
  cases rest with
  | nil => simp
  | cons first more => simp [hrest first more rfl]

/-! ## Texts -/

section

variable {whole fraction text : List Char} {power : ℤ}

theorem eq_nil_or_cons_of_power? (h : power? text = some power) :
    text = [] ∨ ∃ rest, text = 'e' :: rest := by
  unfold power? at h
  split at h
  · exact .inl rfl
  · exact .inr ⟨_, rfl⟩
  · cases h

theorem isDigit_eq_false_of_power? (h : power? text = some power) :
    ∀ first more, text = first :: more → first.isDigit = false := by
  intro first more htext
  rcases eq_nil_or_cons_of_power? h with rfl | ⟨rest, rfl⟩
  · cases htext
  · rw [← (List.cons.inj htext).1]
    rfl

theorem magnitude?_whole (hwhole : ∀ digit ∈ whole, digit.isDigit = true) (hne : whole ≠ [])
    (hpower : power? text = some power) :
    magnitude? (whole ++ text) =
      some ⟨Nat.ofDigitChars 10 whole 0 * 10 ^ power, 10 ^ power⟩ := by
  have hrest := isDigit_eq_false_of_power? hpower
  have hdecimals : decimals? text = some ([], text) := by
    rcases eq_nil_or_cons_of_power? hpower with rfl | ⟨rest, rfl⟩
    · rfl
    · rfl
  simp [magnitude?, leadingDigits_append hwhole hrest, hne, hdecimals, hpower]

theorem magnitude?_decimals (hwhole : ∀ digit ∈ whole, digit.isDigit = true) (hne : whole ≠ [])
    (hfraction : ∀ digit ∈ fraction, digit.isDigit = true) (hne' : fraction ≠ [])
    (hpower : power? text = some power) :
    magnitude? (whole ++ '.' :: (fraction ++ text)) =
      some ⟨Nat.ofDigitChars 10 (whole ++ fraction) 0 * 10 ^ (power - fraction.length),
        10 ^ (power - fraction.length)⟩ := by
  have hpoint : ∀ first more, '.' :: (fraction ++ text) = first :: more →
      first.isDigit = false := by
    intro first more heq
    rw [← (List.cons.inj heq).1]
    rfl
  have hdecimals : decimals? ('.' :: (fraction ++ text)) = some (fraction, text) := by
    have hrest := isDigit_eq_false_of_power? hpower
    simp [decimals?, leadingDigits_append hfraction hrest, hne']
  simp [magnitude?, leadingDigits_append hwhole hpoint, hne, hdecimals, hpower]

end

/-- Digits with a point among them are read back as those digits, in units of the last one. -/
theorem magnitude?_withPoint (digits places : ℕ) {text : List Char} {power : ℤ}
    (hpower : power? text = some power) :
    magnitude? ((withPoint digits places).toList ++ text) =
      some ⟨digits * 10 ^ (power - places), 10 ^ (power - places)⟩ := by
  rcases places.eq_zero_or_pos with rfl | hplaces
  · rw [withPoint, if_pos rfl, magnitude?_whole (fun _ => isDigit_of_mem_repr)
      (repr_ne_nil digits) hpower, ofDigitChars_repr]
    simp
  · have hrest : digits % 10 ^ places < 10 ^ places := Nat.mod_lt _ (by positivity)
    have hlength : (digits % 10 ^ places).repr.length ≤ places :=
      (Nat.length_repr_le_iff hplaces).mpr hrest
    set fraction := List.replicate (places - (digits % 10 ^ places).repr.length) '0' ++
      (digits % 10 ^ places).repr.toList with hfraction
    have htext : (withPoint digits places).toList ++ text =
        (digits / 10 ^ places).repr.toList ++ '.' :: (fraction ++ text) := by
      rw [withPoint, if_neg hplaces.ne', hfraction]
      simp [zeros]
    have hdigits : ∀ digit ∈ fraction, digit.isDigit = true := by
      intro digit hdigit
      rcases List.mem_append.mp hdigit with hzero | hrepr
      · rw [List.eq_of_mem_replicate hzero]
        rfl
      · exact isDigit_of_mem_repr hrepr
    have hcount : fraction.length = places := by
      rw [hfraction, List.length_append, List.length_replicate, String.length_toList]
      omega
    have hne : fraction ≠ [] := List.ne_nil_of_length_pos (hcount ▸ hplaces)
    have hvalue : Nat.ofDigitChars 10 ((digits / 10 ^ places).repr.toList ++ fraction) 0 =
        digits := by
      rw [Nat.ofDigitChars_append, ofDigitChars_repr, Nat.ofDigitChars_eq_ofDigitChars_zero, hcount,
        hfraction, Nat.ofDigitChars_append, Nat.ofDigitChars_replicate_zero, Nat.mul_zero,
        ofDigitChars_repr]
      exact Nat.div_add_mod digits (10 ^ places)
    rw [htext, magnitude?_decimals (fun _ => isDigit_of_mem_repr) (repr_ne_nil _) hdigits hne
      hpower, hvalue, hcount]

theorem read?_sign {text : String} (negative : Bool)
    (h : ∃ first rest, text.toList = first :: rest ∧ first.isDigit = true) :
    read? (sign negative ++ text) = (magnitude? text.toList).map (.signed negative) := by
  obtain ⟨first, rest, htext, hfirst⟩ := h
  cases negative with
  | true =>
    rw [read?, String.toList_append]
    rfl
  | false =>
    have hnone : Reading.signed false = id := by
      funext reading
      rfl
    rw [read?, String.toList_append, hnone, Option.map_id_fun, id]
    change (match text.toList with | '-' :: text => _ | text => _) = _
    rw [htext]
    split
    next heq =>
      rw [(List.cons.inj heq).1] at hfirst
      cases hfirst
    next => rfl

theorem exists_digit_withPoint (digits places : ℕ) (text : String) :
    ∃ first rest, (withPoint digits places ++ text).toList = first :: rest ∧
      first.isDigit = true := by
  have hrepr (number : ℕ) (rest : List Char) : ∃ first more,
      number.repr.toList ++ rest = first :: more ∧ first.isDigit = true := by
    obtain ⟨first, more, hnumber⟩ := List.exists_cons_of_ne_nil (repr_ne_nil number)
    exact ⟨first, more ++ rest, by rw [hnumber, List.cons_append],
      isDigit_of_mem_repr (hnumber ▸ List.mem_cons_self)⟩
  unfold withPoint
  split
  · rw [String.toList_append]
    exact hrepr digits text.toList
  · simp only [String.toList_append, List.append_assoc]
    exact hrepr _ _

/-- A reading shows a number if it is off by at most half a unit of its last digit. -/
def Reading.Shows (reading : Reading) (number : ℚ) : Prop :=
  |reading.number - number| ≤ reading.unit / 2

theorem Reading.abs_signed_sub (negative : Bool) (reading : Reading) (magnitude : ℚ) :
    |(reading.signed negative).number - (if negative then -magnitude else magnitude)| =
      |reading.number - magnitude| := by
  cases negative with
  | true =>
    change |-reading.number - -magnitude| = _
    rw [neg_sub_neg, abs_sub_comm]
  | false => rfl

theorem read?_sign_withPoint (negative : Bool) (digits places : ℕ) {text : String} {power : ℤ}
    (hpower : power? text.toList = some power) :
    read? (sign negative ++ (withPoint digits places ++ text)) =
      some (.signed negative ⟨digits * 10 ^ (power - places), 10 ^ (power - places)⟩) := by
  rw [read?_sign negative (exists_digit_withPoint digits places text), String.toList_append,
    magnitude?_withPoint digits places hpower, Option.map_some]

example : read? "-0.05" = some ⟨-5 / 100, 1 / 100⟩ := by decide +kernel

end Decimal

end StreamPlot
