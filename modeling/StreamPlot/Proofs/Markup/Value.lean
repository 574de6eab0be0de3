import Mathlib.Tactic.IntervalCases
import StreamPlot.Proofs.Decimal.Reading
import StreamPlot.Proofs.Markup.Node

/-!
# Values

What a value is read as depends on the piece that it begins with and on nothing else: not on
the document around it, on the path to it or on the place where it stands. A whole number in
decimal, a truth value, a name and a text are read as what they say.
-/

namespace StreamPlot

open Markup Decimal

/-! ## Readings that may fail -/

section

variable {ε δ α β : Type}

theorem toOption_bind (result : Except ε α) (next : α → Except ε β) :
    (result >>= next).toOption = result.toOption.bind fun value => (next value).toOption := by
  cases result <;> rfl

theorem toOption_mapError (result : Except ε α) (change : ε → δ) :
    (result.mapError change).toOption = result.toOption := by
  cases result <;> rfl

end

namespace Markup

/-! ## Decimal digits -/

theorem digits?_repr (number : ℕ) : digits? 10 number.repr.toList = some number := by
  have hdigit : ∀ digit ∈ number.repr.toList,
      isDigitTo 10 digit = true ∧ digitValue digit = digit.toNat - '0'.toNat := by
    intro digit hmem
    have hisDigit : digit.isDigit = true := isDigit_of_mem_repr hmem
    have hrange : 48 ≤ digit.toNat ∧ digit.toNat ≤ 57 := Char.isDigit_iff_toNat.mp hisDigit
    have hvalue : digitValue digit = digit.toNat - 48 := by rw [digitValue, if_pos hisDigit]
    refine ⟨?_, hvalue⟩
    simp only [isDigitTo, hisDigit, hvalue, Bool.true_or, Bool.true_and, decide_eq_true_eq]
    omega
  have hall : number.repr.toList.all (isDigitTo 10) = true := by
    rw [List.all_eq_true]
    exact fun digit hmem => (hdigit digit hmem).1
  have hempty : number.repr.toList.isEmpty = false := by
    rw [List.isEmpty_eq_false_iff]
    exact repr_ne_nil number
  have hvalue := ofDigitChars_repr number
  rw [Nat.ofDigitChars_eq_foldl] at hvalue
  rw [digits?, hall, hempty, if_neg (by simp)]
  refine congrArg some (Eq.trans ?_ hvalue)
  apply List.foldl_ext
  intro value digit hmem
  rw [(hdigit digit hmem).2]

theorem markedDigits?_of_isDigit {text : List Char} (h : ∀ digit ∈ text, digit.isDigit = true) :
    markedDigits? text = none := by
  have hnot : ∀ mark : Char, mark.isDigit = false → ¬ ['0', mark] <+: text := by
    intro mark hmark hprefix
    have hmem : mark ∈ text := hprefix.subset (by simp)
    rw [h mark hmem] at hmark
    cases hmark
  simp [markedDigits?, bases, hnot 'x' rfl, hnot 'o' rfl, hnot 'b' rfl]

/-- A number that is not zero does not begin with a zero. -/
theorem head?_toDigits_ne {number : ℕ} (h : 0 < number) :
    (Nat.toDigits 10 number).head? ≠ some '0' := by
  induction number using Nat.base_induction 10 (by decide) with
  | single digit hdigit =>
      rw [Nat.toDigits_of_lt_base hdigit]
      interval_cases digit <;> decide
  | digit front digit hdigit hfront ih =>
      rw [← Nat.toDigits_append_toDigits (by decide) hfront hdigit,
        List.head?_append_of_ne_nil _ Nat.toDigits_ne_nil]
      exact ih hfront

theorem hasNeedlessZero_repr (number : ℕ) : hasNeedlessZero number.repr.toList = false := by
  rcases Nat.eq_zero_or_pos number with rfl | hpos
  · rfl
  · have hhead := head?_toDigits_ne hpos
    rw [← Nat.toList_repr] at hhead
    obtain ⟨first, rest, hrepr⟩ := List.exists_cons_of_ne_nil (repr_ne_nil number)
    have hfirst : first.isDigit = true := isDigit_of_mem_repr (hrepr ▸ List.mem_cons_self)
    have hne : first ≠ '0' := by
      rintro rfl
      exact hhead (hrepr ▸ rfl)
    rw [hrepr]
    unfold hasNeedlessZero
    split
    next heq =>
      cases heq
      cases hfirst
    next heq =>
      cases heq
      cases hfirst
    next => simp [hne]

theorem naturalUpTo?_repr {limit number : ℕ} (h : number ≤ limit) :
    naturalUpTo? limit number.repr.toList = some number := by
  obtain ⟨first, rest, hrepr⟩ := List.exists_cons_of_ne_nil (repr_ne_nil number)
  have hdigits : ∀ digit ∈ number.repr.toList, digit.isDigit = true := fun _ => isDigit_of_mem_repr
  have hsign : (number.repr.toList.head? == some '+') = false := by
    have hfirst : first.isDigit = true := hdigits first (hrepr ▸ List.mem_cons_self)
    rw [hrepr, List.head?_cons, beq_eq_false_iff_ne]
    rintro hplus
    rw [Option.some.inj hplus] at hfirst
    cases hfirst
  simp only [naturalUpTo?, hsign, Bool.false_eq_true, if_false, markedDigits?_of_isDigit hdigits,
    Option.filter_none, hasNeedlessZero_repr, digits?_repr]
  rw [Option.filter_some, if_pos (by simpa using h)]

end Markup

/-! ## Values of settings -/

namespace Markup.Node

/-- The text of a scalar, which may be written in any style. -/
def text? : Node → Option String
  | scalar _ text _ => some text
  | _ => none

/-- The number of at most 64 bits that a node is. -/
def number? : Node → Option Nat
  | scalar tag text style =>
      if isReadable .integer tag style then naturalUpTo? 18446744073709551615 text.toList else none
  | _ => none

def long? (node : Node) : Option UInt64 :=
  node.number?.map UInt64.ofNat

def short? (node : Node) : Option UInt32 :=
  (node.number?.filter (· < 4294967296)).map UInt32.ofNat

def truth? : Node → Option Bool
  | scalar tag text style => if isReadable .boolean tag style then boolean? text else none
  | _ => none

/-- The variant that a node names. -/
def variant? {α : Type} (name : α → String) (all : List α) (node : Node) : Option α :=
  (readVariantHere name all .root ⟨node.head, {}⟩).toOption

/-- The entries of a mapping whose keys are scalars. A key counts as its text. -/
def entries? : Node → Option (List (String × Node))
  | mapping _ entries => entries.mapM fun (key, value) => key.text?.map (·, value)
  | _ => none

section

variable {α : Type} {node : Node} {value : List LocatedPiece}

/-- A value is told by the piece that it begins with, wherever it stands. -/
theorem toOption_readNode (h : value.map LocatedPiece.piece = node.pieces) (document : Document)
    (path : KeyPath) (read : Piece → Except ContentProblem α) :
    (readNode document path value read).toOption = (read node.head).toOption := by
  obtain ⟨⟨piece, start⟩, rest, rfl, rfl⟩ := node.exists_head h
  cases node <;> exact toOption_mapError _ _

theorem toOption_readWord (expected : String) (node : Node) :
    (readWord expected node.head).toOption = node.number? := by
  cases node with
  | scalar tag text style =>
      simp only [readWord, head, number?]
      cases (if isReadable .integer tag style then
        naturalUpTo? 18446744073709551615 text.toList else none) <;> rfl
  | sequence tag items => rfl
  | mapping tag entries => rfl

theorem toOption_readShortWord (node : Node) :
    (readShortWord node.head).toOption = node.number?.filter (· < 4294967296) := by
  rw [readShortWord, toOption_bind, toOption_readWord]
  cases node.number? with
  | none => rfl
  | some number =>
      by_cases hsmall : number < 4294967296
      · simp [hsmall, Except.toOption, pure, Except.pure, Option.filter]
      · simp [hsmall, Except.toOption, throw, throwThe, MonadExceptOf.throw, Option.filter]

theorem toOption_readBoolean (node : Node) :
    (readBoolean node.head).toOption = node.truth? := by
  cases node with
  | scalar tag text style =>
      simp only [readBoolean, head, truth?]
      cases (if isReadable .boolean tag style then boolean? text else none) <;> rfl
  | sequence tag items => rfl
  | mapping tag entries => rfl

theorem toOption_readText (expected : String) (node : Node) :
    (readText expected node.head).toOption = node.text? := by
  cases node <;> rfl

theorem toOption_readVariant (h : value.map LocatedPiece.piece = node.pieces)
    (name : α → String) (all : List α) (document : Document) (path : KeyPath) :
    (readVariant name all document path value).toOption = node.variant? name all := by
  obtain ⟨⟨piece, start⟩, rest, rfl, rfl⟩ := node.exists_head h
  have hhere : readVariant name all document path (⟨node.head, start⟩ :: rest) =
      readVariantHere name all path ⟨node.head, start⟩ := by
    cases node <;> rfl
  rw [hhere, variant?]
  unfold readVariantHere
  dsimp only
  split
  next text htext => simp only [toOption_bind, toOption_mapError]
  next htext => cases node <;> simp only [head, toOption_mapError] <;> rfl

end

/-! ## Values as they are written -/

theorem number?_repr {number : ℕ} (h : number < 2 ^ 64) :
    (scalar none number.repr .plain).number? = some number :=
  naturalUpTo?_repr (Nat.le_of_lt_succ h)

theorem long?_repr (value : UInt64) : (scalar none value.toNat.repr .plain).long? = some value := by
  rw [long?, number?_repr value.toNat_lt, Option.map_some, UInt64.ofNat_toNat]

theorem short?_repr (value : UInt32) :
    (scalar none value.toNat.repr .plain).short? = some value := by
  have hsmall : value.toNat < 4294967296 := value.toNat_lt
  rw [short?, number?_repr (hsmall.trans (by decide)), Option.filter_some,
    if_pos (by simpa using hsmall), Option.map_some, UInt32.ofNat_toNat]

theorem truth?_word (value : Bool) :
    (scalar none (if value then "true" else "false") .plain).truth? = some value := by
  cases value <;> decide

theorem style?_name (value : PlotStyle) (style : ScalarStyle) :
    (scalar none value.name style).variant? PlotStyle.name PlotStyle.all = some value := by
  cases value <;> rfl

theorem marker?_name (value : MarkerKind) (style : ScalarStyle) :
    (scalar none value.name style).variant? MarkerKind.name MarkerKind.all = some value := by
  cases value <;> rfl

end Markup.Node

end StreamPlot
