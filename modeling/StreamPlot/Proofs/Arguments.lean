import StreamPlot.CommandLine.Reading

/-!
# Asking for options

Every option can be asked for by its name, with its value as the next argument. A command
line that is made in this way is read as it was meant: each option settles the one before it,
and then waits to be settled itself.
-/

namespace StreamPlot

/-! ## Numbers as they are written -/

/-- A number that is not too large is read from its digits. -/
theorem readDigits_of_isDigit {greatest sofar : Nat} {digits : List Char}
    (hdigits : ∀ digit ∈ digits, digit.isDigit = true)
    (hgreatest : Nat.ofDigitChars 10 digits sofar ≤ greatest) :
    readDigits greatest sofar digits = .ok (Nat.ofDigitChars 10 digits sofar) := by
  induction digits generalizing sofar with
  | nil => rfl
  | cons digit rest ih =>
      obtain ⟨hdigit, hrest⟩ := List.forall_mem_cons.mp hdigits
      rw [Nat.ofDigitChars_cons] at hgreatest ⊢
      have hnext : 10 * sofar + (digit.toNat - '0'.toNat) ≤ greatest := by
        refine Nat.le_trans ?_ hgreatest
        rw [Nat.ofDigitChars_eq_ofDigitChars_zero]
        exact Nat.le_trans (Nat.le_mul_of_pos_left _ (Nat.pow_pos (by decide)))
          (Nat.le_add_right _ _)
      simp only [readDigits, hdigit, Bool.not_true, Bool.false_eq_true, if_false,
        if_neg (Nat.not_lt.mpr hnext)]
      exact ih hrest hgreatest

theorem isDigit_of_mem_repr {number : Nat} {digit : Char} (h : digit ∈ number.repr.toList) :
    digit.isDigit = true :=
  Nat.isDigit_of_mem_toDigits (by decide) (by decide) (Nat.toList_repr ▸ h)

/-- A number that makes sense is read from its decimal digits. -/
theorem NumberRange.readNumber_repr {range : NumberRange} {number : Nat}
    (hwide : range.greatest ≤ range.highest) (hleast : range.least ≤ number)
    (hgreatest : number ≤ range.greatest) : range.readNumber number.repr = .ok number := by
  have hread : number ≤ range.highest.toNat := by omega
  have hvalue : Nat.ofDigitChars 10 number.repr.toList 0 = number := by
    rw [Nat.toList_repr, Nat.ofDigitChars_ten_toDigits]
  have hdigits := readDigits_of_isDigit (fun _ => isDigit_of_mem_repr)
    (Nat.le_trans (Nat.le_of_eq hvalue) hread)
  rw [hvalue] at hdigits
  have hsigned : range.readSigned number.repr = .ok number := by
    have hsign {sign : Char} {rest : List Char} (htext : number.repr.toList = sign :: rest) :
        sign.isDigit = true :=
      isDigit_of_mem_repr (htext ▸ List.mem_cons_self)
    unfold readSigned
    split
    next hempty => exact absurd (Nat.toList_repr ▸ hempty) Nat.toDigits_ne_nil
    next hplus => exact absurd (hsign hplus) (by decide)
    next hminus => exact absurd (hsign hminus) (by decide)
    next _ hplus => exact absurd (hsign hplus) (by decide)
    next _ hminus => exact absurd (hsign hminus) (by decide)
    next => rw [hdigits]; rfl
  rw [readNumber, hsigned]
  exact if_pos ⟨hleast, hgreatest⟩

/-! ## Options as they are written -/

/-- An option with its value, and the text that stands for the value, if there is one. -/
structure WrittenOption (α : Type) where
  found : FoundOption α
  text : Option String := none

variable {α : Type} {interface : Interface α}

namespace WrittenOption

/-- The name of the option, and the text of its value as an argument of its own. -/
def arguments (interface : Interface α) (written : WrittenOption α) : List String :=
  ("--" ++ (interface.form written.found.option).long) :: written.text.toList

/-- The text is read as the value, and does not look like an option itself. -/
def Legible (interface : Interface α) (written : WrittenOption α) : Prop :=
  match (interface.form written.found.option).kind, written.text with
  | .flag, none => written.found.value = .present
  | .valued _ kind, some text =>
      kind.readValue text = .ok written.found.value ∧ text.toList.head? ≠ some '-'
  | _, _ => False

/-- An option that takes no value. -/
def flag (option : α) : WrittenOption α where
  found := ⟨option, .present⟩

/-- An option with one of the names that it takes. -/
def choice (option : α) (name : String) : WrittenOption α where
  found := ⟨option, .text name⟩
  text := some name

/-- An option with a number in decimal digits. -/
def number (option : α) (number : Nat) : WrittenOption α where
  found := ⟨option, .number number⟩
  text := some number.repr

theorem legible_number {option : α} {placeholder : String} {range : NumberRange}
    (hkind : (interface.form option).kind = .valued placeholder (.number range)) {value : Nat}
    (hwide : range.greatest ≤ range.highest) (hleast : range.least ≤ value)
    (hgreatest : value ≤ range.greatest) : (number option value).Legible interface := by
  have hvalue : range.readNumber value.repr = .ok (value : Int) :=
    NumberRange.readNumber_repr hwide hleast hgreatest
  have hdash : value.repr.toList.head? ≠ some '-' := by
    intro hhead
    exact absurd (isDigit_of_mem_repr (List.mem_of_mem_head? hhead)) (by decide)
  simp only [Legible, number, hkind, ValueKind.readValue, hvalue]
  exact ⟨rfl, hdash⟩

end WrittenOption

/-- Every option is known by its name, and no name is mistaken for something else. -/
structure Interface.KnowsNames (interface : Interface α) : Prop where
  ofLong?_long (option : α) : interface.ofLong? (interface.form option).long = some option
  long_ne_empty (option : α) : (interface.form option).long ≠ ""
  equals_not_mem (option : α) : '=' ∉ (interface.form option).long.toList

namespace UsageProgress

variable [DecidableEq α] {progress : UsageProgress α}

/-- Once its pending option is settled, the progress has found these options. -/
def SettlesTo (interface : Interface α) (progress : UsageProgress α)
    (found : List (FoundOption α)) : Prop :=
  progress.settle interface = .ok { found }

section

variable {found : List (FoundOption α)} {option : α}

theorem has_eq_false (h : option ∉ found.map FoundOption.option) :
    UsageProgress.has { found } option = false := by
  rw [has, List.any_eq_false]
  intro other hother hsame
  exact h (List.mem_map.mpr ⟨other, hother, by simpa using hsame⟩)

theorem accept_flag (hnew : option ∉ found.map FoundOption.option)
    (hkind : (interface.form option).kind = .flag) :
    accept interface { found } option none = .ok { found := found ++ [⟨option, .present⟩] } := by
  unfold accept
  simp only [hkind, has_eq_false hnew, Bool.false_eq_true, if_false]

theorem accept_valued (hnew : option ∉ found.map FoundOption.option) {placeholder : String}
    {kind : ValueKind} (hkind : (interface.form option).kind = .valued placeholder kind)
    {text : String} {value : OptionValue} (hvalue : kind.readValue text = .ok value) :
    accept interface { found } option (some text) =
      .ok { found := found ++ [⟨option, value⟩] } := by
  unfold accept
  simp only [hkind, has_eq_false hnew, hvalue, Bool.false_eq_true, if_false]

end

theorem readAll_cons {argument : String} (hargument : argument ≠ "--")
    {next : UsageProgress α} (hread : progress.readArgument interface argument = .ok next)
    (rest : List String) :
    progress.readAll interface (argument :: rest) = next.readAll interface rest := by
  cases rest <;> simp [readAll, hargument, hread]

/-- The name of an option is read as this option. -/
theorem readArgument_name (hnames : interface.KnowsNames) (progress : UsageProgress α)
    (option : α) :
    progress.readArgument interface ("--" ++ (interface.form option).long) =
      match (interface.form option).kind with
      | .valued _ _ => progress.await interface option
      | _ => progress.meet interface option none true := by
  have hname : ("--" ++ (interface.form option).long).toList =
      '-' :: '-' :: (interface.form option).long.toList := by
    rw [String.toList_append]
    rfl
  have hletters (letter) (hletter : letter ∈ (interface.form option).long.toList) :
      (letter != '=') = true :=
    bne_iff_ne.mpr fun hequals => hnames.equals_not_mem option (hequals ▸ hletter)
  have hbefore : (interface.form option).long.toList.takeWhile (· != '=') =
      (interface.form option).long.toList := by
    rw [← List.append_nil (interface.form option).long.toList,
      List.takeWhile_append_of_pos hletters, List.takeWhile_nil]
  have hbehind : (interface.form option).long.toList.dropWhile (· != '=') = [] := by
    rw [← List.append_nil (interface.form option).long.toList,
      List.dropWhile_append_of_pos hletters, List.dropWhile_nil]
  rw [readArgument, hname]
  simp only [readLong, hbefore, hbehind, String.ofList_toList, hnames.ofLong?_long]
  cases (interface.form option).kind <;> rfl

theorem readArgument_value {found : List (FoundOption α)} {option : α} {argument : String}
    (h : argument.toList.head? ≠ some '-') :
    readArgument interface { found, pending := some ⟨option, none⟩ } argument =
      .ok { found, pending := some ⟨option, some argument⟩ } := by
  unfold readArgument
  split
  next hlong => exact absurd (by rw [hlong]; rfl) h
  next hshort => exact absurd (by rw [hshort]; rfl) h
  next => rfl

/-- The arguments of a written option are read in one step, which leaves it to be settled. -/
theorem readAll_written (hnames : interface.KnowsNames) {found : List (FoundOption α)}
    (h : progress.SettlesTo interface found) {written : WrittenOption α}
    (hlegible : written.Legible interface)
    (hnew : written.found.option ∉ found.map FoundOption.option) (rest : List String) :
    ∃ next : UsageProgress α, next.SettlesTo interface (found ++ [written.found]) ∧
      progress.readAll interface (written.arguments interface ++ rest) =
        next.readAll interface rest := by
  obtain ⟨⟨option, value⟩, text⟩ := written
  have hdashes : "--" ++ (interface.form option).long ≠ "--" := by
    intro hsame
    refine hnames.long_ne_empty option (String.toList_inj.mp ?_)
    simpa using congrArg String.toList hsame
  have hname := readArgument_name hnames progress option
  unfold WrittenOption.Legible at hlegible
  split at hlegible
  next hkind htext =>
    obtain rfl : text = none := htext
    obtain rfl : value = .present := hlegible
    replace hkind : (interface.form option).kind = .flag := hkind
    have hmet : progress.meet interface option none true =
        .ok { found := found ++ [⟨option, .present⟩] } := by
      rw [meet, h]
      simp only [hkind]
      exact accept_flag hnew hkind
    rw [hkind] at hname
    exact ⟨{ found := found ++ [⟨option, .present⟩] }, rfl,
      readAll_cons hdashes (hname.trans hmet) rest⟩
  next placeholder kind argument hkind htext =>
    obtain rfl : text = some argument := htext
    obtain ⟨hvalue, hdash⟩ := hlegible
    replace hkind : (interface.form option).kind = .valued placeholder kind := hkind
    have hwaits : progress.await interface option =
        .ok { found, pending := some ⟨option, none⟩ } := by
      rw [await, h]
    have hargument : argument ≠ "--" := by
      rintro rfl
      exact hdash rfl
    rw [hkind] at hname
    have htaken : readArgument interface { found, pending := some ⟨option, none⟩ } argument =
        .ok { found, pending := some ⟨option, some argument⟩ } := readArgument_value hdash
    refine ⟨{ found, pending := some ⟨option, some argument⟩ }, ?_, ?_⟩
    · exact accept_valued hnew hkind hvalue
    -- The name only makes the option wait, so both arguments have to be read.
    · rw [WrittenOption.arguments, List.cons_append, readAll_cons hdashes (hname.trans hwaits)]
      exact readAll_cons hargument htaken rest
  next => exact hlegible.elim

/-- A command line of written options is read as these options. -/
theorem readAll_arguments (hnames : interface.KnowsNames) {found : List (FoundOption α)}
    (h : progress.SettlesTo interface found) {options : List (WrittenOption α)}
    (hlegible : ∀ written ∈ options, written.Legible interface)
    (hdistinct : ((found ++ options.map WrittenOption.found).map FoundOption.option).Nodup) :
    progress.readAll interface (options.flatMap (WrittenOption.arguments interface)) =
      .ok { found := found ++ options.map WrittenOption.found } := by
  induction options generalizing progress found with
  | nil =>
      rw [List.map_nil, List.append_nil]
      exact h
  | cons written options ih =>
      obtain ⟨hfirst, hrest⟩ := List.forall_mem_cons.mp hlegible
      have hfound : found ++ (written :: options).map WrittenOption.found =
          found ++ [written.found] ++ options.map WrittenOption.found := by simp
      have hnew : written.found.option ∉ found.map FoundOption.option := by
        rw [List.map_append, List.map_cons, List.map_cons] at hdistinct
        intro hmem
        exact (List.nodup_append.mp hdistinct).2.2 _ hmem _ List.mem_cons_self rfl
      obtain ⟨next, hnext, hread⟩ := readAll_written hnames h hfirst hnew
        (options.flatMap (WrittenOption.arguments interface))
      rw [hfound] at hdistinct ⊢
      rw [List.flatMap_cons, hread]
      exact ih hnext hrest hdistinct

end UsageProgress

theorem Interface.read_arguments [DecidableEq α] (hnames : interface.KnowsNames)
    {options : List (WrittenOption α)}
    (hlegible : ∀ written ∈ options, written.Legible interface)
    (hdistinct : (options.map fun written => written.found.option).Nodup) :
    interface.read (options.flatMap (WrittenOption.arguments interface)) =
      .ok (options.map WrittenOption.found) := by
  have hstart : UsageProgress.SettlesTo interface {} [] := rfl
  have hread := UsageProgress.readAll_arguments hnames hstart hlegible
    (by simpa [Function.comp_def] using hdistinct)
  rw [Interface.read, hread]
  rfl

end StreamPlot
