import StreamPlot.CommandLine.Reading

/-!
# What a command line can hold

Every option that is found on a command line has a value of the kind that the option takes.
A command line is read argument by argument, and an option joins those found only after its
value has been looked at, so each step of the reading keeps this.
-/

namespace StreamPlot

variable {α : Type} [DecidableEq α] {interface : Interface α}

/-- The value of an option is one that the option takes. -/
def FoundOption.Fits (interface : Interface α) (found : FoundOption α) : Prop :=
  match (interface.form found.option).kind with
  | .valued _ kind => ∃ text, kind.readValue text = .ok found.value
  | _ => found.value = .present

namespace UsageProgress

/-- All options that have been found have values that they take. -/
def Sound (interface : Interface α) (progress : UsageProgress α) : Prop :=
  ∀ found ∈ progress.found, found.Fits interface

variable {progress next : UsageProgress α}

omit [DecidableEq α] in
theorem Sound.append (h : progress.Sound interface) {found : FoundOption α}
    (hfits : found.Fits interface) {after : UsageProgress α}
    (hafter : after.found = progress.found ++ [found]) : after.Sound interface := by
  intro other hother
  rw [hafter] at hother
  rcases List.mem_append.mp hother with hbefore | hlast
  · exact h other hbefore
  · rwa [List.mem_singleton.mp hlast]

theorem Sound.accept (h : progress.Sound interface) {option : α} {given : Option String}
    (hread : progress.accept interface option given = .ok next) : next.Sound interface := by
  unfold UsageProgress.accept at hread
  split at hread
  next => cases hread
  next placeholder kind text hkind =>
    split at hread
    next => cases hread
    next =>
      split at hread
      next => cases hread
      next value hvalue =>
        cases hread
        have hfits : FoundOption.Fits interface ⟨option, value⟩ := by
          rw [FoundOption.Fits, hkind]
          exact ⟨text, hvalue⟩
        exact h.append hfits rfl
  next given _ _ hmissing hvalued =>
    split at hread
    next => cases hread
    next =>
      cases hread
      have hfits : FoundOption.Fits interface ⟨option, .present⟩ := by
        unfold FoundOption.Fits
        split
        next placeholder kind hkind =>
          cases given with
          | none => exact absurd rfl (hmissing placeholder kind hkind)
          | some text => exact absurd rfl (hvalued placeholder kind text hkind)
        next => rfl
      exact h.append hfits rfl

theorem Sound.settle (h : progress.Sound interface)
    (hread : progress.settle interface = .ok next) : next.Sound interface := by
  unfold UsageProgress.settle at hread
  split at hread
  next => cases hread; exact h
  next pending _ =>
    have hcleared : { progress with pending := none }.Sound interface := h
    exact hcleared.accept hread

theorem Sound.meet (h : progress.Sound interface) {option : α} {value : Option String}
    {long : Bool} (hread : progress.meet interface option value long = .ok next) :
    next.Sound interface := by
  unfold UsageProgress.meet at hread
  split at hread
  next => cases hread
  next settled hsettled =>
    split at hread
    next => cases hread
    next => cases hread
    next => exact (h.settle hsettled).accept hread

theorem Sound.await (h : progress.Sound interface) {option : α}
    (hread : progress.await interface option = .ok next) : next.Sound interface := by
  unfold UsageProgress.await at hread
  split at hread
  next => cases hread
  next settled hsettled =>
    cases hread
    have hsound := h.settle hsettled
    exact hsound

theorem Sound.readLong (h : progress.Sound interface) {text : List Char}
    (hread : progress.readLong interface text = .ok next) : next.Sound interface := by
  unfold UsageProgress.readLong at hread
  dsimp only at hread
  split at hread
  next => cases hread
  next option _ =>
    split at hread
    next => exact h.await hread
    next => exact h.meet hread
    next => cases hread
    next => exact h.meet hread

theorem Sound.readShort (h : progress.Sound interface) {letters : List Char}
    (hread : progress.readShort interface letters = .ok next) : next.Sound interface := by
  induction letters generalizing progress with
  | nil =>
      cases hread
      exact h
  | cons letter rest ih =>
      unfold UsageProgress.readShort at hread
      split at hread
      next => cases hread
      next option _ =>
        split at hread
        next => exact h.await hread
        next => exact h.meet hread
        next => exact h.meet hread
        next =>
          split at hread
          next => cases hread
          next met hmet => exact ih (h.meet hmet) hread

theorem Sound.readArgument (h : progress.Sound interface) {argument : String}
    (hread : progress.readArgument interface argument = .ok next) : next.Sound interface := by
  unfold UsageProgress.readArgument at hread
  split at hread
  next => exact h.readLong hread
  next => exact h.readShort hread
  next =>
    split at hread
    next =>
      cases hread
      exact h
    next => cases hread

theorem Sound.readAll (h : progress.Sound interface) {arguments : List String}
    (hread : progress.readAll interface arguments = .ok next) : next.Sound interface := by
  fun_induction UsageProgress.readAll interface progress arguments with
  | case1 => exact h.settle hread
  | case2 => exact h.settle hread
  | case3 => cases hread
  | case4 => cases hread
  | case5 progress argument rest _ _ read hargument ih => exact ih (h.readArgument hargument) hread

end UsageProgress

/-- Every option that is found on a command line has a value that it takes. -/
theorem Interface.fits_of_read {arguments : List String} {found : List (FoundOption α)}
    (h : interface.read arguments = .ok found) : ∀ option ∈ found, option.Fits interface := by
  unfold Interface.read at h
  cases hread : UsageProgress.readAll interface {} arguments with
  | error stop =>
      rw [hread] at h
      cases h
  | ok progress =>
      rw [hread] at h
      cases h
      have hnone : ({} : UsageProgress α).Sound interface := fun _ hfound => by cases hfound
      exact hnone.readAll hread

theorem mem_of_findOption {option : α} {found : List (FoundOption α)} {value : OptionValue}
    (h : findOption option found = some value) : ⟨option, value⟩ ∈ found := by
  induction found with
  | nil => cases h
  | cons head found ih =>
      unfold findOption at h
      split at h
      next hoption =>
        cases h
        rw [← hoption]
        exact List.mem_cons_self
      next => exact List.mem_cons_of_mem _ (ih h)

/-- A number that an option has is among the numbers that make sense for it. -/
theorem exists_of_findNumber {arguments : List String} {found : List (FoundOption α)}
    (hread : interface.read arguments = .ok found) {option : α} {placeholder : String}
    {range : NumberRange}
    (hkind : (interface.form option).kind = .valued placeholder (.number range))
    {number : Nat} (h : findNumber option found = some number) :
    ∃ value : Int, number = value.toNat ∧ range.least ≤ value ∧ value ≤ range.greatest := by
  unfold findNumber at h
  split at h
  next value hfound =>
    cases h
    have hfits := Interface.fits_of_read hread _ (mem_of_findOption hfound)
    rw [FoundOption.Fits, hkind] at hfits
    obtain ⟨text, htext⟩ := hfits
    rw [ValueKind.readValue] at htext
    cases hnumber : range.readNumber text with
    | error problem =>
        rw [hnumber] at htext
        cases htext
    | ok read =>
        rw [hnumber] at htext
        cases htext
        exact ⟨_, rfl, NumberRange.mem_of_readNumber hnumber⟩
  next => cases h

/-- A positive number fits into a word, and so it does not become zero there. -/
theorem ofNat_ne_zero_of_findNumber {arguments : List String} {found : List (FoundOption α)}
    (hread : interface.read arguments = .ok found) {option : α} {placeholder : String}
    (hkind : (interface.form option).kind = .valued placeholder (.number .positive))
    {number : Nat} (h : findNumber option found = some number) : UInt64.ofNat number ≠ 0 := by
  obtain ⟨value, rfl, hleast, hgreatest⟩ := exists_of_findNumber hread hkind h
  simp only [NumberRange.positive] at hleast hgreatest
  intro hzero
  have hnat := congrArg UInt64.toNat hzero
  rw [UInt64.toNat_ofNat_of_lt' (by rw [UInt64.size]; omega), UInt64.toNat_zero] at hnat
  omega

end StreamPlot
