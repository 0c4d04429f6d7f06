/-
**The numbers that name slots and exit codes.**

A number is read as a word, else as a double that is narrowed to a word, and then to an index or a code.

* `Json.rational?`: the exact value of a number, as a fraction;
* `Double.toSigned_eq`, `Double.toUnsigned_eq`: a double that stands for an integer becomes the word that is
  nearest to it;
* `Fd.ofJson_eq_ok`, `ExitCode.ofJson_eq_ok`: what the readings accept, by the integer a number stands for;
* `Syscall.Addresses`: the slot that the first argument of a call stands for;
* `numbers_exact`: **a slot or an exit code is named by the numbers whose exact value it is, and by no others**:
  nothing is rounded, wrapped or cut off into range.
-/

import ScriptKernel.Proofs.Number
import ScriptKernel.Syscall.Standard

set_option autoImplicit false

namespace ScriptKernel

/-! ### The integer a number stands for -/

/-- The exact value of a number. -/
def Json.rational? : Json → Option ℚ
  | .number (.integer value) => some value
  | .number (.double value) => value.rational?
  | _ => none

/-- **The integer a value stands for is its exact value.** -/
theorem Json.rational?_eq_intCast {value : Json} {integer : Int} :
    value.rational? = some (integer : ℚ) ↔ value.integral? = some integer := by
  cases value with
  | number found =>
    cases found with
    | integer whole =>
      rw [rational?, integral?, Option.some.injEq, Option.some.injEq]
      exact Int.cast_inj
    | double value => exact Double.rational?_eq_intCast
  | null | boolean | text | list | members =>
    exact iff_of_false (Option.some_ne_none _).symm (Option.some_ne_none _).symm

namespace Double

variable {value : Double} {integer : Int}

/-- A number is whole if it stands for an integer. -/
theorem isWhole_of_toInt? (found : value.toInt? = some integer) : value.isWhole = true := by
  obtain ⟨negative, units, rfl, whole, -⟩ := toInt?_eq_some found
  rw [isWhole, fraction, whole]
  cases negative <;> rfl

/-- A number that is whole stands for an integer. -/
theorem exists_of_isWhole (whole : value.isWhole = true) : ∃ integer, value.toInt? = some integer := by
  cases value with
  | nan => cases whole
  | infinite negative => cases whole
  | finite negative units =>
    have rest : units % one = 0 := by
      have nothing : signed negative (units % one) = 0 := beq_iff_eq.mp whole
      have magnitude := congrArg Int.natAbs nothing
      rwa [signed_natAbs_eq] at magnitude
    exact ⟨signed negative (units / one), by rw [toInt?, rest]; rfl⟩

/-- Its sign is that of the integer. -/
theorem isNonnegative_iff (found : value.toInt? = some integer) :
    value.isNonnegative = true ↔ 0 ≤ integer := by
  obtain ⟨negative, units, rfl, whole, rfl⟩ := toInt?_eq_some found
  have scaled : signed negative units = signed negative (units / one) * one := by
    rw [← signed_mul, Nat.div_mul_cancel (Nat.dvd_of_mod_eq_zero whole)]
  have positive : (0 : Int) < one := Int.natCast_pos.mpr one_pos
  have compared : (finite negative units).isNonnegative = true ↔ 0 ≤ signed negative units := by
    have zeroed : signed false 0 = 0 := rfl
    simp only [isNonnegative, zero, less, equal, zeroed, Bool.or_eq_true, decide_eq_true_eq, beq_iff_eq]
    omega
  rw [compared, scaled]
  exact ⟨fun product => Int.nonneg_of_mul_nonneg_left product positive,
    fun nonnegative => Int.mul_nonneg nonnegative (Int.le_of_lt positive)⟩

/-- **The word without a sign** is the nearest one. -/
theorem toUnsigned_eq (found : value.toInt? = some integer) (nonnegative : 0 ≤ integer) :
    value.toUnsigned = min (wordRange - 1) integer.toNat := by
  obtain ⟨negative, units, rfl, -, rfl⟩ := toInt?_eq_some found
  cases negative with
  | false => rfl
  | true =>
    have none : units / one = 0 := by
      rw [signed, if_pos rfl] at nonnegative
      generalize units / one = whole at nonnegative ⊢
      omega
    rw [none]
    rfl

/-- **The word with a sign** is the nearest one. -/
theorem toSigned_eq (found : value.toInt? = some integer) :
    value.toSigned = max (-signedRange) (min (signedRange - 1) integer) := by
  obtain ⟨negative, units, rfl, -, rfl⟩ := toInt?_eq_some found
  rfl

end Double

/-! ### Slots -/

namespace Fd

variable {fd : Fd}

theorem ofNat?_eq_some {index : Nat} : ofNat? index = some fd ↔ index = fd := by
  unfold ofNat?
  split
  · rw [Option.some.injEq, Fin.ext_iff]
  · rename_i beyond
    exact ⟨nofun, fun same => absurd (same ▸ fd.isLt) beyond⟩

theorem ofInteger?_eq_some {integer : Int} : ofInteger? integer = some fd ↔ integer = fd := by
  cases integer with
  | ofNat index => exact ofNat?_eq_some.trans Int.ofNat_inj.symm
  | negSucc index => exact ⟨nofun, nofun⟩

theorem ofInt_eq_ok {integer : Int} : ofInt integer = .ok fd ↔ integer = fd := by
  rw [← ofInteger?_eq_some, ofInt]
  cases ofInteger? integer with
  | none => exact ⟨nofun, nofun⟩
  | some found => rw [Except.ok.injEq, Option.some.injEq]

/-- **A double names the slot it stands for.** -/
theorem ofDouble?_eq_some {value : Double} :
    ofDouble? value = some fd ↔ value.toInt? = some (fd : Int) := by
  unfold ofDouble?
  cases found : value.toInt? with
  | none =>
    have broken : value.isWhole = false := by
      rw [Bool.eq_false_iff]
      intro whole
      obtain ⟨integer, known⟩ := Double.exists_of_isWhole whole
      rw [found] at known
      cases known
    rw [broken]
    exact ⟨nofun, nofun⟩
  | some integer =>
    rw [Double.isWhole_of_toInt? found, Bool.true_and, Option.some.injEq]
    by_cases nonnegative : 0 ≤ integer
    · have range : wordRange = 18446744073709551616 := rfl
      rw [if_pos ((Double.isNonnegative_iff found).mpr nonnegative), ofNat?_eq_some,
        Double.toUnsigned_eq found nonnegative, range]
      omega
    · rw [if_neg fun shown => nonnegative ((Double.isNonnegative_iff found).mp shown)]
      exact ⟨nofun, fun same => absurd (same ▸ Int.natCast_nonneg _) nonnegative⟩

/-- An integer names a slot as a word or not at all: as a double it would be too great. -/
theorem ofNumber?_integer {integer : Int} : ofNumber? (.integer integer) = some fd ↔ integer = fd := by
  have range : wordRange = 18446744073709551616 := rfl
  have rounded (named : ofDouble? (.ofInt integer) = some fd) : integer = fd := by
    have limit : Json.wholeLimit = 9007199254740992 := rfl
    exact Double.eq_of_toInt?_ofInt (ofDouble?_eq_some.mp named) (by omega)
  rw [ofNumber?, Option.or_eq_some_iff, Json.Number.asUnsigned?, Json.Number.asDouble, range]
  split
  · rename_i word
    rw [Option.bind_some, ofNat?_eq_some]
    constructor
    · rintro (named | ⟨-, named⟩)
      · omega
      · exact rounded named
    · exact fun same => .inl (by omega)
  · rename_i outside
    constructor
    · rintro (named | ⟨-, named⟩)
      · cases named
      · exact rounded named
    · exact fun same => absurd (by omega) outside

/-- **A value names the slot it stands for.** -/
theorem ofJson_eq_ok {value : Json} : ofJson value = .ok fd ↔ value.integral? = some (fd : Int) := by
  have named : ofJson value = .ok fd ↔ value.number?.bind ofNumber? = some fd := by
    unfold ofJson
    cases value.number?.bind ofNumber? with
    | none => exact ⟨nofun, nofun⟩
    | some found => rw [Except.ok.injEq, Option.some.injEq]
  rw [named]
  cases value with
  | number found =>
    cases found with
    | integer integer =>
      exact ofNumber?_integer.trans (by rw [Json.integral?, Option.some.injEq])
    | double value => exact ofDouble?_eq_some
  | null | boolean | text | list | members => exact ⟨nofun, nofun⟩

/-- The slot is the exact value. -/
theorem ofJson_eq_ok_rational {value : Json} :
    ofJson value = .ok fd ↔ value.rational? = some ((fd : Nat) : ℚ) := by
  rw [ofJson_eq_ok, ← Json.rational?_eq_intCast, Int.cast_natCast]

end Fd

namespace Syscall

/-- Whether the first argument of a call stands for a slot. -/
def Addresses (args : List Json) (fd : Fd) : Prop := (arg args 0).rational? = some ((fd : Nat) : ℚ)

theorem ofJson_arg {args : List Json} {fd : Fd} : Fd.ofJson (arg args 0) = .ok fd ↔ Addresses args fd :=
  Fd.ofJson_eq_ok_rational

end Syscall

/-! ### Exit codes -/

namespace ExitCode

variable {code : Int}

theorem ofInteger?_eq_some {integer : Int} :
    ofInteger? integer = some code ↔ integer = code ∧ -2147483648 ≤ code ∧ code < 2147483648 := by
  unfold ofInteger?
  split
  · rename_i inside
    rw [Option.some.injEq]
    exact ⟨fun same => ⟨same, same ▸ inside⟩, fun found => found.1⟩
  · rename_i outside
    exact ⟨nofun, fun ⟨same, inside⟩ => absurd (same ▸ inside) outside⟩

/-- **A double names the exit code it stands for.** -/
theorem ofInteger?_toSigned {value : Double} :
    (if value.isWhole then some value.toSigned else none).bind ofInteger? = some code ↔
      value.toInt? = some code ∧ -2147483648 ≤ code ∧ code < 2147483648 := by
  by_cases whole : value.isWhole = true
  · obtain ⟨integer, found⟩ := Double.exists_of_isWhole whole
    have range : signedRange = 9223372036854775808 := rfl
    rw [if_pos whole, Option.bind_some, ofInteger?_eq_some, Double.toSigned_eq found, range, found,
      Option.some.injEq]
    omega
  · rw [if_neg whole]
    exact ⟨nofun, fun ⟨found, _⟩ => absurd (Double.isWhole_of_toInt? found) whole⟩

theorem ofNumber?_integer {integer : Int} : ofNumber? (.integer integer) = some code ↔
    integer = code ∧ -2147483648 ≤ code ∧ code < 2147483648 := by
  have range : signedRange = 9223372036854775808 := rfl
  rw [ofNumber?, Json.Number.asSigned?, Json.Number.asDouble, range]
  split
  · rw [Option.some_or, Option.bind_some, ofInteger?_eq_some]
  · rename_i outside
    rw [Option.none_or, ofInteger?_toSigned]
    constructor
    · rintro ⟨found, inside⟩
      have limit : Json.wholeLimit = 9007199254740992 := rfl
      exact ⟨Double.eq_of_toInt?_ofInt found (by omega), inside⟩
    · rintro ⟨same, inside⟩
      exact absurd (by omega) outside

/-- **A value names the exit code it stands for**, and null names zero. -/
theorem ofJson_eq_ok {value : Json} : ofJson value = .ok code ↔ value = .null ∧ code = 0 ∨
    value.integral? = some code ∧ -2147483648 ≤ code ∧ code < 2147483648 := by
  cases value with
  | null =>
    rw [ofJson, Except.ok.injEq]
    constructor
    · exact fun same => .inl ⟨rfl, same.symm⟩
    · rintro (⟨-, same⟩ | ⟨found, -⟩)
      · exact same.symm
      · cases found
  | number found =>
    have named : ofJson (.number found) = .ok code ↔ ofNumber? found = some code := by
      rw [ofJson]
      cases ofNumber? found with
      | none => exact ⟨nofun, nofun⟩
      | some known => rw [Except.ok.injEq, Option.some.injEq]
    rw [named, or_iff_right (fun ⟨same, _⟩ => nomatch same)]
    cases found with
    | integer integer => rw [ofNumber?_integer, Json.integral?, Option.some.injEq]
    | double value => exact ofInteger?_toSigned
  | boolean | text | list | members => exact ⟨nofun, nofun⟩

end ExitCode

/-- **A slot or an exit code is named by the numbers whose exact value it is, and by no others**; an exit code of
zero is named by null too. -/
theorem numbers_exact :
    (∀ (value : Json) (fd : Fd), Fd.ofJson value = .ok fd ↔ value.rational? = some ((fd : Nat) : ℚ)) ∧
      (∀ (value : Json) (code : ExitCode), ExitCode.ofJson value = .ok code ↔
        value = .null ∧ code = 0 ∨
          value.rational? = some (code : ℚ) ∧ -2147483648 ≤ code ∧ code < 2147483648) ∧
      (∀ (integer : Int) (fd : Fd), Fd.ofInt integer = .ok fd ↔ integer = fd) ∧
      ∀ (index : Nat) (fd : Fd), Fd.ofNat? index = some fd ↔ index = fd := by
  refine ⟨fun _ _ => Fd.ofJson_eq_ok_rational, fun value code => ?_, fun _ _ => Fd.ofInt_eq_ok,
    fun _ _ => Fd.ofNat?_eq_some⟩
  rw [ExitCode.ofJson_eq_ok, Json.rational?_eq_intCast]

end ScriptKernel
