/-
**Integers as doubles.**

* `Double.rational?`: the exact value of a double, as a fraction;
* `Double.ofInt_eq`: **an integer up to the limit is a double**;
* `Double.le_round`: rounding does not fall below a power of two that the magnitude reaches;
* `Double.eq_of_toInt?_ofInt`: so a small double comes from no integer but its own value.
-/

import Mathlib.Algebra.Field.Rat
import Mathlib.Algebra.Order.Ring.Nat
import Mathlib.Data.Rat.Cast.Defs
import Mathlib.Tactic.NormNum
import ScriptKernel.Number.Word
import ScriptKernel.Proofs.Json.Shape

set_option autoImplicit false

namespace ScriptKernel.Double

/-- A whole number of steps is its own rounding. -/
theorem nearestEven_mul (quotient : Nat) {step : Nat} (positive : 0 < step) :
    nearestEven (quotient * step) step = quotient := by
  unfold nearestEven
  rw [Nat.mul_div_cancel _ positive, Nat.mul_mod_left]
  have noExcess : (decide (2 * 0 > step) || (2 * 0 == step && quotient % 2 == 1)) = false := by
    simp; omega
  rw [if_neg (by rw [noExcess]; decide)]

/-- A magnitude that is a whole number of steps is its own rounding. -/
theorem round_of_dvd (negative : Bool) {units : Nat} (steps : spacing units ∣ units)
    (positive : 0 < spacing units) (finite : units ≤ largest) :
    round negative units 1 = .finite negative units := by
  obtain ⟨quotient, whole⟩ := steps
  have settled : nearestEven units (1 * spacing units) * spacing units = units := by
    conv_lhs =>
      rw [Nat.one_mul]
      arg 1
      arg 1
      rw [whole, Nat.mul_comm]
    rw [nearestEven_mul _ positive, Nat.mul_comm, ← whole]
  unfold round
  simp only [Nat.div_one, settled]
  rw [if_neg (Nat.not_lt.mpr finite)]

/-- The number one is a power of two. -/
theorem one_eq : ∃ bits, bits = 1074 ∧ one = 2 ^ bits := by
  obtain ⟨bits, same⟩ : ∃ bits, bits = 1074 := ⟨_, rfl⟩
  refine ⟨bits, same, ?_⟩
  unfold one
  rw [← same, Nat.pow_eq]

theorem one_pos : 0 < one := by
  obtain ⟨bits, -, scale⟩ := one_eq
  rw [scale]
  exact Nat.pow_pos (by decide)

/-- **An integer up to the limit is a double.** -/
theorem ofInt_eq {value : Int} (small : value.natAbs ≤ Json.wholeLimit) :
    ofInt value = .finite (decide (value < 0)) (value.natAbs * one) := by
  unfold ofInt
  generalize decide (value < 0) = negative
  generalize value.natAbs = natural at small ⊢
  rcases Nat.eq_zero_or_pos natural with rfl | positive
  · rw [Nat.zero_mul]
    exact round_of_lt negative (by decide)
  · obtain ⟨bits, enough, scale⟩ := one_eq
    have large : ¬ natural * one < Nat.pow 2 53 := by
      have : Nat.pow 2 53 ≤ one := scale ▸ Nat.pow_le_pow_right (by decide) (by omega)
      have : 1 * one ≤ natural * one := Nat.mul_le_mul_right one positive
      omega
    have log : (natural * one).log2 = natural.log2 + bits := by
      have nonzero : natural ≠ 0 := Nat.ne_of_gt positive
      have low := Nat.log2_self_le nonzero
      have high := Nat.lt_log2_self (n := natural)
      refine (Nat.log2_eq_iff (Nat.mul_ne_zero nonzero (Nat.ne_of_gt one_pos))).mpr ?_
      rw [scale, show natural.log2 + bits + 1 = natural.log2 + 1 + bits by omega, Nat.pow_add,
        Nat.pow_add 2 (natural.log2 + 1)]
      exact ⟨Nat.mul_le_mul_right _ low, Nat.mul_lt_mul_of_pos_right high (Nat.pow_pos (by decide))⟩
    have step : spacing (natural * one) = 2 ^ (natural.log2 + bits - 52) := by
      unfold spacing
      rw [if_neg large, log]
      rfl
    have bound : natural * one ≤ largest := by
      have : Json.wholeLimit * one ≤ largest := by decide +kernel
      exact (Nat.mul_le_mul_right one small).trans this
    refine round_of_dvd negative ?_ (by rw [step]; exact Nat.pow_pos (by decide)) bound
    rw [step, scale]
    rcases Nat.lt_or_eq_of_le small with below | rfl
    · have few : natural.log2 ≤ 52 :=
        Nat.le_of_lt_succ ((Nat.log2_lt (Nat.ne_of_gt positive)).mpr below)
      exact (Nat.pow_dvd_pow 2 (by omega)).trans (Nat.dvd_mul_left ..)
    · have limit : Json.wholeLimit = 2 ^ 53 := rfl
      rw [limit, Nat.log2_two_pow, ← Nat.pow_add]
      exact Nat.pow_dvd_pow 2 (by omega)

theorem signed_natAbs (value : Int) : signed (decide (value < 0)) value.natAbs = value := by
  unfold signed
  split <;> rename_i negative <;> simp at negative <;> omega

/-! ### Integers beyond the limit -/

/-- The steps between neighbours go into the power of two below them. -/
theorem spacing_dvd (units : Nat) : spacing units ∣ 2 ^ units.log2 := by
  unfold spacing
  split
  · exact Nat.one_dvd _
  · exact Nat.pow_dvd_pow 2 (Nat.sub_le _ _)

/-- A quotient is rounded to itself or to the next one. -/
theorem div_le_nearestEven (numerator denominator : Nat) :
    numerator / denominator ≤ nearestEven numerator denominator := by
  unfold nearestEven
  dsimp only
  split
  · exact Nat.le_succ _
  · exact Nat.le_refl _

/-- **Rounding does not fall below a power of two** that the magnitude reaches. -/
theorem le_round {negative sign : Bool} {units bits rounded : Nat} (reached : 2 ^ bits ≤ units)
    (finite : round negative units 1 = .finite sign rounded) : 2 ^ bits ≤ rounded := by
  have nonzero : units ≠ 0 := by
    rintro rfl
    exact absurd reached (Nat.not_le.mpr (Nat.pow_pos (by decide)))
  obtain ⟨count, whole⟩ := spacing_dvd units
  have positive : 0 < spacing units :=
    Nat.pos_of_dvd_of_pos ⟨count, whole⟩ (Nat.pow_pos (by decide))
  unfold round at finite
  simp only [Nat.div_one, Nat.one_mul] at finite
  split at finite
  · cases finite
  · cases finite
    calc 2 ^ bits ≤ 2 ^ units.log2 :=
          Nat.pow_le_pow_right (by decide) ((Nat.le_log2 nonzero).mpr reached)
      _ = count * spacing units := by rw [whole, Nat.mul_comm]
      _ ≤ units / spacing units * spacing units := by
          refine Nat.mul_le_mul_right _ ((Nat.le_div_iff_mul_le positive).mpr ?_)
          rw [Nat.mul_comm, ← whole]
          exact Nat.log2_self_le nonzero
      _ ≤ nearestEven units (spacing units) * spacing units :=
          Nat.mul_le_mul_right _ (div_le_nearestEven _ _)

theorem signed_natAbs_eq (negative : Bool) (units : Nat) : (signed negative units).natAbs = units := by
  unfold signed
  split
  · rw [Int.natAbs_neg, Int.natAbs_natCast]
  · rw [Int.natAbs_natCast]

/-- A double that stands for an integer is finite, and a whole number of ones. -/
theorem toInt?_eq_some {value : Double} {integer : Int} (found : value.toInt? = some integer) :
    ∃ negative units, value = .finite negative units ∧ units % one = 0 ∧
      integer = signed negative (units / one) := by
  cases value with
  | nan => cases found
  | infinite negative => cases found
  | finite negative units =>
    simp only [toInt?] at found
    split at found
    · rename_i whole
      cases found
      exact ⟨negative, units, rfl, beq_iff_eq.mp whole, rfl⟩
    · cases found

/-- **A small double comes from no integer but its own value.** -/
theorem eq_of_toInt?_ofInt {value integer : Int} (found : (ofInt value).toInt? = some integer)
    (small : integer.natAbs < Json.wholeLimit) : value = integer := by
  rcases Nat.lt_or_ge Json.wholeLimit value.natAbs with many | few
  · -- Beyond the limit the double is not below it either.
    obtain ⟨negative, units, rounded, -, rfl⟩ := toInt?_eq_some found
    obtain ⟨bits, -, scale⟩ := one_eq
    have limit : Json.wholeLimit = 2 ^ 53 := rfl
    have scaled : Json.wholeLimit * one = 2 ^ (53 + bits) := by rw [limit, scale, ← Nat.pow_add]
    have reached : 2 ^ (53 + bits) ≤ value.natAbs * one :=
      scaled ▸ Nat.mul_le_mul_right one (Nat.le_of_lt many)
    have great : Json.wholeLimit * one ≤ units := scaled ▸ le_round reached rounded
    rw [signed_natAbs_eq] at small
    exact absurd small (Nat.not_lt.mpr ((Nat.le_div_iff_mul_le one_pos).mpr great))
  · rw [ofInt_eq few] at found
    simp only [toInt?, Nat.mul_mod_left, beq_self_eq_true, if_true, Nat.mul_div_cancel _ one_pos,
      signed_natAbs] at found
    exact Option.some.inj found

/-! ### The exact value -/

/-- The exact value of a finite double. -/
def rational? : Double → Option ℚ
  | .finite negative units => some (signed negative units / one)
  | _ => none

theorem signed_mul (negative : Bool) (units scale : Nat) :
    signed negative (units * scale) = signed negative units * scale := by
  unfold signed
  split
  · rw [Int.natCast_mul, Int.neg_mul]
  · rw [Int.natCast_mul]

/-- **The integer a double stands for is its exact value.** -/
theorem rational?_eq_intCast {value : Double} {integer : Int} :
    value.rational? = some (integer : ℚ) ↔ value.toInt? = some integer := by
  cases value with
  | nan => exact ⟨nofun, nofun⟩
  | infinite negative => exact ⟨nofun, nofun⟩
  | finite negative units =>
    have nonzero : (one : ℚ) ≠ 0 := Nat.cast_ne_zero.mpr (Nat.ne_of_gt one_pos)
    have counted : (finite negative units).rational? = some (integer : ℚ) ↔
        signed negative units = integer * one := by
      rw [rational?, Option.some.injEq, div_eq_iff nonzero]
      exact_mod_cast Iff.rfl
    rw [counted]
    constructor
    · intro same
      have multiple : units = integer.natAbs * one := by
        have magnitude := congrArg Int.natAbs same
        rwa [signed_natAbs_eq, Int.natAbs_mul, Int.natAbs_natCast] at magnitude
      have signs : signed negative integer.natAbs = integer := by
        refine Int.eq_of_mul_eq_mul_right (Int.natCast_ne_zero.mpr (Nat.ne_of_gt one_pos)) ?_
        rw [← signed_mul, ← multiple, same]
      rw [toInt?, multiple, Nat.mul_mod_left, Nat.mul_div_cancel _ one_pos, signs]
      rfl
    · intro found
      obtain ⟨_, _, same, whole, rfl⟩ := toInt?_eq_some found
      cases same
      rw [← signed_mul, Nat.div_mul_cancel (Nat.dvd_of_mod_eq_zero whole)]

end ScriptKernel.Double
