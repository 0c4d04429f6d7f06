/-
**Double-precision numbers, exactly.**

A finite double is a sign and a magnitude counted in the smallest positive double, `2 ^ (-1074)`, so
every finite double is a natural number with a sign and arithmetic on them is arithmetic on naturals
followed by one rounding.

* `Double.round`: the nearest representable number of units, ties to an even significand, and infinity
  beyond the largest finite double;
* `Double.add`, `sub`, `mul`, `div`, `rem`: the exact result, rounded once;
* `Double.less`, `Double.equal`: the numeric order, where a not-a-number compares with nothing and the
  two zeros are equal.
-/

set_option autoImplicit false

namespace ScriptKernel

/-- A double: not a number, an infinity, or a signed magnitude in units of `2 ^ (-1074)`. -/
inductive Double
  | nan
  | infinite (negative : Bool)
  | finite (negative : Bool) (units : Nat)
  deriving DecidableEq, Repr, Inhabited

namespace Double

/-- The units in the number one. -/
def one : Nat := Nat.pow 2 1074

/-- The units of the largest finite double. -/
def largest : Nat := (Nat.pow 2 53 - 1) * Nat.pow 2 2045

/-- The distance, in units, between neighbouring doubles at this magnitude. -/
def spacing (units : Nat) : Nat :=
  if units < Nat.pow 2 53 then 1 else Nat.pow 2 (units.log2 - 52)

/-- A whole quotient rounded to nearest, a tie going to the even one. -/
def nearestEven (numerator denominator : Nat) : Nat :=
  let quotient := numerator / denominator
  let excess := 2 * (numerator % denominator)
  if excess > denominator || (excess == denominator && quotient % 2 == 1) then quotient + 1
  else quotient

/-- The double nearest to `numerator / denominator` units. -/
def round (negative : Bool) (numerator denominator : Nat) : Double :=
  let step := spacing (numerator / denominator)
  let units := nearestEven numerator (denominator * step) * step
  if units > largest then .infinite negative else .finite negative units

/-- The double nearest to a natural number. -/
def ofNat (value : Nat) : Double := round false (value * one) 1

/-- The double nearest to an integer; zero is the positive zero. -/
def ofInt (value : Int) : Double := round (decide (value < 0)) (value.natAbs * one) 1

/-- The double nearest to `coefficient · 10 ^ exponent`; the power of ten of the leading digit tells
what lies beyond every finite double and what is closer to zero than to the smallest one. -/
def ofDecimal (negative : Bool) (coefficient : Nat) (exponent : Int) : Double :=
  let leading := exponent + (Nat.toDigits 10 coefficient).length
  if coefficient == 0 || leading < -330 then .finite negative 0
  else if leading > 310 then .infinite negative
  else if exponent < 0 then round negative (coefficient * one) (Nat.pow 10 exponent.natAbs)
  else round negative (coefficient * Nat.pow 10 exponent.natAbs * one) 1

/-- The opposite number. -/
def neg : Double → Double
  | .nan => .nan
  | .infinite negative => .infinite !negative
  | .finite negative units => .finite (!negative) units

/-- Whether the number is a zero of either sign. -/
def isZero : Double → Bool
  | .finite _ units => units == 0
  | _ => false

/-- Whether the number is not a number. -/
def isNaN : Double → Bool
  | .nan => true
  | _ => false

/-- Whether the number is finite. -/
def isFinite : Double → Bool
  | .finite .. => true
  | _ => false

/-- The sign bit; a not-a-number counts as positive. -/
def isNegative : Double → Bool
  | .nan => false
  | .infinite negative => negative
  | .finite negative _ => negative

/-- The signed count of units. -/
def signed (negative : Bool) (units : Nat) : Int :=
  if negative then -(units : Int) else units

/-- The integer a finite double stands for, if it stands for one. -/
def toInt? : Double → Option Int
  | .finite negative units => if units % one == 0 then some (signed negative (units / one)) else none
  | _ => none

/-- The value of a double that is a natural number. -/
def toNat? (value : Double) : Option Nat :=
  match value.toInt? with
  | some (.ofNat natural) => some natural
  | _ => none

/-- The sum; two opposite numbers make the positive zero. -/
def add : Double → Double → Double
  | .nan, _ | _, .nan => .nan
  | .infinite first, .infinite second => if first == second then .infinite first else .nan
  | .infinite negative, .finite .. | .finite .., .infinite negative => .infinite negative
  | .finite first units, .finite second others =>
    let sum := signed first units + signed second others
    if sum == 0 then .finite (first && second) 0
    else round (decide (sum < 0)) sum.natAbs 1

/-- The difference. -/
def sub (first second : Double) : Double := add first second.neg

/-- The product. -/
def mul : Double → Double → Double
  | .nan, _ | _, .nan => .nan
  | .infinite first, .infinite second => .infinite (first != second)
  | .infinite first, .finite second units | .finite second units, .infinite first =>
    if units == 0 then .nan else .infinite (first != second)
  | .finite first units, .finite second others => round (first != second) (units * others) one

/-- The quotient. -/
def div : Double → Double → Double
  | .nan, _ | _, .nan => .nan
  | .infinite _, .infinite _ => .nan
  | .infinite first, .finite second _ => .infinite (first != second)
  | .finite first _, .infinite second => .finite (first != second) 0
  | .finite first units, .finite second others =>
    if others == 0 then (if units == 0 then .nan else .infinite (first != second))
    else round (first != second) (units * one) others

/-- The remainder of division toward zero, with the sign of the dividend. -/
def rem : Double → Double → Double
  | .nan, _ | _, .nan | .infinite _, _ => .nan
  | .finite first units, .infinite _ => .finite first units
  | .finite first units, .finite _ others =>
    if others == 0 then .nan else .finite first (units % others)

/-- Numeric equality. -/
def equal : Double → Double → Bool
  | .nan, _ | _, .nan => false
  | .infinite first, .infinite second => first == second
  | .finite first units, .finite second others => signed first units == signed second others
  | _, _ => false

/-- The numeric order. -/
def less : Double → Double → Bool
  | .nan, _ | _, .nan => false
  | .infinite first, .infinite second => first && !second
  | .infinite first, .finite .. => first
  | .finite .., .infinite second => !second
  | .finite first units, .finite second others => decide (signed first units < signed second others)

/-! ### Small facts -/

theorem nearestEven_one (numerator : Nat) : nearestEven numerator 1 = numerator := by
  simp [nearestEven, Nat.mod_one]

/-- A magnitude below `2 ^ 53` units is its own rounding. -/
theorem round_of_lt (negative : Bool) {units : Nat} (small : units < Nat.pow 2 53) :
    round negative units 1 = .finite negative units := by
  have bound : ¬ units > largest := by
    have : Nat.pow 2 53 ≤ largest := by unfold largest; decide +kernel
    omega
  have single : spacing units = 1 := if_pos small
  simp only [round, Nat.div_one, single, Nat.mul_one, nearestEven_one, if_neg bound]

theorem neg_neg (value : Double) : value.neg.neg = value := by
  cases value <;> simp [neg]

end Double

end ScriptKernel
