/-
**Decimal digits of a double.**

* `Decimal`: a natural coefficient times a power of ten;
* `Double.shortest`: the decimal with the fewest digits that reads back as the same double, the nearest
  of those, an even last digit on a tie;
* `Double.searched`: the decimal found by halving the range of digit counts, which may have more digits;
* `Layout.write`: the digits set out as text; `Layout` holds what one format decides.
-/

import ScriptKernel.Number.Double

set_option autoImplicit false

namespace ScriptKernel

/-- The number `coefficient · 10 ^ exponent`. -/
structure Decimal where
  coefficient : Nat
  exponent : Int
  deriving DecidableEq, Repr

namespace Decimal

/-- Moves up to `limit` trailing zeros of the coefficient into the exponent. -/
def strip : Nat → Decimal → Decimal
  | 0, decimal => decimal
  | limit + 1, decimal =>
    if decimal.coefficient != 0 && decimal.coefficient % 10 == 0 then
      strip limit ⟨decimal.coefficient / 10, decimal.exponent + 1⟩
    else decimal

/-- The digits of the coefficient. -/
def digits (decimal : Decimal) : String := toString decimal.coefficient

end Decimal

namespace Double

/-- The power of ten of the leading digit of a positive magnitude. -/
def leadingPower (units : Nat) : Int :=
  ((Nat.toDigits 10 (units * Nat.pow 10 340 / one)).length : Int) - 341

/-- `units / 10 ^ power` as a fraction of naturals. -/
def scaled (units : Nat) (power : Int) : Nat × Nat :=
  if power < 0 then (units * Nat.pow 10 power.natAbs, one) else (units, one * Nat.pow 10 power.natAbs)

/-- Whether `coefficient · 10 ^ power` rounds to this magnitude. -/
def readsBack (units coefficient : Nat) (power : Int) : Bool :=
  let step := spacing units
  let below := if units == Nat.pow 2 units.log2 && units > Nat.pow 2 53 then step else 2 * step
  let even := units / step % 2 == 0
  let (value, denominator) :=
    if power < 0 then (coefficient * one, Nat.pow 10 power.natAbs)
    else (coefficient * one * Nat.pow 10 power.natAbs, 1)
  let low := (4 * units - below) * denominator
  let high := (4 * units + 2 * step) * denominator
  let point := 4 * value
  if even then decide (low ≤ point ∧ point ≤ high) else decide (low < point ∧ point < high)

/-- The nearest point of the grid `10 ^ power` that rounds to this magnitude, if there is one. -/
def onGrid (units : Nat) (power : Int) : Option Nat :=
  let (numerator, denominator) := scaled units power
  let floor := numerator / denominator
  let excess := 2 * (numerator % denominator)
  let nearer :=
    if excess > denominator || (excess == denominator && floor % 2 == 1) then floor + 1 else floor
  let other := if nearer == floor then floor + 1 else floor
  if readsBack units nearer power then some nearer
  else if readsBack units other power then some other
  else none

/-- Tries one more digit until a grid has a point that reads back. -/
def shortestFrom (units : Nat) (leading : Int) : Nat → Nat → Decimal
  | 0, _ => ⟨units, 0⟩
  | attempts + 1, count =>
    let power := leading - count
    match onGrid units power with
    | some coefficient => Decimal.strip 20 ⟨coefficient, power⟩
    | none => shortestFrom units leading attempts (count + 1)

/-- The fewest digits that read back as this positive magnitude. -/
def shortest (units : Nat) : Decimal :=
  if units == 0 then ⟨0, 0⟩ else shortestFrom units (leadingPower units) 18 0

/-- A positive magnitude rounded to so many digits, a tie going to the even last digit. -/
def rounded (units count : Nat) : Decimal :=
  let power := leadingPower units + 1 - count
  let (numerator, denominator) := scaled units power
  Decimal.strip 20 ⟨nearestEven numerator denominator, power⟩

/-- Searches for a count of digits that reads back, by trying the middle of the counts from `low` to `high`;
a count that reads back bounds the others without the zeros at its end. -/
def searchCount (units : Nat) : Nat → Nat → Nat → Nat
  | 0, _, high => high
  | attempts + 1, low, high =>
    if low < high then
      let middle := (low + high) / 2
      let attempt := rounded units middle
      if readsBack units attempt.coefficient attempt.exponent then
        searchCount units attempts low attempt.digits.length
      else searchCount units attempts (middle + 1) high
    else high

/-- The decimal that the search among at most seventeen digits finds for a positive magnitude. -/
def searched (units : Nat) : Decimal := rounded units (searchCount units 17 1 17)

end Double

/-- How a format sets out the digits of a finite double. -/
structure Layout where
  /-- The digits of a positive magnitude. -/
  digits : Nat → Decimal
  /-- The least power of the leading digit written without an exponent. -/
  lowest : Int
  /-- The greatest power of the leading digit written without an exponent. -/
  highest : Int
  /-- A whole number written without an exponent ends in `.0`. -/
  keepsFraction : Bool
  /-- The negative zero shows its sign. -/
  signedZero : Bool

namespace Layout

/-- Numbers in messages and structured text: always a fraction or an exponent. -/
def message : Layout := ⟨Double.shortest, -5, 15, true, true⟩

/-- Numbers as scripts print them. -/
def script : Layout := ⟨Double.searched, -6, 20, false, false⟩

/-- A positive decimal as text. -/
def writeDecimal (layout : Layout) (decimal : Decimal) : String :=
  let digits := decimal.digits
  let power := decimal.exponent + digits.length - 1
  if layout.lowest ≤ power ∧ power ≤ layout.highest then
    if decimal.exponent ≥ 0 then
      digits ++ String.ofList (List.replicate decimal.exponent.natAbs '0') ++
        (if layout.keepsFraction then ".0" else "")
    else if power ≥ 0 then
      let whole := power.natAbs + 1
      String.ofList (digits.toList.take whole) ++ "." ++ String.ofList (digits.toList.drop whole)
    else
      "0." ++ String.ofList (List.replicate (power.natAbs - 1) '0') ++ digits
  else
    let head := String.ofList (digits.toList.take 1)
    let tail := digits.toList.drop 1
    let fraction := if tail.isEmpty then "" else "." ++ String.ofList tail
    let sign := if power < 0 then "-" else "+"
    head ++ fraction ++ "e" ++ sign ++ toString power.natAbs

/-- A finite double as text. -/
def write (layout : Layout) (negative : Bool) (units : Nat) : String :=
  if units == 0 then
    (if negative && layout.signedZero then "-" else "") ++ "0" ++
      (if layout.keepsFraction then ".0" else "")
  else (if negative then "-" else "") ++ layout.writeDecimal (layout.digits units)

end Layout

/-- A double as scripts print it; an integer below `2 ^ 53` shows all its digits. -/
def Double.text (value : Double) : String :=
  match value with
  | .nan => "NaN"
  | .infinite negative => (if negative then "-" else "") ++ "Infinity"
  | .finite negative units =>
    if units % Double.one == 0 && units / Double.one < Nat.pow 2 53 then
      toString (Double.signed negative (units / Double.one))
    else Layout.script.write negative units

end ScriptKernel
