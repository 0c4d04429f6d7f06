/-
**Numbers as words of 64 bits.**

A double becomes a word without what stands behind its point. What lies beyond the words becomes the nearest of
them, and what is not a number becomes zero.

* `Double.fraction`: what stands behind the point, so that a number is whole if it is a zero;
* `Double.toUnsigned`, `Double.toSigned`: the words without and with a sign.
-/

import ScriptKernel.Number.Double

set_option autoImplicit false

namespace ScriptKernel

/-- One more than the greatest word without a sign. -/
def wordRange : Nat := Nat.pow 2 64

/-- One more than the greatest word with a sign; the least one is as far below zero. -/
def signedRange : Int := Nat.pow 2 63

namespace Double

/-- The positive zero. -/
def zero : Double := .finite false 0

/-- What stands behind the point, with the sign of the number; an infinity has none. -/
def fraction : Double → Double
  | .finite negative units => .finite negative (units % one)
  | _ => .nan

/-- Whether the number is a whole one. -/
def isWhole (value : Double) : Bool := value.fraction.equal zero

/-- Whether the number is not below zero. -/
def isNonnegative (value : Double) : Bool := zero.less value || zero.equal value

/-- The word without a sign. -/
def toUnsigned : Double → Nat
  | .nan => 0
  | .infinite negative => if negative then 0 else wordRange - 1
  | .finite negative units => if negative then 0 else min (wordRange - 1) (units / one)

/-- The word with a sign. -/
def toSigned : Double → Int
  | .nan => 0
  | .infinite negative => if negative then -signedRange else signedRange - 1
  | .finite negative units => max (-signedRange) (min (signedRange - 1) (signed negative (units / one)))

end Double

end ScriptKernel
