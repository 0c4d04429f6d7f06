/-
**The numbers of structured values.**

A number is read as a word of 64 bits, without or with a sign, only if it is written as an integer, and as a
double in any case.

* `Json.Number.asUnsigned?`, `asSigned?`, `asDouble`: the three readings;
* `Json.integral?`: the exact value of a number, if it is an integer.
-/

import ScriptKernel.Json.Basic
import ScriptKernel.Number.Word

set_option autoImplicit false

namespace ScriptKernel.Json

/-- The number that a value is, if it is one. -/
def number? : Json → Option Number
  | .number value => some value
  | _ => none

namespace Number

/-- An integer that is a word without a sign. -/
def asUnsigned? : Number → Option Nat
  | .integer value => if 0 ≤ value ∧ value < wordRange then some value.toNat else none
  | .double _ => none

/-- An integer that is a word with a sign. -/
def asSigned? : Number → Option Int
  | .integer value => if -signedRange ≤ value ∧ value < signedRange then some value else none
  | .double _ => none

/-- The number as a double; an integer that is none is rounded. -/
def asDouble : Number → Double
  | .integer value => .ofInt value
  | .double value => value

end Number

/-- The exact value of a number, if it is an integer. -/
def integral? : Json → Option Int
  | .number (.integer value) => some value
  | .number (.double value) => value.toInt?
  | _ => none

end ScriptKernel.Json
