/-
**Tables of characters.**

* `inRanges`: membership of a code point in an ascending list of ranges; a code point beyond the next range
  is looked for in the ranges after it, one before it is in none.
-/

set_option autoImplicit false

namespace ScriptKernel

/-- Whether a code point lies in an ascending list of ranges, both ends included. -/
def inRanges (code : Nat) : List (Nat × Nat) → Bool
  | [] => false
  | (first, last) :: rest => if code < first then false else code ≤ last || inRanges code rest

end ScriptKernel
