/-
**Fields with a default.**

Looking into a structured value without complaint: what is not there, or is of another kind, counts as the
empty value of the kind that was asked for.

* `Json.part`, `textAt`, `integerAt`, `naturalAt`, `flagAt`, `itemsAt`, `textsAt`, `entriesAt`: a field as a
  value of one kind.
-/

import ScriptKernel.Fd

set_option autoImplicit false

namespace ScriptKernel.Json

/-- A value as a text. -/
def asText : Json → String
  | .text value => value
  | _ => ""

/-- A value as an integer. -/
def asInteger (value : Json) : Int := value.integral?.getD 0

/-- A value as a natural number. -/
def asNatural (value : Json) : Nat := value.asInteger.toNat

/-- A value as a list. -/
def asItems : Json → List Json
  | .list items => items
  | _ => []

/-- A value as the fields of an object. -/
def asEntries : Json → List (String × Json)
  | .members entries => entries
  | _ => []

variable (value : Json) (key : String)

/-- Whether there is a field. -/
def has : Bool := (value.field? key).isSome

/-- A field, null if it is not there. -/
def part : Json := (value.field? key).getD .null

/-- A field as a text. -/
def textAt : String := (value.part key).asText

/-- A field as an integer. -/
def integerAt : Int := (value.part key).asInteger

/-- A field as a natural number. -/
def naturalAt : Nat := (value.part key).asNatural

/-- A field as a flag. -/
def flagAt : Bool :=
  match value.part key with
  | .boolean flag => flag
  | _ => false

/-- A field as a list. -/
def itemsAt : List Json := (value.part key).asItems

/-- A field as a list of texts. -/
def textsAt : List String := (value.itemsAt key).map asText

/-- A field as the fields of an object. -/
def entriesAt : List (String × Json) := (value.part key).asEntries

/-- A field as a table of texts. -/
def textEntriesAt : List (String × String) :=
  (value.entriesAt key).map fun entry => (entry.1, entry.2.asText)

end ScriptKernel.Json
