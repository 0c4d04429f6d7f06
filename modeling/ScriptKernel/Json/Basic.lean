/-
**Structured values.**

* `Json`: null, booleans, numbers, text, lists, and objects whose keys ascend and do not repeat;
* `Json.Number`: an integer from `-2 ^ 63` up to `2 ^ 64 - 1`, or a double;
* `Json.object`: builds an object from fields in any order, the last of two equal keys winning.
-/

import ScriptKernel.Number.Decimal

set_option autoImplicit false

namespace ScriptKernel

/-- A number of structured text. -/
inductive Json.Number
  | integer (value : Int)
  | double (value : Double)
  deriving DecidableEq, Repr, Inhabited

/-- A structured value; the keys of `members` ascend. -/
inductive Json
  | null
  | boolean (value : Bool)
  | number (value : Json.Number)
  | text (value : String)
  | list (items : List Json)
  | members (entries : List (String × Json))
  deriving Repr, Inhabited, BEq

namespace Json

/-- Puts a field in its place, over an older one of the same key. -/
def insert {α : Type} (key : String) (value : α) : List (String × α) → List (String × α)
  | [] => [(key, value)]
  | (other, old) :: rest =>
    if key < other then (key, value) :: (other, old) :: rest
    else if key = other then (key, value) :: rest
    else (other, old) :: insert key value rest

/-- An object made of fields in any order. -/
def object (entries : List (String × Json)) : Json :=
  .members (entries.foldl (fun built entry => insert entry.1 entry.2 built) [])

/-- The natural number as a value. -/
def nat (value : Nat) : Json := .number (.integer value)

/-- The integer as a value. -/
def int (value : Int) : Json := .number (.integer value)

/-- A list of texts as a value. -/
def texts (items : List String) : Json := .list (items.map Json.text)

/-- A table of texts as a value. -/
def textFields (entries : List (String × String)) : Json :=
  object (entries.map fun entry => (entry.1, .text entry.2))

/-- The value if there is one, else null. -/
def ofOption {α : Type} (encode : α → Json) : Option α → Json
  | none => .null
  | some value => encode value

/-- The value of a key. -/
def lookup? {α : Type} (key : String) : List (String × α) → Option α
  | [] => none
  | (other, value) :: rest => if key = other then some value else lookup? key rest

/-- The value of a key of an object. -/
def field? (value : Json) (key : String) : Option Json :=
  match value with
  | .members entries => lookup? key entries
  | _ => none

end Json

end ScriptKernel
