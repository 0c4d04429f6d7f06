/-
**The values of a script.**

* `Value`: undefined, null, booleans, numbers, texts, big integers, symbols, objects by their address, and
  what a panic of a host function throws;
* `Key`, `Property`: what an object's fields are found by, and what they hold;
* `Key.ordered`: the order in which the fields of an object are listed: array indices ascending, then the
  other texts as they came, then symbols.
-/

import ScriptKernel.Number.Decimal
import ScriptKernel.Text.Units

set_option autoImplicit false

namespace ScriptKernel.Script

/-- Where an object is. -/
abbrev Address := Nat

/-- A value. -/
inductive Value
  | undefined
  | null
  | boolean (value : Bool)
  | number (value : Double)
  | text (value : Units)
  | bigint (value : Int)
  | symbol (number : Nat)
  | object (address : Address)
  /-- What a panic of a host function throws; a script can catch it and throw it again, but not use it. -/
  | panic
  deriving DecidableEq, Repr, Inhabited

namespace Value

/-- A text as a value. -/
def ofString (text : String) : Value := .text (.ofString text)

/-- A natural number as a value. -/
def ofNat (value : Nat) : Value := .number (.ofNat value)

/-- Whether the value is undefined or null. -/
def isNothing : Value → Bool
  | .undefined | .null => true
  | _ => false

end Value

/-- What a field is found by. -/
inductive Key
  | text (name : Units)
  | symbol (number : Nat)
  deriving DecidableEq, Repr, Inhabited

namespace Key

/-- A name as a key. -/
def ofString (name : String) : Key := .text (.ofString name)

/-- The index a key stands for, if it stands for one. -/
def index? : Key → Option Nat
  | .text name => name.index?
  | .symbol _ => none

/-- A natural number as a key. -/
def ofNat (index : Nat) : Key := .ofString (toString index)

/-- Whether the key is a symbol. -/
def isSymbol : Key → Bool
  | .symbol _ => true
  | .text _ => false

/-- Puts an index in its place among ascending ones. -/
def insertIndex (index : Nat) : List Nat → List Nat
  | [] => [index]
  | other :: rest => if index < other then index :: other :: rest else other :: insertIndex index rest

/-- Keys in the order in which they are listed, with some ascending indices of which none is among them. -/
def ordered (first : List Nat) (keys : List Key) : List Key :=
  let indices := (keys.filterMap index?).foldl (fun sorted index => insertIndex index sorted) first
  indices.map ofNat ++ (keys.filter fun key => key.index?.isNone && !key.isSymbol) ++
    keys.filter isSymbol

end Key

/-- What a field holds. -/
inductive Slot
  | data (value : Value) (writable : Bool)
  /-- Functions to get and to set a value. -/
  | accessor (getter setter : Value)
  /-- What a parameter of a call stands for. -/
  | parameter (scope : Nat) (name : String)
  deriving DecidableEq, Repr, Inhabited

/-- A field. -/
structure Property where
  slot : Slot
  enumerable : Bool := true
  configurable : Bool := true
  deriving DecidableEq, Repr, Inhabited

namespace Property

/-- An ordinary field. -/
def plain (value : Value) : Property := { slot := .data value true }

/-- Whether a field is an ordinary one, and the value it holds then. -/
def plainValue? (property : Property) : Option Value :=
  match property.slot with
  | .data value true => if property.enumerable && property.configurable then some value else none
  | _ => none

/-- A field that is not listed. -/
def hidden (value : Value) : Property := { slot := .data value true, enumerable := false }

/-- A field that stays as it is. -/
def fixed (value : Value) : Property :=
  { slot := .data value false, enumerable := false, configurable := false }

end Property

end ScriptKernel.Script
