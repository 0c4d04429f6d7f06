/-
**What can be assigned to.**

A reference is made before the value it gets is known: the object and the key of a field are settled then, and
so is whether a name may be bound.

* `Reference`: a name or a field, with `read`, `assign`, `remove` and `count`;
* `referName`, `referField`: references, made to be assigned to or not.
-/

import ScriptKernel.Script.Variable

set_option autoImplicit false

namespace ScriptKernel.Script

/-- What can be assigned to. -/
inductive Reference
  /-- A name, and whether it may be bound if it is bound nowhere. -/
  | variable (name : String) (mayBind : Bool)
  | member (subject : Value) (key : Key)

/-- The value a reference stands for. -/
def Reference.read (caller : Caller) (frame : Frame) : Reference → Run Value
  | .variable name _ => readName caller frame.scope name
  | .member subject key => get caller subject key

/-- Assigns to a reference. -/
def Reference.assign (caller : Caller) (frame : Frame) (value : Value) : Reference → Run Unit
  | .variable name mayBind => assignName caller frame.strict mayBind frame.scope name value
  | .member subject key => set caller frame.strict subject key value

/-- Takes away what a reference stands for. -/
def Reference.remove (frame : Frame) : Reference → Run Bool
  | .variable name _ => removeName frame.scope name
  | .member subject key => Script.remove frame.strict subject key

/-- What a function that is called by the reference gets as its `this`. -/
def Reference.receiver : Reference → Value
  | .variable .. => .undefined
  | .member subject _ => subject

/-- A reference to a name; one that is to be assigned to is prepared. -/
def referName (frame : Frame) (changes : Bool) (name : String) : Run Reference := do
  if changes then return .variable name (← prepareName frame.strict frame.scope name)
  else return .variable name true

/-- A reference to a field whose key is a value; one that is to be assigned to needs something that has
fields. -/
def referField (caller : Caller) (changes : Bool) (subject key : Value) : Run Reference := do
  if changes && subject.isNothing then Run.raise .type "value has no property"
  else return .member subject (← toKey caller key)

/-- The numeric value one up or down. -/
def Numeric.step (increment : Bool) : Numeric → Numeric
  | .number value => .number (value.add (.ofInt (if increment then 1 else -1)))
  | .bigint value => .bigint (value + if increment then 1 else -1)

/-- Counts a reference up or down. -/
def count (caller : Caller) (frame : Frame) (increment before : Bool) (target : Reference) :
    Run Value := do
  let old ← toNumeric caller (← target.read caller frame)
  let made := old.step increment
  target.assign caller frame made.value
  return (if before then made else old).value

end ScriptKernel.Script
