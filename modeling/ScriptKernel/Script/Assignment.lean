/-
**Fields: set and taken away.**

What is not allowed goes without notice, except in strict code.

* `set`, `remove`: what a script does with fields;
* `toArrayLength`: the length of an array a value stands for;
* `setLength`: the length of an array is a field that cuts the array when it is set.
-/

import ScriptKernel.Script.Coercion

set_option autoImplicit false

namespace ScriptKernel.Script

/-- Passes over what is not allowed, except in strict code. -/
def refuse (strict : Bool) (reason : Units) : Run Unit :=
  if strict then Run.raiseText .type reason else pure ()

/-! ### The length of an array -/

/-- The greatest length of an array. -/
def longest : Nat := Nat.pow 2 32 - 1

/-- Throws because no array can have a length. -/
def throwLength {α : Type} : Run α := Run.raise .range "invalid array length"

/-- A whole number as the length of an array. -/
def lengthOfInt (value : Int) : Run Nat :=
  if 0 ≤ value ∧ value ≤ longest then pure value.toNat else throwLength

/-- A number as the length of an array. -/
def lengthOfNumber (value : Double) : Run Nat :=
  match value.toInt? with
  | some whole => lengthOfInt whole
  | none => throwLength

/-- What is left of the whole part of a number below `2 ^ 32`. -/
def lowWord : Double → Nat
  | .finite negative units =>
    ((Double.signed negative (units / Double.one)).emod (Nat.pow 2 32)).toNat
  | _ => 0

/-- The length of an array a value stands for. What has to be converted is converted twice, and the two
numbers have to agree. -/
def toArrayLength (caller : Caller) (value : Value) : Run Nat := do
  match value with
  | .number number => lengthOfNumber number
  | .bigint whole => lengthOfInt whole
  | .boolean value => return value.toNat
  | .null => return 0
  | other =>
    let word := lowWord (← toNumber caller other)
    let length ← lengthOfNumber (← toNumber caller other)
    if length = word then return length else throwLength

/-- Sets the length of an array. -/
def setLength (caller : Caller) (strict : Bool) (address : Address) (value : Value) :
    Run Unit := do
  let length ← toArrayLength caller value
  let (isFixed, kept) ← Run.look fun realm =>
    let object := realm.object address
    (object.isLengthFixed, object.keptLength length)
  if isFixed then refuse strict (messageAbout "'" (.ofString "length") "' is read-only")
  else
    Run.change fun realm => realm.modifyObject address fun object => object.resize length
    unless kept = length do refuse strict (.ofString "not configurable")

/-! ### Fields -/

/-- Gives a field a value at the place that was found for it. -/
def setAt (caller : Caller) (strict : Bool) (subject : Value) (key : Key) (value : Value) :
    Placement → Run Unit
  | .define address property => Run.change fun realm => realm.define address key property
  | .hand setter => do
    let _ ← caller.call setter subject [value]
    return ()
  | .bind scope name => Run.change fun realm => realm.bindIn scope name { value := some value }
  | .resize address => setLength caller strict address value
  | .refuse reason => refuse strict reason

/-- Gives a field a value. -/
def set (caller : Caller) (strict : Bool) (subject : Value) (key : Key) (value : Value) :
    Run Unit := do
  match subject with
  | .undefined | .null =>
    let name ← Run.look fun realm => realm.keyName key
    Run.raiseAbout .type "cannot set property '" name ("' of " ++ nothingName subject)
  | _ =>
    let place ← Run.look fun realm => realm.placement subject key value
    setAt caller strict subject key value place

/-- Takes a field away, and tells whether it is gone. -/
def remove (strict : Bool) (subject : Value) (key : Key) : Run Bool := do
  let subject ← usable subject
  match ← Run.look fun realm => (realm.holder? subject).map fun object => object.own? key with
  | none => Run.raise .type "cannot convert to object"
  | some none => return true
  | some (some property) =>
    if property.configurable then
      match subject with
      | .object address =>
        Run.change fun realm => realm.modifyObject address fun object => object.remove key
      | _ => pure ()
      return true
    else
      refuse strict (.ofString "could not delete property")
      return false

end ScriptKernel.Script
