/-
**The functions of arrays.**

They work on whatever has a length and items.

* `lengthOf`: the length of what is like an array;
* `push`, `join`, `mapItems`: the functions.
-/

import ScriptKernel.Script.Assignment

set_option autoImplicit false

namespace ScriptKernel.Script

/-- The greatest number up to which every whole number is a double. -/
def safest : Nat := Nat.pow 2 53 - 1

/-- The length of what is like an array. -/
def lengthOf (caller : Caller) (subject : Value) : Run Nat := do
  match ← toNumber caller (← get caller subject Object.lengthKey) with
  | .finite false units => return min (units / Double.one) safest
  | .infinite false => return safest
  | _ => return 0

/-- Makes an array of a length without items. -/
def createVacant (length : Nat) : Run Value := do
  let parent ← Run.look fun realm => realm.landmarks.arrayParent
  create (.array { length }) (some parent) []

/-- Puts values behind the items of an array and answers the new length. -/
def push (caller : Caller) (subject : Value) (args : List Value) : Run Value := do
  let subject ← toObject subject
  let length ← lengthOf caller subject
  let last := length + args.length
  if last > safest then Run.raise .type "Array loo long"
  else
    let _ ← Run.follow (fun index value => do
      set caller true subject (.ofNat index) value
      return index + 1) length args
    set caller true subject Object.lengthKey (.ofNat last)
    return .ofNat last

/-- The texts of the items, with a text between them. -/
def join (caller : Caller) (subject separator : Value) : Run Value := do
  let subject ← toObject subject
  let length ← lengthOf caller subject
  let mark ← match separator with
    | .undefined => pure (Units.ofString ",")
    | given => toText caller given
  let texts ← Run.count length (fun texts index => do
    match ← get caller subject (.ofNat index) with
    | .undefined | .null => return ([] : List Nat) :: texts
    | item => return (← toText caller item).units :: texts) []
  return .text ⟨List.intercalate mark.units texts.reverse⟩

/-- Whether a value is an array. -/
def Realm.isArray (realm : Realm) : Value → Bool
  | .object address =>
    match (realm.object address).kind with
    | .array _ => true
    | _ => false
  | _ => false

/-- Makes the array that a function of an array fills; what the array says made it has to be a function. -/
def createLike (caller : Caller) (subject : Value) (length : Nat) : Run Value := do
  if ← Run.look fun realm => realm.isArray subject then
    match ← get caller subject (.ofString "constructor") with
    | .undefined | .object _ => createVacant length
    | _ => Run.raise .type "not a function"
  else if length > longest then throwLength
  else createVacant length

/-- What a function makes of each item. -/
def mapItems (caller : Caller) (subject function receiver : Value) : Run Value := do
  let subject ← toObject subject
  let length ← lengthOf caller subject
  if ← Run.look fun realm => realm.isCallable function then
    let made ← createLike caller subject length
    let address ← needObject made
    Run.count length (fun _ index => do
      let key := Key.ofNat index
      if ← has subject key then
        let item ← get caller subject key
        put address key (← caller.call function receiver [item, .ofNat index, subject])
      else return ()) ()
    return made
  else Run.raise .type "not a function"

end ScriptKernel.Script
