/-
**Fields as they are described.**

A script describes a field by an object: which value or which functions it has, and what may be done with it.

* `readDescription`: what a description says;
* `allowsChange`: whether a field may become another one;
* `defineField`: a field defined by a description;
* `setPrototype`: the prototype of an object.
-/

import ScriptKernel.Script.Assignment

set_option autoImplicit false

namespace ScriptKernel.Script

/-- What a description says of a field. -/
structure FieldDescription where
  enumerable : Option Bool
  configurable : Option Bool
  writable : Option Bool
  value : Option Value
  getter : Option Value
  setter : Option Value

/-- A field of a description, if it has it. -/
def described? (caller : Caller) (description : Value) (name : String) : Run (Option Value) := do
  if ← has description (.ofString name) then
    return some (← get caller description (.ofString name))
  else return none

/-- A function that a description gives; one that cannot be looked up is none either. -/
def describedFunction? (caller : Caller) (description : Value) (name complaint : String) :
    Run (Option Value) := do
  let found : Run (Option Value) := described? caller description name
  let found ← found.attempt fun _ => Run.raise .type complaint
  match found with
  | none => return none
  | some .undefined => return some .undefined
  | some function =>
    if ← Run.look fun realm => realm.isCallable function then return some function
    else Run.raise .type complaint

/-- Reads a description of a field. -/
def readDescription (caller : Caller) (description : Value) : Run FieldDescription := do
  let _ ← needObject description
  let enumerable ← described? caller description "enumerable"
  let configurable ← described? caller description "configurable"
  let value ← described? caller description "value"
  let writable ← described? caller description "writable"
  let getter ← describedFunction? caller description "get" "invalid getter"
  let setter ← describedFunction? caller description "set" "invalid setter"
  if (getter.isSome || setter.isSome) && (value.isSome || writable.isSome) then
    Run.raise .type "cannot have setter/getter and value or writable"
  else
    return ⟨enumerable.map isTrue, configurable.map isTrue, writable.map isTrue, value, getter,
      setter⟩

/-- The field a description makes of what was there. -/
def FieldDescription.applied (description : FieldDescription) (old : Option Property) : Property :=
  let slot : Slot :=
    if description.getter.isSome || description.setter.isSome then
      match old.map Property.slot with
      | some (.accessor getter setter) =>
        .accessor (description.getter.getD getter) (description.setter.getD setter)
      | _ => .accessor (description.getter.getD .undefined) (description.setter.getD .undefined)
    else match old.map Property.slot with
      | some (.data value writable) =>
        .data (description.value.getD value) (description.writable.getD writable)
      | some (.accessor getter setter) =>
        if description.value.isSome || description.writable.isSome then
          .data (description.value.getD .undefined) (description.writable.getD false)
        else .accessor getter setter
      | _ => .data (description.value.getD .undefined) (description.writable.getD false)
  { slot
    enumerable := description.enumerable.getD ((old.map Property.enumerable).getD false)
    configurable := description.configurable.getD ((old.map Property.configurable).getD false) }

/-- Whether a field that stays as it is may become another. -/
def allowsChange (old made : Property) : Bool :=
  old.configurable ||
    (!made.configurable && old.enumerable == made.enumerable &&
      match old.slot, made.slot with
      | .data before writable, .data after stays => writable || (before == after && !stays)
      | .accessor before first, .accessor after second => before == after && first == second
      | _, _ => false)

/-- Throws because a field must stay as it is. -/
def throwUnconfigurable {α : Type} : Run α := Run.raise .type "property is not configurable"

/-- Defines the length of an array by a description. -/
def defineLength (caller : Caller) (address : Address) (description : FieldDescription) :
    Run Unit := do
  let length? ← match description.value with
    | some value => some <$> toArrayLength caller value
    | none => pure none
  let isFixed ← Run.look fun realm => (realm.object address).isLengthFixed
  if description.configurable = some true || description.enumerable = some true ||
      description.getter.isSome || description.setter.isSome ||
      (isFixed && description.writable = some true) then
    throwUnconfigurable
  else
    match length? with
    | some length => setLength caller true address (.ofNat length)
    | none => pure ()
    if description.writable = some false then
      Run.change fun realm => realm.modifyObject address Object.fixLength

/-- Puts a defined field into an object. What a parameter of a call stands for follows the field as long as
it can be written. -/
def putDefined (address : Address) (key : Key) (old : Slot) (made : Property) : Run Unit :=
  Run.change fun realm =>
    match old, made.slot with
    | .parameter scope name, .data value writable =>
      let realm := realm.bindIn scope name { value := some value }
      realm.define address key
        (if writable then { made with slot := .parameter scope name } else made)
    | _, _ => realm.define address key made

/-- Defines a field of an object by a description. -/
def defineField (caller : Caller) (subject key description : Value) : Run Value := do
  let address ← needObject subject
  let key ← toKey caller key
  let description ← readDescription caller description
  let object ← Run.look fun realm => realm.object address
  if object.isLength key then defineLength caller address description
  else match object.own? key with
  | none =>
    match Placement.adding address object key .undefined with
    | .refuse reason => Run.raiseText .type reason
    | _ => Run.change fun realm => realm.define address key (description.applied none)
  | some old =>
    let before ← Run.look fun realm =>
      match old.slot with
      | .parameter scope name => { old with slot := .data (realm.valueIn scope name) true }
      | _ => old
    let made := description.applied (some before)
    if allowsChange before made then putDefined address key old.slot made
    else throwUnconfigurable
  return subject

/-- Sets the prototype of a value, which only an object has for its own. -/
def setPrototype (subject parent : Value) : Run Unit := do
  match subject, parent with
  | .undefined, _ | .null, _ => Run.raise .type "not an object"
  | .object address, .object above =>
    let object ← Run.look fun realm => realm.object address
    if object.parent = some above then return ()
    else if !object.extensible then Run.raise .type "object is not extensible"
    else if ← Run.look fun realm =>
        realm.inherits address (realm.objects.size + 1) (some above) then
      Run.raise .type "circular prototype chain"
    else
      Run.change fun realm =>
        realm.modifyObject address fun object => { object with parent := some above }
  | .object address, .null =>
    let object ← Run.look fun realm => realm.object address
    if object.parent.isNone then return ()
    else if !object.extensible then Run.raise .type "object is not extensible"
    else
      Run.change fun realm =>
        realm.modifyObject address fun object => { object with parent := none }
  | _, _ => return ()

end ScriptKernel.Script
