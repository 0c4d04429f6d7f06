/-
**Between structured values and the values of a script.**

* `Realm.materialize`: a structured value as a value of a script; every number becomes a double;
* `Selection`: what a script wants to be written of a value;
* `draftOf`: the draft of a value; objects with a `toJSON` method speak for themselves, and undefined,
  functions and symbols have none;
* `readBack`: a value of a script as a structured value.
-/

import ScriptKernel.Script.Coercion
import ScriptKernel.Script.Draft

set_option autoImplicit false

namespace ScriptKernel.Script

/-! ### From the host to the script -/

/-- The double of a number. -/
def numberValue : Json.Number → Double
  | .integer value => .ofInt value
  | .double value => value

mutual

/-- Builds a value in memory, its parts before the whole. -/
def Realm.materialize (realm : Realm) : Json → Value × Realm
  | .null => (.null, realm)
  | .boolean value => (.boolean value, realm)
  | .number value => (.number (numberValue value), realm)
  | .text value => (.ofString value, realm)
  | .list items =>
    let (values, realm) := materializeItems realm items
    let (address, realm) := realm.create
      { kind := .array (.ofList (values.map some)), parent := some realm.landmarks.arrayParent }
    (.object address, realm)
  | .members entries =>
    let (fields, realm) := materializeEntries realm entries
    let (address, realm) := realm.create
      { parent := some realm.landmarks.objectParent, fields }
    (.object address, realm)

/-- Builds the items of a list. -/
def Realm.materializeItems (realm : Realm) : List Json → List Value × Realm
  | [] => ([], realm)
  | item :: rest =>
    let (value, realm) := materialize realm item
    let (values, realm) := materializeItems realm rest
    (value :: values, realm)

/-- Builds the fields of an object. -/
def Realm.materializeEntries (realm : Realm) :
    List (String × Json) → List (Key × Property) × Realm
  | [] => ([], realm)
  | entry :: rest =>
    let (field, realm) := materializeEntry realm entry
    let (fields, realm) := materializeEntries realm rest
    (field :: fields, realm)

/-- Builds a field. -/
def Realm.materializeEntry (realm : Realm) : String × Json → (Key × Property) × Realm
  | (key, json) =>
    let (value, realm) := materialize realm json
    ((.ofString key, .plain value), realm)

end

/-! ### From the script to the host -/

/-- What a script wants to be written of a value. -/
structure Selection where
  /-- The function that answers what is written in the place of each part. -/
  replacer : Option Value := none
  /-- The fields that are written. -/
  names : Option (List Units) := none

/-- The value its `toJSON` method makes of a value under a key, if it has that method. -/
def represented (caller : Caller) (key : Units) (value : Value) : Run Value := do
  match value with
  | .object _ | .bigint _ =>
    let method ← get caller value (.ofString "toJSON")
    if ← Run.look fun realm => realm.isCallable method then caller.call method value [.text key]
    else return value
  | _ => return value

/-- The value that is written for the one an object holds under a key. -/
def Selection.replaced (selection : Selection) (caller : Caller) (holder : Value) (key : Units)
    (value : Value) : Run Value := do
  let value ← represented caller key value
  match selection.replacer with
  | some replacer => caller.call replacer holder [.text key, value]
  | none => return value

/-- The names of the fields of an object that are listed, in order. -/
def Object.listed (object : Object) : List Units :=
  object.ownKeys.filterMap fun key =>
    match key with
    | .text name =>
      match object.own? key with
      | some property => if property.enumerable then some name else none
      | none => none
    | .symbol _ => none

/-- The item of an array at an index: the ordinary one, or what its key finds. -/
def itemAt (caller : Caller) (array : Address) (index : Nat) : Run Value := do
  let ordinary ← Run.look fun realm =>
    match (realm.object array).kind with
    | .array items => items.item? index
    | _ => none
  match ordinary with
  | some value => usable value
  | none => get caller (.object array) (.ofNat index)

/-- How deep values are drafted. -/
def draftLimit : Nat := 4000

/-- Throws because a big integer has no structured form. -/
def throwBigint {α : Type} : Run α :=
  Run.raise .type "Do not know how to serialize a BigInt"

/-- The draft of a number. -/
def numberDraft (value : Double) : Draft := if value.isFinite then .number value else .null

/-- The draft of the value an object holds under a key, below some objects, with at most so many levels. -/
def draftOf (caller : Caller) (selection : Selection) :
    Nat → List Address → Value → Units → Value → Run (Option Draft)
  | 0, _, _, _, _ => Run.raise .internal "stack overflow"
  | limit + 1, above, holder, key, value => do
    match ← selection.replaced caller holder key value with
    | .undefined | .symbol _ => return none
    | .null => return some .null
    | .boolean value => return some (.boolean value)
    | .number value => return some (numberDraft value)
    | .text value => return some (.text value)
    | .bigint _ => throwBigint
    | .panic => Run.throwValue .undefined
    | .object address =>
      let object ← Run.look fun realm => realm.object address
      let whole := Value.object address
      if object.isCallable then return none
      else match object.kind with
      | .wrapper (.bigint _) => throwBigint
      | .wrapper (.text _) => return some (.text (← toText caller whole))
      | .wrapper (.boolean value) => return some (.boolean value)
      | .wrapper (.number _) => return some (numberDraft (← toNumber caller whole))
      | kind =>
        if above.contains address then Run.raise .type "circular reference"
        else match kind with
        | .array items =>
          let drafts ← Run.count items.length (fun drafts index => do
            let name := Units.ofString (toString index)
            let item ← itemAt caller address index
            let draft ← draftOf caller selection limit (address :: above) whole name item
            return draft.getD .null :: drafts) []
          return some (.list drafts.reverse)
        | _ =>
          let drafts ← Run.each (fun name => do
            let item ← get caller whole (.text name)
            let draft ← draftOf caller selection limit (address :: above) whole name item
            return draft.map fun draft => (name, draft)) (selection.names.getD object.listed)
          return some (.fields (drafts.filterMap id))

/-- The draft of a value. -/
def draftWhole (caller : Caller) (selection : Selection) (value : Value) : Run (Option Draft) := do
  let holder ← createObject [(.ofString "", .plain value)]
  draftOf caller selection draftLimit [] holder ⟨[]⟩ value

/-- Whether a value has no structured form and counts as null. -/
def Realm.isFormless (realm : Realm) (value : Value) : Bool :=
  match value with
  | .undefined | .symbol _ => true
  | _ => realm.isCallable value

/-- A value of a script as a structured value, or why it has no structured form. -/
def readBack (caller : Caller) (value : Value) : Run (Except EngineError Json) := do
  if ← Run.look fun realm => realm.isFormless value then return .ok .null
  else
    let refused : Run (Except EngineError Json) :=
      pure (.error (.conversion "Exception generated by QuickJS"))
    (draftWhole caller {} value).heard.andThen
      (fun draft => pure (draft.elim (.ok .null) Draft.read)) (fun _ => refused) refused

end ScriptKernel.Script
