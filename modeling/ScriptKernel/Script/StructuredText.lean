/-
**Values as structured text.**

* `stringify`: the text of a value, and what a script may say about it: which fields are written, what stands
  for each part, and what each level is set in by;
* `parseText`: the value of a text.
-/

import ScriptKernel.Script.ArrayMethod
import ScriptKernel.Script.Exchange

set_option autoImplicit false

namespace ScriptKernel.Script

/-- The text of an object that holds a simple text or a number, or of such a value; other values have none. -/
def nameToWrite (caller : Caller) (value : Value) : Run (Option Units) := do
  match value with
  | .text text => return some text
  | .number number => return some (.ofString number.text)
  | .object address =>
    match (← Run.look fun realm => realm.object address).kind with
    | .wrapper (.text _) | .wrapper (.number _) => return some (← toText caller value)
    | _ => return none
  | _ => return none

/-- What is written of a value: a function replaces its parts, an array names its fields. -/
def readSelection (caller : Caller) (replacer : Value) : Run Selection := do
  if ← Run.look fun realm => realm.isCallable replacer then
    return { replacer := some replacer }
  else if ← Run.look fun realm => realm.isArray replacer then
    let length ← lengthOf caller replacer
    let names ← Run.count length (fun names index => do
      match ← nameToWrite caller (← get caller replacer (.ofNat index)) with
      | some name => return if names.contains name then names else name :: names
      | none => return names) []
    return { names := some names.reverse }
  else return {}

/-- How wide a level is set in at most. -/
def widest : Nat := 10

/-- What each level is set in by. -/
def readGap (caller : Caller) (space : Value) : Run Units := do
  let simple ← match space with
    | .object address =>
      match (← Run.look fun realm => realm.object address).kind with
      | .wrapper (.number _) => pure (.number (← toNumber caller space))
      | .wrapper (.text _) => pure (.text (← toText caller space))
      | _ => pure space
    | _ => pure space
  match simple with
  | .number (.finite false units) =>
    return ⟨List.replicate (min widest (units / Double.one)) 32⟩
  | .number (.infinite false) => return ⟨List.replicate widest 32⟩
  | .text text => return ⟨text.units.take widest⟩
  | _ => return ⟨[]⟩

/-- A value as structured text. -/
def stringify (caller : Caller) (value replacer space : Value) : Run Value := do
  let selection ← readSelection caller replacer
  let gap ← readGap caller space
  match ← draftWhole caller selection value with
  | some draft => return .text (draft.layout gap)
  | none => return .undefined

/-- The value of structured text. -/
def parseText (caller : Caller) (value : Value) : Run Value := do
  let text ← toText caller value
  match text.toString?.map Json.parse with
  | some (.ok json) => Run.make fun realm => realm.materialize json
  | _ => Run.raise .grammar "unexpected token"

end ScriptKernel.Script
