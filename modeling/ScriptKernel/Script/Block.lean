/-
**Scopes that open, and the functions bound in them.**

* `openBlock`, `openHandler`, `openLoop`: the scope of a block, of a handler, of a loop;
* `nextRound`: each round of a loop has names of its own;
* `createFunction`, `putMethod`, `liftFunction`: functions where they are reached.
-/

import ScriptKernel.Script.Variable

set_option autoImplicit false

namespace ScriptKernel.Script

/-- Opens the scope of a block, if the block declares anything, and binds its functions. -/
def openBlock (frame : Frame) (body : List Statement) : Run Frame := do
  let names := unreached body
  let functions := body.filterMap Statement.blockFunction?
  if names.isEmpty && functions.isEmpty then return frame
  else
    let scope ← createScope frame.scope names
    bindFunctions scope scope functions
    return { frame with scope := some scope }

/-- Opens the scope of a handler, with the name of what was caught. -/
def openHandler (frame : Frame) (name : Option String) (exception : Value) : Run Frame := do
  match name with
  | none => return frame
  | some name =>
    let scope ← createScope frame.scope [(name, { value := some exception })]
    return { frame with scope := some scope }

/-- The names a loop declares for itself. -/
def loopNames : Option Statement → List (String × Binding)
  | some start => unreached [start]
  | none => []

/-- Opens the scope of a loop, if it declares anything. -/
def openLoop (frame : Frame) (start : Option Statement) : Run Frame := do
  match loopNames start with
  | [] => return frame
  | names =>
    let scope ← createScope frame.scope names
    return { frame with scope := some scope }

/-- Opens the scope of the next round of a loop, with the names as they stand. -/
def nextRound (frame : Frame) (start : Option Statement) : Run Frame := do
  match loopNames start, frame.scope with
  | _ :: _, some number =>
    let scope ← Run.make fun realm => realm.createScope (realm.scope number)
    return { frame with scope := some scope }
  | _, _ => return frame

/-- A function declared in a block of sloppy code becomes a variable where it is reached. -/
def liftFunction (caller : Caller) (frame : Frame) (name : String) (definition : Function) :
    Run Unit := do
  let function ← createClosure definition frame.scope
  assignName caller false true frame.variableScope name function

/-- Makes the function an expression stands for; one with a name of its own may see itself. -/
def createFunction (frame : Frame) (definition : Function) : Run Value := do
  if definition.signature.seesItself then
    let scope ← createScope frame.scope []
    let function ← createClosure definition (some scope)
    Run.change fun realm =>
      realm.bindIn scope definition.signature.name.display
        { value := some function, changeable := false, lenient := true }
    return function
  else createClosure definition frame.scope

/-- The name of a function under a key. -/
def Realm.functionName (realm : Realm) (key : Key) : Units :=
  match key with
  | .text name => name
  | .symbol _ => Units.ofString "[" ++ realm.keyName key ++ Units.ofString "]"

/-- The object with one more function, which gets or sets a field if it is written so. -/
def Object.withMethod (object : Object) (key : Key) (form : FunctionForm) (function : Value) :
    Object :=
  let (getter, setter) := match (object.own? key).map Property.slot with
    | some (.accessor getter setter) => (getter, setter)
    | _ => (.undefined, .undefined)
  match form with
  | .getter => object.define key { slot := .accessor function setter }
  | .setter => object.define key { slot := .accessor getter function }
  | _ => object.define key (.plain function)

/-- Gives an object a function. -/
def putMethod (frame : Frame) (address : Address) (key : Key) (definition : Function) : Run Unit := do
  let function ← createClosure definition frame.scope
  Run.change fun realm =>
    realm.modifyObject address fun object =>
      object.withMethod key definition.signature.form function

end ScriptKernel.Script
