/-
**Calls.**

Each call takes one of a number of nested calls that is fixed from the start.

* `runBody`: the body of a function with its arguments;
* `Caller.nested`: the caller under which so many calls may be nested; one more throws;
* `Source.run`: a whole script.
-/

import ScriptKernel.Script.Evaluation
import ScriptKernel.Script.HostCall
import ScriptKernel.Script.Native

set_option autoImplicit false

namespace ScriptKernel.Script

/-- The `this` of a function that is not strict is an object. -/
def receiverFor (strict : Bool) (this : Value) : Run Value :=
  if strict then pure this
  else match this with
    | .undefined | .null => Run.look Realm.globalValue
    | value => toObject value

/-- The names of a function with their first values. -/
def parameterBindings (parameters : List String) (args : List Value) :
    List (String × Binding) :=
  (List.range parameters.length).zip parameters |>.foldl
    (fun bindings entry =>
      Realm.bind entry.2 { value := some (argument args entry.1) } bindings) []

/-- The arguments as fields. In sloppy code a field and the parameter in its place are one, unless a later
parameter has the same name. -/
def argumentFields (strict : Bool) (scope : Nat) :
    Nat → List String → List Value → List (Key × Property)
  | _, _, [] => []
  | index, [], arg :: args =>
    (.ofNat index, .plain arg) :: argumentFields strict scope (index + 1) [] args
  | index, name :: names, arg :: args =>
    let slot : Slot :=
      if strict || names.contains name then .data arg true else .parameter scope name
    (.ofNat index, { slot }) :: argumentFields strict scope (index + 1) names args

/-- The function that was called as a field of its arguments; strict code does not show it. -/
def calleeField (strict : Bool) (callee : Value) : Run Property := do
  if strict then
    let parent ← Run.look fun realm => realm.landmarks.functionParent
    let guard ← create (.native .forbidden) (some parent) []
    return { slot := .accessor guard guard, enumerable := false, configurable := false }
  else return .hidden callee

/-- The arguments of a call as an object. -/
def argumentsObject (signature : Signature) (callee : Value) (scope : Nat) (args : List Value) :
    Run Value := do
  let parent ← Run.look fun realm => realm.landmarks.objectParent
  let called ← calleeField signature.strict callee
  create .arguments (some parent)
    (argumentFields signature.strict scope 0 signature.parameters args ++
      [(Object.lengthKey, .hidden (.ofNat args.length)), (.ofString "callee", called)])

/-- Opens the scope of the parameters and variables of a call. -/
def openVariables (signature : Signature) (callee : Value) (outer : Option Nat)
    (args : List Value) : Run Nat := do
  let parameters := parameterBindings signature.parameters args
  let hoisted := signature.locals.map fun name =>
    (name, ({ value := some .undefined } : Binding))
  let scope ← createScope outer (parameters ++ hoisted)
  if signature.usesArguments && !signature.parameters.contains "arguments" then
    let object ← argumentsObject signature callee scope args
    Run.change fun realm => realm.bindIn scope "arguments" { value := some object }
  return scope

/-- Runs the body of a function. -/
def runBody (caller : Caller) (callee : Value) (definition : Function) (outer : Option Nat)
    (this : Value) (args : List Value) : Run Value := do
  let signature := definition.signature
  let this ← receiverFor signature.strict this
  let scope ← openVariables signature callee outer args
  let frame ← openBlock
    { scope := some scope, variableScope := some scope, this, strict := signature.strict,
      isScript := false } definition.body
  bindFunctions (frame.scope.getD scope) scope (definition.body.filterMap Statement.firstFunction?)
  match ← execAll caller definition.body frame with
  | .give value => return value
  | _ => return .undefined

/-- Calls what an object is. -/
def callObject (caller : Caller) (callee : Value) (kind : ObjectClass) (this : Value)
    (args : List Value) : Run Value :=
  match kind with
  | .closure definition scope => runBody caller callee definition scope this args
  | .native native => native.call caller this args
  | .host index name => dispatch caller index name args
  | _ => Run.raise .type "not a function"

/-- Makes an object with a function of a script. -/
def constructBy (caller : Caller) (callee : Value) (definition : Function) (scope : Option Nat)
    (args : List Value) : Run Value := do
  let parent ← match ← get caller callee (.ofString "prototype") with
    | .object address => pure address
    | _ => Run.look fun realm => realm.landmarks.objectParent
  let subject ← create .plain (some parent) []
  match ← runBody caller callee definition scope subject args with
  | .object address => return .object address
  | _ => return subject

/-- Makes an object with what an object is. -/
def constructObject (caller : Caller) (callee : Value) (kind : ObjectClass) (args : List Value) :
    Run Value :=
  match kind with
  | .closure definition scope =>
    if definition.signature.form = .plain then constructBy caller callee definition scope args
    else Run.raise .type "not a constructor"
  | .native native => native.construct caller args
  | _ => Run.raise .type "not a constructor"

/-- What a value is, if it is an object. -/
def Realm.kindOf (realm : Realm) : Value → ObjectClass
  | .object address => (realm.object address).kind
  | _ => .plain

/-- Makes an object with a value. -/
def constructValue (caller : Caller) (callee : Value) (args : List Value) : Run Value := do
  match callee with
  | .object _ =>
    let kind ← Run.look fun realm => realm.kindOf callee
    constructObject caller callee kind args
  | _ => Run.raise .type "not a function"

/-- The caller under which so many calls may be nested. -/
def Caller.nested : Nat → Caller
  | 0 => .exhausted
  | limit + 1 =>
    { call := fun callee this args => do
        Run.tick
        let kind ← Run.look fun realm => realm.kindOf callee
        usable (← callObject (nested limit) callee kind this args)
      construct := fun callee args => do
        Run.tick
        constructValue (nested limit) callee args }

/-- How many calls may be nested. -/
def callDepth : Nat := 4000

/-- The caller of every script. -/
def Caller.standard : Caller := .nested callDepth

/-- Runs a script and answers the value of its last expression statement. -/
def Source.run (source : Source) : Run Value := do
  Run.tick
  declareGlobals source
  Run.change fun realm => { realm with result := .undefined }
  let this ← Run.look Realm.globalValue
  let _ ← execAll .standard source.body
    { scope := none, variableScope := none, this, strict := source.strict, isScript := true }
  usable (← Run.look Realm.result)

end ScriptKernel.Script
