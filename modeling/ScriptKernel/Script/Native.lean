/-
**The functions every script finds.**

* `Native.call`, `Native.construct`: what each does when called, and when called with `new`.
-/

import ScriptKernel.Script.Description
import ScriptKernel.Script.Promise
import ScriptKernel.Script.StructuredText

set_option autoImplicit false

namespace ScriptKernel.Script

/-- The argument at a place. -/
def argument (args : List Value) (place : Nat) : Value := args[place]?.getD .undefined

/-- The name of what an object is. -/
def className (realm : Realm) : Value → String
  | .undefined => "Undefined"
  | .null => "Null"
  | .boolean _ => "Boolean"
  | .number _ => "Number"
  | .text _ => "String"
  | .bigint _ => "BigInt"
  | .symbol _ => "Symbol"
  | .panic => "Object"
  | .object address =>
    match (realm.object address).kind with
    | .array _ => "Array"
    | .closure .. | .native _ | .host .. => "Function"
    | .error => "Error"
    | .arguments => "Arguments"
    | .wrapper (.boolean _) => "Boolean"
    | .wrapper (.number _) => "Number"
    | .wrapper (.text _) => "String"
    | .wrapper (.bigint _) => "BigInt"
    | .wrapper (.symbol _) => "Symbol"
    | .promise _ => "Promise"
    | .library name => name
    | _ => "Object"

/-- The simple value a wrapper holds. -/
def unwrap (realm : Realm) (value : Value) : Option Value :=
  match value with
  | .undefined | .null => none
  | .object address =>
    match (realm.object address).kind with
    | .wrapper inner => some inner
    | _ => none
  | simple => some simple

/-- The text of a value; a symbol shows what it is called. -/
def describeText (caller : Caller) (value : Value) : Run Units := do
  match value with
  | .symbol number =>
    let name ← Run.look fun realm => realm.symbols[number]?.getD ⟨[]⟩
    return Units.ofString "Symbol(" ++ name ++ Units.ofString ")"
  | other => toText caller other

/-- The text of a function. -/
def functionText (realm : Realm) (object : Object) : Units :=
  match object.kind with
  | .closure definition _ => .ofString definition.signature.source
  | _ =>
    let name := match (realm.field? object (.ofString "name")).map Property.slot with
      | some (.data (.text name) _) => name
      | _ => ⟨[]⟩
    Units.ofString "function " ++ name ++ Units.ofString "() \x7b\n    [native code]\n\x7d"

/-- Makes an error with a message. -/
def makeError (caller : Caller) (kind : ErrorKind) (message : Value) : Run Value := do
  let fields ← match message with
    | .undefined => pure []
    | given => do
      let text ← toText caller given
      pure [(Key.ofString "message", Property.hidden (.text text))]
  let parent ← Run.look fun realm => realm.errorParent kind
  create .error (some parent) fields

/-- The text of an error. -/
def errorText (caller : Caller) (subject : Value) : Run Value := do
  let _ ← needObject subject
  let name ← match ← get caller subject (.ofString "name") with
    | .undefined => pure (Units.ofString "Error")
    | given => toText caller given
  let message ← match ← get caller subject (.ofString "message") with
    | .undefined => pure (⟨[]⟩ : Units)
    | given => toText caller given
  if name.units.isEmpty then return .text message
  else if message.units.isEmpty then return .text name
  else return .text (name ++ Units.ofString ": " ++ message)

/-- The number of a value, also of a big integer. -/
def numberOf (caller : Caller) (args : List Value) : Run Double := do
  match args with
  | [] => return .finite false 0
  | value :: _ =>
    match ← toNumeric caller value with
    | .number number => return number
    | .bigint whole => return .ofInt whole

/-- The promise at a value. -/
def needPromise (value : Value) : Run Address := do
  let address ← needObject value
  let promise ← Run.look fun realm => realm.promise? address
  match promise with
  | some _ => return address
  | none => Run.raise .type "not an object"

/-- A promise kept by a value; a promise stays what it is. -/
def promiseOf (caller : Caller) (value : Value) : Run Value := do
  let isPromise ← Run.look fun realm =>
    match value with
    | .object address => (realm.promise? address).isSome
    | _ => false
  if isPromise then return value
  else
    let promise ← createPromise
    resolveWith caller promise value
    return .object promise

/-- Makes a promise that a function settles. -/
def makePromise (caller : Caller) (executor : Value) : Run Value := do
  if ← Run.look fun realm => realm.isCallable executor then
    let promise ← createPromise
    let (keep, breaker) ← settlers promise
    let called : Run Unit := do
      let _ ← caller.call executor .undefined [keep, breaker]
      return ()
    called.attempt fun exception => do
      let _ ← caller.call breaker .undefined [exception]
      return ()
    return .object promise
  else Run.raise .type "not a function"

/-- Makes a symbol. -/
def makeSymbol (caller : Caller) (name : Value) : Run Value := do
  let text ← match name with
    | .undefined => pure (⟨[]⟩ : Units)
    | given => toText caller given
  Run.make fun realm =>
    (.symbol realm.symbols.size, { realm with symbols := realm.symbols.push text })

namespace Native

/-- A call. -/
def call (caller : Caller) (native : Native) (this : Value) (args : List Value) : Run Value := do
  let first := argument args 0
  match native with
  | .object =>
    match first with
    | .undefined | .null => createObject []
    | value => toObject value
  | .objectDefineProperty => defineField caller first (argument args 1) (argument args 2)
  | .objectPreventExtensions =>
    match first with
    | .object address =>
      Run.change fun realm =>
        realm.modifyObject address fun object => { object with extensible := false }
      return first
    | _ => return first
  | .objectKeys =>
    let address ← needObject (← toObject first)
    let names ← Run.look fun realm => (realm.object address).listed
    createArray (names.map fun name => some (.text name))
  | .objectPrototypeOf | .prototypeGetter =>
    let subject := if native = .prototypeGetter then this else first
    match ← Run.look fun realm => realm.holder? subject with
    | some holder => return (holder.parent.map Value.object).getD .null
    | none => Run.raise .type "cannot convert to object"
  | .prototypeSetter =>
    setPrototype this first
    return .undefined
  | .objectToString =>
    Run.look fun realm => .ofString ("[object " ++ className realm this ++ "]")
  | .objectToLocaleString =>
    let method ← get caller this (.ofString "toString")
    caller.call method this []
  | .objectValueOf => toObject this
  | .objectHasOwn =>
    let key ← toKey caller first
    let address ← needObject (← toObject this)
    Run.look fun realm => .boolean ((realm.object address).own? key).isSome
  | .functionCall => caller.call this first (args.drop 1)
  | .functionToString =>
    let address ← needObject this
    Run.look fun realm => .text (functionText realm (realm.object address))
  | .array =>
    match args with
    | [.number length] => createVacant (← lengthOfNumber length)
    | items => createArray (items.map some)
  | .arrayIsArray => Run.look fun realm => .boolean (realm.isArray first)
  | .arrayPush => push caller this args
  | .arrayJoin => join caller this first
  | .arrayMap => mapItems caller this first (argument args 1)
  | .arrayToString =>
    let subject ← toObject this
    let method ← get caller subject (.ofString "join")
    if ← Run.look fun realm => realm.isCallable method then caller.call method subject []
    else Run.look fun realm => .ofString ("[object " ++ className realm subject ++ "]")
  | .error kind =>
    makeError caller kind (if kind = .aggregate then argument args 1 else first)
  | .errorToString => errorText caller this
  | .string =>
    match args with
    | [] => return .ofString ""
    | value :: _ => return .text (← describeText caller value)
  | .number => return .number (← numberOf caller args)
  | .boolean => return .boolean (isTrue first)
  | .symbol => makeSymbol caller first
  | .wrappedToString =>
    match ← Run.look fun realm => unwrap realm this with
    | some value => return .text (← describeText caller value)
    | none => Run.raise .type "not an object"
  | .wrappedValueOf =>
    match ← Run.look fun realm => unwrap realm this with
    | some value => return value
    | none => Run.raise .type "not an object"
  | .isNaN => return .boolean ((← toNumber caller first) == .nan)
  | .isFinite => return .boolean (← toNumber caller first).isFinite
  | .jsonStringify => stringify caller first (argument args 1) (argument args 2)
  | .jsonParse => parseText caller first
  | .promise => Run.raise .type "must be called with new"
  | .promiseResolve => promiseOf caller first
  | .promiseReject =>
    let made ← createPromise
    settlePromise made true first
    return .object made
  | .promiseThen => waitFor (← needPromise this) first (argument args 1)
  | .promiseCatch =>
    let method ← get caller this (.ofString "then")
    caller.call method this [.undefined, first]
  | .settle target latch broken =>
    settleOnce caller target latch broken first
    return .undefined
  | .forbidden => Run.raise .type "invalid property access"
  | .idle _ => return .undefined

/-- A call with `new`. -/
def construct (caller : Caller) (native : Native) (args : List Value) : Run Value := do
  let first := argument args 0
  match native with
  | .object | .array | .error _ => native.call caller .undefined args
  | .string | .number | .boolean =>
    let value ← native.call caller .undefined args
    toObject value
  | .promise => makePromise caller first
  | .idle true => createObject []
  | _ => Run.raise .type "not a constructor"

end Native

end ScriptKernel.Script
