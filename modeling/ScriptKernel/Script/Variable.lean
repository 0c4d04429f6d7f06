/-
**Names and what they stand for.**

A name is looked for in the scopes around it, from the inside out, then among the names declared for all
scripts, and then among the fields of the global object.

* `Realm.resolve`: where a name is bound;
* `readName`, `prepareName`, `assignName`: its value; a name is prepared before the value it gets is known;
* `declareGlobals`: what a script declares for all scripts, all of it or nothing;
* `createClosure`: a function with the scopes around it.
-/

import ScriptKernel.Script.Assignment

set_option autoImplicit false

namespace ScriptKernel.Script

/-- What a statement is run in. -/
structure Frame where
  /-- The innermost scope; none where only names for all scripts are seen. -/
  scope : Option Nat
  /-- The scope of the variables; none where they are for all scripts. -/
  variableScope : Option Nat
  this : Value
  strict : Bool
  /-- Whether the value of an expression statement is kept as the result of the script. -/
  isScript : Bool

/-- Where a name is bound. -/
inductive Place
  | scope (number : Nat) (binding : Binding)
  | shared (binding : Binding)
  | field
  | nowhere

namespace Realm

/-- Gives a name for all scripts a binding. -/
def bindShared (realm : Realm) (name : String) (binding : Binding) : Realm :=
  { realm with lexicals := bind name binding realm.lexicals }

/-- The innermost scope that binds a name. -/
def findScope (realm : Realm) (name : String) : Nat → Option Nat → Option (Nat × Binding)
  | 0, _ => none
  | _, none => none
  | limit + 1, some number =>
    let scope := realm.scope number
    match binding? name scope.bindings with
    | some binding => some (number, binding)
    | none => findScope realm name limit scope.outer

/-- Where a name is bound. -/
def resolve (realm : Realm) (name : String) (scope : Option Nat) : Place :=
  match realm.findScope name (realm.scopes.size + 1) scope with
  | some (number, binding) => .scope number binding
  | none =>
    match binding? name realm.lexicals with
    | some binding => .shared binding
    | none =>
      let object := realm.object realm.landmarks.globalObject
      if (realm.field? object (.ofString name)).isSome then .field else .nowhere

end Realm

/-! ### Reading and assigning -/

/-- Throws because a name has been reached before its declaration. -/
def throwUnreached {α : Type} (name : String) : Run α :=
  Run.raiseAbout .reference "" (.ofString name) " is not initialized"

/-- Throws because a name is bound nowhere. -/
def throwUndefined {α : Type} (name : String) : Run α :=
  Run.raiseAbout .reference "'" (.ofString name) "' is not defined"

/-- Throws because a name must not get another value. -/
def throwReadOnly {α : Type} (name : String) : Run α :=
  Run.raiseAbout .type "'" (.ofString name) "' is read-only"

/-- The value of a name. -/
def readName (caller : Caller) (scope : Option Nat) (name : String) : Run Value := do
  match ← Run.look fun realm => realm.resolve name scope with
  | .scope _ binding | .shared binding =>
    match binding.value with
    | some value => return value
    | none => throwUnreached name
  | .field => get caller (← Run.look Realm.globalValue) (.ofString name)
  | .nowhere => throwUndefined name

/-- Gets ready to give a name a value, and tells whether it may be done: strict code must not assign to a
name that is bound nowhere. A constant of a scope is refused at once. -/
def prepareName (strict : Bool) (scope : Option Nat) (name : String) : Run Bool := do
  match ← Run.look fun realm => realm.resolve name scope with
  | .scope _ binding =>
    if binding.changeable || (binding.lenient && !strict) then return true
    else throwReadOnly name
  | .shared _ | .field => return true
  | .nowhere => return !strict

/-- Gives a name a value, after it has been prepared; a name bound nowhere becomes a field of the global
object, except in strict code. -/
def assignName (caller : Caller) (strict mayBind : Bool) (scope : Option Nat) (name : String)
    (value : Value) : Run Unit := do
  match ← Run.look fun realm => realm.resolve name scope with
  | .scope number binding =>
    if binding.value.isNone then throwUnreached name
    else if binding.changeable then
      Run.change fun realm => realm.bindIn number name { binding with value := some value }
  | .shared binding =>
    if !mayBind then throwUndefined name
    else if binding.value.isNone then throwUnreached name
    else if binding.changeable then
      Run.change fun realm => realm.bindShared name { binding with value := some value }
    else throwReadOnly name
  | .field =>
    if mayBind then set caller strict (← Run.look Realm.globalValue) (.ofString name) value
    else throwUndefined name
  | .nowhere =>
    if strict then throwUndefined name
    else set caller false (← Run.look Realm.globalValue) (.ofString name) value

/-- Gives a declared name its first value. -/
def introduce (scope : Option Nat) (name : String) (constant : Bool) (value : Value) : Run Unit :=
  Run.change fun realm =>
    let binding : Binding := { value := some value, changeable := !constant }
    match scope with
    | some number => realm.bindIn number name binding
    | none => realm.bindShared name binding

/-- Takes a name away, and tells whether it is gone; only fields of the global object can go. -/
def removeName (scope : Option Nat) (name : String) : Run Bool := do
  match ← Run.look fun realm => realm.resolve name scope with
  | .scope .. | .shared _ => return false
  | .field => remove false (← Run.look Realm.globalValue) (.ofString name)
  | .nowhere => return true

/-! ### Functions and scopes -/

/-- Makes a scope inside another. -/
def createScope (outer : Option Nat) (bindings : List (String × Binding)) : Run Nat :=
  Run.make fun realm => realm.createScope { outer, bindings }

/-- Makes a function with the scopes around it. An ordinary one also has the prototype of what it
constructs. -/
def createClosure (definition : Function) (scope : Option Nat) : Run Value :=
  Run.make fun realm =>
    let signature := definition.signature
    let shown (value : Value) : Property := { slot := .data value false, enumerable := false }
    let object : Object :=
      { kind := .closure definition scope
        parent := some realm.landmarks.functionParent
        fields :=
          [(.ofString "length", shown (.ofNat signature.parameters.length)),
            (.ofString "name", shown (.text signature.name))] }
    if signature.form = .plain then
      let (parent, realm) := realm.create { parent := some realm.landmarks.objectParent }
      let link : Property :=
        { slot := .data (.object parent) true, enumerable := false, configurable := false }
      let (address, realm) := realm.create (object.define (.ofString "prototype") link)
      (.object address, realm.define parent (.ofString "constructor") (.hidden (.object address)))
    else
      let (address, realm) := realm.create object
      (.object address, realm)

/-- The names declared by `let` and `const`, not reached yet. -/
def unreached (statements : List Statement) : List (String × Binding) :=
  (Statement.lexicals statements).map fun entry =>
    (entry.1, { value := none, changeable := entry.2 })

/-- Makes functions inside a scope and binds them in a scope. -/
def bindFunctions (around scope : Nat) (functions : List (String × Function)) : Run Unit := do
  let _ ← Run.each (fun (entry : String × Function) => do
    let function ← createClosure entry.2 (some around)
    Run.change fun realm => realm.bindIn scope entry.1 { value := some function }) functions
  return ()

/-! ### Names for all scripts -/

namespace Realm

/-- The field of the global object itself. -/
def globalField? (realm : Realm) (name : String) : Option Property :=
  (realm.object realm.landmarks.globalObject).own? (.ofString name)

/-- Whether a name is among those declared for all scripts. -/
def isShared (realm : Realm) (name : String) : Bool := (binding? name realm.lexicals).isSome

/-- Whether a field can be listed and written. -/
def isOpen (property : Property) : Bool :=
  match property.slot with
  | .data _ writable => writable && property.enumerable
  | _ => false

/-- Whether a variable or a function of a script can become a field of the global object. -/
def acceptsField (realm : Realm) (name : String) (isFunction : Bool) : Bool :=
  match realm.globalField? name with
  | some property => !isFunction || property.configurable || isOpen property
  | none => (realm.object realm.landmarks.globalObject).extensible

end Realm

/-- Throws because a name is declared a second time. -/
def throwRedeclared {α : Type} (name : String) : Run α :=
  Run.raiseAbout .grammar "redeclaration of '" (.ofString name) "'"

/-- Complains if a script cannot declare a variable or a function. -/
def checkField (isFunction : Bool) (name : String) : Run Unit := do
  let (accepted, shared) ← Run.look fun realm =>
    (realm.acceptsField name isFunction, realm.isShared name)
  if !accepted then
    Run.raiseAbout .type "cannot define variable '" (.ofString name) "'"
  else if shared then throwRedeclared name

/-- Complains if a script cannot declare a name for all scripts. -/
def checkShared (name : String) : Run Unit := do
  let taken ← Run.look fun realm =>
    realm.isShared name ||
      match realm.globalField? name with
      | some property => !property.configurable
      | none => false
  if taken then throwRedeclared name

/-- Declares a variable as a field that stays. -/
def Realm.declareVariable (realm : Realm) (name : String) : Realm :=
  let address := realm.landmarks.globalObject
  match realm.globalField? name with
  | some _ => realm
  | none =>
    if (realm.object address).extensible then
      realm.define address (.ofString name)
        { slot := .data .undefined true, configurable := false }
    else realm

/-- Declares a function as a field. -/
def Realm.declareFunction (realm : Realm) (name : String) (function : Value) : Realm :=
  let address := realm.landmarks.globalObject
  let fresh : Property := { slot := .data function true, configurable := false }
  match realm.globalField? name with
  | some property =>
    realm.define address (.ofString name)
      (if property.configurable then fresh else { property with slot := .data function true })
  | none => realm.define address (.ofString name) fresh

/-- Complains if a script cannot declare a name. -/
def checkDeclared (name : String) : Shared → Run Unit
  | .variable => checkField false name
  | .function _ => checkField true name
  | .lexical _ => checkShared name

/-- Declares a name. -/
def declareShared (name : String) : Shared → Run Unit
  | .variable => Run.change fun realm => realm.declareVariable name
  | .function definition => do
    let function ← createClosure definition none
    Run.change fun realm => realm.declareFunction name function
  | .lexical constant =>
    Run.change fun realm => realm.bindShared name { value := none, changeable := !constant }

/-- Declares what a script declares for all scripts, after checking all of it. -/
def declareGlobals (source : Source) : Run Unit := do
  let _ ← Run.each (fun entry => checkDeclared entry.1 entry.2) source.shared
  let _ ← Run.each (fun entry => declareShared entry.1 entry.2) source.shared
  return ()

end ScriptKernel.Script
