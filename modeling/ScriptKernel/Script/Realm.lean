/-
**The memory of a script.**

* `Object`: an object's class, its prototype and its fields;
* `Scope`: the names of one level of nesting;
* `Realm`: every object and scope made so far, the global object, the names declared for all scripts, the
  jobs of settled promises that wait, and the exception that waits to be looked at.
-/

import ScriptKernel.Script.Tree
import ScriptKernel.Script.Value

set_option autoImplicit false

namespace ScriptKernel.Script

/-- The kinds of error objects. -/
inductive ErrorKind
  | error
  | evaluation
  | range
  | reference
  | grammar
  | type
  | address
  | internal
  | aggregate
  deriving DecidableEq, Repr, Inhabited

namespace ErrorKind

/-- Every kind. -/
def all : List ErrorKind :=
  [.error, .evaluation, .range, .reference, .grammar, .type, .address, .internal, .aggregate]

/-- The name of a kind. -/
def name : ErrorKind → String
  | .error => "Error"
  | .evaluation => "EvalError"
  | .range => "RangeError"
  | .reference => "ReferenceError"
  | .grammar => "SyntaxError"
  | .type => "TypeError"
  | .address => "URIError"
  | .internal => "InternalError"
  | .aggregate => "AggregateError"

end ErrorKind

/-- The functions that every script finds. -/
inductive Native
  | object
  | objectDefineProperty
  | objectPreventExtensions
  | objectKeys
  | objectPrototypeOf
  | objectToString
  | objectToLocaleString
  | objectValueOf
  | objectHasOwn
  | prototypeGetter
  | prototypeSetter
  | functionCall
  | functionToString
  | array
  | arrayIsArray
  | arrayPush
  | arrayJoin
  | arrayMap
  | arrayToString
  | error (kind : ErrorKind)
  | errorToString
  | string
  | number
  | boolean
  | symbol
  | wrappedToString
  | wrappedValueOf
  | isNaN
  | isFinite
  | jsonStringify
  | jsonParse
  | promise
  | promiseResolve
  | promiseReject
  | promiseThen
  | promiseCatch
  /-- Settles a promise: keeps it, or breaks it, unless its latch is closed. -/
  | settle (promise latch : Address) (broken : Bool)
  /-- Refuses what strict code must not look at. -/
  | forbidden
  /-- A function that a script finds by its name and that does nothing here. -/
  | idle (constructs : Bool)
  deriving DecidableEq, Repr, Inhabited

/-- What follows when a promise is settled: the functions to call, and the promise of their result. -/
structure Reaction where
  kept : Value
  broken : Value
  derived : Address
  deriving Repr, Inhabited

/-- How a promise stands. -/
inductive PromiseState
  | pending (reactions : List Reaction)
  | kept (value : Value)
  | broken (reason : Value)
  deriving Repr, Inhabited

/-- The items of an array. -/
structure Items where
  /-- The ordinary items from the first on; where there is none, the item is kept as a field or left out. -/
  stored : Array (Option Value) := #[]
  length : Nat := 0
  /-- Whether the length stays as it is. -/
  lengthFixed : Bool := false
  deriving Repr, Inhabited

/-- What an object is apart from its fields. -/
inductive ObjectClass
  | plain
  /-- Functions that belong together, under the name of what they are about. -/
  | library (name : String)
  | array (items : Items)
  | closure (definition : Function) (scope : Option Nat)
  | native (function : Native)
  /-- A host function, by its place in the table and its name. -/
  | host (index : Nat) (name : String)
  | error
  | arguments
  | wrapper (value : Value)
  | promise (state : PromiseState)
  /-- Can be closed once. -/
  | latch (isClosed : Bool)
  deriving Inhabited

/-- An object. -/
structure Object where
  kind : ObjectClass := .plain
  parent : Option Address := none
  fields : List (Key × Property) := []
  extensible : Bool := true
  deriving Inhabited

/-- What a name stands for: a value, unless its declaration has not been reached. -/
structure Binding where
  value : Option Value
  changeable : Bool := true
  /-- An assignment that is not allowed goes without notice, except in strict code. -/
  lenient : Bool := false
  deriving Repr, Inhabited

/-- The names of one level of nesting. -/
structure Scope where
  outer : Option Nat
  bindings : List (String × Binding) := []
  deriving Repr, Inhabited

/-- A job that waits: the reaction of a promise to how it was settled, or taking over from another one. -/
inductive Job
  | react (reaction : Reaction) (broken : Bool) (value : Value)
  | follow (promise : Address) (other handler : Value)
  deriving Repr, Inhabited

/-- The places of the objects that the language itself refers to. -/
structure Landmarks where
  globalObject : Address
  objectParent : Address
  functionParent : Address
  arrayParent : Address
  stringParent : Address
  numberParent : Address
  booleanParent : Address
  symbolParent : Address
  bigintParent : Address
  promiseParent : Address
  errorParents : List (ErrorKind × Address)
  deriving Repr, Inhabited

/-- The memory of a script. -/
structure Realm where
  objects : Array Object := #[]
  scopes : Array Scope := #[]
  landmarks : Landmarks
  /-- The names that `let` and `const` declare for all scripts. -/
  lexicals : List (String × Binding) := []
  jobs : List Job := []
  /-- What each symbol made so far is called. -/
  symbols : Array Units := #[]
  /-- How much work is left before the host looks in. -/
  countdown : Nat := 0
  /-- The value of the last expression statement of the running script. -/
  result : Value := .undefined
  deriving Inhabited

namespace Realm

/-- The object at an address. -/
def object (realm : Realm) (address : Address) : Object := realm.objects[address]?.getD {}

/-- Changes the object at an address. -/
def modifyObject (realm : Realm) (address : Address) (change : Object → Object) : Realm :=
  { realm with objects := realm.objects.modify address change }

/-- Makes an object. -/
def create (realm : Realm) (object : Object) : Address × Realm :=
  (realm.objects.size, { realm with objects := realm.objects.push object })

/-- Makes a scope. -/
def createScope (realm : Realm) (scope : Scope) : Nat × Realm :=
  (realm.scopes.size, { realm with scopes := realm.scopes.push scope })

/-- The prototype of errors of a kind. -/
def errorParent (realm : Realm) (kind : ErrorKind) : Address :=
  ((realm.landmarks.errorParents.find? fun entry => entry.1 == kind).map Prod.snd).getD
    realm.landmarks.objectParent

/-- Makes an error of a kind with a message. -/
def createError (realm : Realm) (kind : ErrorKind) (message : Units) : Address × Realm :=
  realm.create
    { kind := .error
      parent := some (realm.errorParent kind)
      fields := [(.ofString "message", .hidden (.text message))] }

/-- The value bound to a name in a list of bindings. -/
def binding? (name : String) (bindings : List (String × Binding)) : Option Binding :=
  (bindings.find? fun entry => entry.1 == name).map Prod.snd

/-- The name of a key, as a message gives it. -/
def keyName (realm : Realm) : Key → Units
  | .text name => name
  | .symbol number => realm.symbols[number]?.getD ⟨[]⟩

/-- Gives a name in a list of bindings a value. -/
def bind (name : String) (binding : Binding) :
    List (String × Binding) → List (String × Binding)
  | [] => [(name, binding)]
  | (other, old) :: rest =>
    if other = name then (name, binding) :: rest else (other, old) :: bind name binding rest

/-- The scope of a number. -/
def scope (realm : Realm) (number : Nat) : Scope := realm.scopes[number]?.getD { outer := none }

/-- Gives a name of a scope a binding. -/
def bindIn (realm : Realm) (number : Nat) (name : String) (binding : Binding) : Realm :=
  { realm with
    scopes := realm.scopes.modify number fun scope =>
      { scope with bindings := bind name binding scope.bindings } }

/-- The value a name of a scope stands for. -/
def valueIn (realm : Realm) (number : Nat) (name : String) : Value :=
  ((binding? name (realm.scope number).bindings).bind Binding.value).getD .undefined

end Realm

/-! ### Items of arrays -/

namespace Items

/-- The items of a new array, of which some are left out. -/
def ofList (items : List (Option Value)) : Items :=
  let stored := items.toArray
  { stored, length := stored.size }

/-- The ordinary item at an index. -/
def item? (items : Items) (index : Nat) : Option Value := (items.stored[index]?).join

/-- The indices of the ordinary items. -/
def indices (items : Items) : List Nat :=
  (List.range items.stored.size).filter fun index => (items.item? index).isSome

/-- How far behind the ordinary items one more is kept with them. -/
def reach : Nat := 4096

/-- Puts an ordinary item at an index; what lies between it and the others is left out. -/
def store (items : Items) (index : Nat) (value : Value) : Items :=
  match items with
  | ⟨stored, length, lengthFixed⟩ =>
    let length := max length (index + 1)
    if index < stored.size then ⟨stored.setIfInBounds index (some value), length, lengthFixed⟩
    else
      let gap := Array.replicate (index - stored.size) (none : Option Value)
      ⟨(stored ++ gap).push (some value), length, lengthFixed⟩

/-- Leaves out the ordinary item at an index. -/
def drop (items : Items) (index : Nat) : Items :=
  { items with stored := items.stored.setIfInBounds index none }

/-- The length as a field. -/
def lengthField (items : Items) : Property :=
  { slot := .data (.ofNat items.length) !items.lengthFixed, enumerable := false,
    configurable := false }

end Items

/-! ### Own fields -/

namespace Object

/-- A field among others. -/
def find? (key : Key) (fields : List (Key × Property)) : Option Property :=
  (fields.find? fun entry => entry.1 == key).map Prod.snd

/-- Puts a field in the place of the one with its key, or behind the others. -/
def put (key : Key) (property : Property) : List (Key × Property) → List (Key × Property)
  | [] => [(key, property)]
  | (other, old) :: rest =>
    if other = key then (key, property) :: rest else (other, old) :: put key property rest

/-- The fields without the one of a key. -/
def without (key : Key) (fields : List (Key × Property)) : List (Key × Property) :=
  fields.filter fun entry => entry.1 != key

/-- The key of the length of arrays and texts. -/
def lengthKey : Key := .ofString "length"

/-- The field of an object itself. -/
def own? (object : Object) (key : Key) : Option Property :=
  match object.kind with
  | .array items =>
    match key.index?.bind items.item? with
    | some value => some (.plain value)
    | none => if key = lengthKey then some items.lengthField else find? key object.fields
  | .wrapper (.text text) =>
    match key.index?.bind fun index => text.units[index]? with
    | some unit => some { slot := .data (.text ⟨[unit]⟩) false, configurable := false }
    | none =>
      if key = lengthKey then some (.fixed (.ofNat text.length)) else find? key object.fields
  | _ => find? key object.fields

/-- Puts a field of its own into an object; an array gets longer where it has to. -/
def define (object : Object) (key : Key) (property : Property) : Object :=
  match object, key.index? with
  | ⟨.array items, parent, fields, extensible⟩, some index =>
    let length := max items.length (index + 1)
    match property.plainValue? with
    | some value =>
      if index ≤ items.stored.size + Items.reach then
        ⟨.array (items.store index value), parent, without key fields, extensible⟩
      else ⟨.array { items with length }, parent, put key property fields, extensible⟩
    | none => ⟨.array { items.drop index with length }, parent, put key property fields, extensible⟩
  | object, _ => { object with fields := put key property object.fields }

/-- Takes a field of its own out of an object. -/
def remove (object : Object) (key : Key) : Object :=
  let object := { object with fields := without key object.fields }
  match object.kind, key.index? with
  | .array items, some index => { object with kind := .array (items.drop index) }
  | _, _ => object

/-- How long an array stays that is cut to a length: up to behind the last item that has to stay. -/
def keptLength (object : Object) (length : Nat) : Nat :=
  object.fields.foldl (fun kept entry =>
    match entry.1.index? with
    | some index => if entry.2.configurable then kept else max kept (index + 1)
    | none => kept) length

/-- Sets the length of an array; the items behind it go, as far as they may. -/
def resize (object : Object) (length : Nat) : Object :=
  let kept := object.keptLength length
  match object with
  | ⟨.array ⟨stored, _, lengthFixed⟩, parent, fields, extensible⟩ =>
    let fields := fields.filter fun entry =>
      match entry.1.index? with
      | some index => index < kept
      | none => true
    ⟨.array ⟨stored.shrink kept, kept, lengthFixed⟩, parent, fields, extensible⟩
  | object => object

/-- Whether the object is an array whose length stays as it is. -/
def isLengthFixed (object : Object) : Bool :=
  match object.kind with
  | .array items => items.lengthFixed
  | _ => false

/-- Keeps the length of an array as it is from now on. -/
def fixLength (object : Object) : Object :=
  match object.kind with
  | .array items => { object with kind := .array { items with lengthFixed := true } }
  | _ => object

/-- The keys of the fields of an object itself, in the order in which they are listed. -/
def ownKeys (object : Object) : List Key :=
  let named := object.fields.map Prod.fst
  match object.kind with
  | .array items => Key.ordered items.indices (lengthKey :: named)
  | .wrapper (.text text) => Key.ordered (List.range text.length) (lengthKey :: named)
  | _ => Key.ordered [] named

/-- Whether the object can be called. -/
def isCallable (object : Object) : Bool :=
  match object.kind with
  | .closure .. | .native _ | .host .. => true
  | _ => false

end Object

/-- Whether a value can be called. -/
def Realm.isCallable (realm : Realm) : Value → Bool
  | .object address => (realm.object address).isCallable
  | _ => false

end ScriptKernel.Script
