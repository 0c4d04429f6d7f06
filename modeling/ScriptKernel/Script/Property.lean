/-
**Fields: looked up.**

A field an object does not have itself is looked up in its prototype, and so on. Getters and setters are
called on the value the field was asked of.

* `Realm.field?`: the field found, itself or inherited;
* `get`, `has`: the value of a field, and whether there is one;
* `Realm.placement`: what setting a field of a value comes to;
* `create`, `createArray`, `createObject`: new objects.
-/

import ScriptKernel.Script.Run

set_option autoImplicit false

namespace ScriptKernel.Script

namespace Realm

/-- What a value has of its own, and its prototype; nothing has neither. -/
def holder? (realm : Realm) : Value → Option Object
  | .undefined | .null | .panic => none
  | .object address => some (realm.object address)
  | .text text =>
    some { kind := .wrapper (.text text), parent := some realm.landmarks.stringParent }
  | .number _ => some { parent := some realm.landmarks.numberParent }
  | .boolean _ => some { parent := some realm.landmarks.booleanParent }
  | .bigint _ => some { parent := some realm.landmarks.bigintParent }
  | .symbol _ => some { parent := some realm.landmarks.symbolParent }

/-- A field found by going from prototype to prototype. -/
def inherited? (realm : Realm) (key : Key) : Nat → Option Address → Option Property
  | 0, _ => none
  | _, none => none
  | limit + 1, some address =>
    let object := realm.object address
    match object.own? key with
    | some property => some property
    | none => inherited? realm key limit object.parent

/-- A field of an object, its own or inherited. -/
def field? (realm : Realm) (object : Object) (key : Key) : Option Property :=
  match object.own? key with
  | some property => some property
  | none => realm.inherited? key (realm.objects.size + 1) object.parent

/-- Whether an object is found by going from prototype to prototype. -/
def inherits (realm : Realm) (wanted : Address) : Nat → Option Address → Bool
  | 0, _ => false
  | _, none => false
  | limit + 1, some address =>
    address == wanted || inherits realm wanted limit (realm.object address).parent

/-- Puts a field of its own into an object. -/
def define (realm : Realm) (address : Address) (key : Key) (property : Property) : Realm :=
  realm.modifyObject address fun object => object.define key property

/-- The global object as a value. -/
def globalValue (realm : Realm) : Value := .object realm.landmarks.globalObject

end Realm

/-- What setting a field comes to. -/
inductive Placement
  /-- A field of an object is put in place. -/
  | define (address : Address) (property : Property)
  /-- A setter is called. -/
  | hand (setter : Value)
  /-- A parameter of a call gets the value. -/
  | bind (scope : Nat) (name : String)
  /-- The length of an array is set. -/
  | resize (address : Address)
  | refuse (reason : Units)

namespace Placement

/-- What setting a field comes to that must not change. -/
def readOnly (name : Units) : Placement := .refuse (messageAbout "'" name "' is read-only")

/-- What adding an ordinary field to an object comes to. -/
def adding (address : Address) (object : Object) (key : Key) (value : Value) : Placement :=
  let isBehind : Bool :=
    match object.kind, key.index? with
    | .array items, some index => items.lengthFixed && items.length ≤ index
    | _, _ => false
  if !object.extensible then .refuse (.ofString "object is not extensible")
  else if isBehind then readOnly (.ofString "length")
  else .define address (.plain value)

/-- What setting a field of an object itself comes to. -/
def replacing (address : Address) (name : Units) (value : Value) (own : Property) : Placement :=
  match own.slot with
  | .data _ true => .define address { own with slot := .data value true }
  | .data _ false => readOnly name
  | .accessor _ .undefined => .refuse (.ofString "no setter for property")
  | .accessor _ setter => .hand setter
  | .parameter scope parameter => .bind scope parameter

/-- What setting a field comes to that may be inherited. -/
def under (name : Units) (inherited : Option Property) (added : Placement) : Placement :=
  match inherited.map Property.slot with
  | some (.data _ false) => readOnly name
  | some (.accessor _ .undefined) => .refuse (.ofString "no setter for property")
  | some (.accessor _ setter) => .hand setter
  | _ => added

end Placement

/-- Whether a key is the length of an array. -/
def Object.isLength (object : Object) (key : Key) : Bool :=
  match object.kind with
  | .array _ => key == Object.lengthKey
  | _ => false

/-- What setting a field of a value comes to. -/
def Realm.placement (realm : Realm) (subject : Value) (key : Key) (value : Value) : Placement :=
  let name := realm.keyName key
  let inherited (object : Object) : Option Property :=
    realm.inherited? key (realm.objects.size + 1) object.parent
  match subject with
  | .object address =>
    let object := realm.object address
    if object.isLength key then .resize address
    else match object.own? key with
      | some own => .replacing address name value own
      | none => .under name (inherited object) (.adding address object key value)
  | simple =>
    .under name ((realm.holder? simple).bind inherited) (.refuse (.ofString "not an object"))

/-- The word for a value that is nothing. -/
def nothingName : Value → String
  | .null => "null"
  | _ => "undefined"

/-- A value that a script can use; any other is an exception without a value. -/
def usable : Value → Run Value
  | .panic => Run.throwValue .undefined
  | value => pure value

/-- The value of a field. -/
def get (caller : Caller) (subject : Value) (key : Key) : Run Value := do
  let subject ← usable subject
  let found ← Run.look fun realm =>
    (realm.holder? subject).map fun object => realm.field? object key
  match found with
  | none =>
    let name ← Run.look fun realm => realm.keyName key
    Run.raiseAbout .type "cannot read property '" name ("' of " ++ nothingName subject)
  | some none => return .undefined
  | some (some property) =>
    match property.slot with
    | .data value _ => usable value
    | .accessor .undefined _ => return .undefined
    | .accessor getter _ => caller.call getter subject []
    | .parameter scope name => usable (← Run.look fun realm => realm.valueIn scope name)

/-- Whether a value has a field, its own or inherited. -/
def has (subject : Value) (key : Key) : Run Bool :=
  Run.look fun realm =>
    ((realm.holder? subject).bind fun object => realm.field? object key).isSome

/-- Gives an object a field that was not there, as an ordinary one. -/
def put (address : Address) (key : Key) (value : Value) : Run Unit :=
  Run.change fun realm => realm.define address key (.plain value)

/-- Makes an object with a prototype. -/
def create (kind : ObjectClass) (parent : Option Address) (fields : List (Key × Property)) :
    Run Value :=
  Run.make fun realm =>
    let (address, realm) := realm.create { kind, parent, fields }
    (.object address, realm)

/-- Makes an array. -/
def createArray (items : List (Option Value)) : Run Value :=
  Run.make fun realm =>
    let (address, realm) := realm.create
      { kind := .array (.ofList items), parent := some realm.landmarks.arrayParent }
    (.object address, realm)

/-- Makes an ordinary object. -/
def createObject (fields : List (Key × Property)) : Run Value :=
  Run.make fun realm =>
    let (address, realm) := realm.create
      { parent := some realm.landmarks.objectParent, fields }
    (.object address, realm)

end ScriptKernel.Script
