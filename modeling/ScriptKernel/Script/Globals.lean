/-
**The memory a script starts with.**

* `Realm.initial`: the global object with everything a script finds by name, and the prototypes.
-/

import ScriptKernel.Script.Property

set_option autoImplicit false

namespace ScriptKernel.Script

/-- Where the objects the language refers to are put. -/
def Landmarks.standard : Landmarks where
  globalObject := 0
  objectParent := 1
  functionParent := 2
  arrayParent := 3
  stringParent := 4
  numberParent := 5
  booleanParent := 6
  symbolParent := 7
  bigintParent := 8
  promiseParent := 9
  errorParents := ErrorKind.all.zip (List.range' 10 ErrorKind.all.length)

namespace Realm

/-- The objects the language refers to, without fields. -/
def bare : Realm where
  landmarks := .standard
  objects :=
    let plain (parent : Option Address) : Object := { parent }
    let wrapper (value : Value) : Object := { kind := .wrapper value, parent := some 1 }
    #[plain (some 1), plain none, { kind := .native (.idle false), parent := some 1 },
      { kind := .array {}, parent := some 1 }, wrapper (.ofString ""), wrapper (.ofNat 0),
      wrapper (.boolean false), plain (some 1), plain (some 1), plain (some 1)] ++
      (ErrorKind.all.map fun kind => plain (some (if kind = .error then 1 else 10))).toArray

/-- Gives an object a field that is not listed. -/
def hide (realm : Realm) (address : Address) (name : String) (value : Value) : Realm :=
  realm.define address (.ofString name) (.hidden value)

/-- The fields of a function: how many arguments it names, and its name. -/
def functionFields (name : String) (length : Nat) : List (Key × Property) :=
  let shown (value : Value) : Property :=
    { slot := .data value false, enumerable := false }
  [(.ofString "length", shown (.ofNat length)), (.ofString "name", shown (.ofString name))]

/-- Gives an object a function as a field that is not listed. -/
def method (realm : Realm) (address : Address) (name : String) (length : Nat) (native : Native) :
    Realm :=
  let (function, realm) := realm.create
    { kind := .native native
      parent := some realm.landmarks.functionParent
      fields := functionFields name length }
  realm.hide address name (.object function)

/-- Gives several methods. -/
def methods (realm : Realm) (address : Address) (entries : List (String × Nat × Native)) : Realm :=
  entries.foldl
    (fun realm entry => realm.method address entry.1 entry.2.1 entry.2.2) realm

/-- Makes a global function that makes objects with a prototype, and gives it methods. -/
def constructor (realm : Realm) (name : String) (length : Nat) (native : Native)
    (parent : Address) (entries : List (String × Nat × Native)) : Realm :=
  let (function, realm) := realm.create
    { kind := .native native
      parent := some realm.landmarks.functionParent
      fields := functionFields name length ++
        [(.ofString "prototype", .fixed (.object parent))] }
  let realm := realm.hide realm.landmarks.globalObject name (.object function)
  let realm := realm.hide parent "constructor" (.object function)
  realm.methods function entries

/-- Makes a global function whose objects have a prototype of their own. -/
def idleConstructor (realm : Realm) (name : String) : Realm :=
  let (parent, realm) := realm.create { parent := some realm.landmarks.objectParent }
  realm.constructor name 0 (.idle true) parent []

/-- Makes a global object with methods. -/
def library (realm : Realm) (name : String) (entries : List (String × Nat × Native)) : Realm :=
  let (address, realm) := realm.create
    { kind := .library name, parent := some realm.landmarks.objectParent }
  (realm.hide realm.landmarks.globalObject name (.object address)).methods address entries

/-- The names of the functions that make objects and do nothing else here. -/
def idleConstructors : List String :=
  ["ArrayBuffer", "BigInt64Array", "BigUint64Array", "DataView", "Date", "Float32Array",
    "Float64Array", "Int16Array", "Int32Array", "Int8Array", "Map", "Proxy", "RegExp", "Set",
    "SharedArrayBuffer", "Uint16Array", "Uint32Array", "Uint8Array", "Uint8ClampedArray", "WeakMap",
    "WeakSet"]

/-- The names of the functions that do nothing here. -/
def idleFunctions : List String :=
  ["decodeURI", "decodeURIComponent", "encodeURI", "encodeURIComponent", "escape", "eval",
    "parseFloat", "parseInt", "unescape"]

/-- The names on the prototype of all objects that do nothing here. -/
def idleMethods : List String :=
  ["__defineGetter__", "__defineSetter__", "__lookupGetter__", "__lookupSetter__", "isPrototypeOf",
    "propertyIsEnumerable"]

/-- The functions that wrap simple values, with the prototypes of those. -/
def withSimpleTypes (realm : Realm) : Realm :=
  let marks := realm.landmarks
  let wrapped : List (String × Nat × Native) :=
    [("toString", 0, .wrappedToString), ("valueOf", 0, .wrappedValueOf)]
  let named : List (String × Nat × Native × Address) :=
    [("String", 1, .string, marks.stringParent), ("Number", 1, .number, marks.numberParent),
      ("Boolean", 1, .boolean, marks.booleanParent), ("Symbol", 0, .symbol, marks.symbolParent),
      ("BigInt", 1, .idle false, marks.bigintParent)]
  named.foldl
    (fun realm ⟨name, parameters, native, parent⟩ =>
      (realm.constructor name parameters native parent []).methods parent wrapped) realm

/-- The functions that make errors. -/
def withErrors (realm : Realm) : Realm :=
  let made := realm.landmarks.errorParents.foldl
    (fun realm entry =>
      let realm := realm.constructor entry.1.name 1 (.error entry.1) entry.2 []
      let realm := realm.hide entry.2 "name" (.ofString entry.1.name)
      realm.hide entry.2 "message" (.ofString "")) realm
  made.method (made.errorParent .error) "toString" 0 .errorToString

/-- Objects, functions, arrays and promises. -/
def withStructures (realm : Realm) : Realm :=
  let marks := realm.landmarks
  let realm := realm.constructor "Object" 1 .object marks.objectParent
    [("defineProperty", 3, .objectDefineProperty),
      ("preventExtensions", 1, .objectPreventExtensions), ("keys", 1, .objectKeys),
      ("getPrototypeOf", 1, .objectPrototypeOf)]
  let realm := realm.methods marks.objectParent
    ([("toString", 0, .objectToString), ("toLocaleString", 0, .objectToLocaleString),
      ("valueOf", 0, .objectValueOf), ("hasOwnProperty", 1, .objectHasOwn)] ++
      idleMethods.map fun name => (name, 1, .idle false))
  let realm := realm.constructor "Function" 1 (.idle true) marks.functionParent []
  let realm := realm.methods marks.functionParent
    [("call", 1, .functionCall), ("toString", 0, .functionToString)]
  let realm := realm.modifyObject marks.functionParent fun object =>
    { object with fields := functionFields "" 0 ++ object.fields }
  let realm := realm.constructor "Array" 1 .array marks.arrayParent [("isArray", 1, .arrayIsArray)]
  let realm := realm.methods marks.arrayParent
    [("push", 1, .arrayPush), ("join", 1, .arrayJoin), ("map", 1, .arrayMap),
      ("toString", 0, .arrayToString)]
  let realm := realm.constructor "Promise" 1 .promise marks.promiseParent
    [("resolve", 1, .promiseResolve), ("reject", 1, .promiseReject)]
  realm.methods marks.promiseParent [("then", 2, .promiseThen), ("catch", 1, .promiseCatch)]

/-- The prototype of an object as a field. -/
def withPrototypeField (realm : Realm) : Realm :=
  let function (realm : Realm) (name : String) (length : Nat) (native : Native) :
      Address × Realm :=
    realm.create
      { kind := .native native
        parent := some realm.landmarks.functionParent
        fields := functionFields name length }
  let (getter, realm) := function realm "get __proto__" 0 .prototypeGetter
  let (setter, realm) := function realm "set __proto__" 1 .prototypeSetter
  realm.define realm.landmarks.objectParent (.ofString "__proto__")
    { slot := .accessor (.object getter) (.object setter), enumerable := false }

/-- Values that never change, and the global object itself. -/
def withConstants (realm : Realm) : Realm :=
  let place := realm.landmarks.globalObject
  let constants : List (String × Value) :=
    [("undefined", .undefined), ("NaN", .number .nan), ("Infinity", .number (.infinite false))]
  let realm := constants.foldl
    (fun realm entry => realm.define place (.ofString entry.1) (.fixed entry.2)) realm
  realm.hide place "globalThis" (.object place)

/-- The memory a script starts with. -/
def initial : Realm :=
  let realm := bare.withStructures.withSimpleTypes.withErrors.withPrototypeField.withConstants
  let realm := idleConstructors.foldl idleConstructor realm
  let realm := realm.methods realm.landmarks.globalObject
    (idleFunctions.map (fun name => (name, 1, .idle false)) ++
      [("isNaN", 1, .isNaN), ("isFinite", 1, .isFinite)])
  let realm := realm.library "JSON" [("stringify", 3, .jsonStringify), ("parse", 2, .jsonParse)]
  let realm := realm.library "Math" []
  let realm := realm.library "Reflect" []
  realm.library "Atomics" []

end Realm

end ScriptKernel.Script
