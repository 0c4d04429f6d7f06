/-
**From one kind of value to another, and the operators.**

* `toPrimitive`, `toText`, `toNumber`, `toKey`, `toObject`: what a value counts as where another kind is
  needed;
* `looselyEqual`, `strictlyEqual`: the two equalities;
* `operate`, `operateAlone`: the operators between two values, and in front of one.
-/

import ScriptKernel.Script.Numeral
import ScriptKernel.Script.Property

set_option autoImplicit false

namespace ScriptKernel.Script

/-- Which kind is wanted where an object has to become a simple value. -/
inductive Hint
  | number
  | text
  deriving DecidableEq, Repr

/-- The names of the methods that make an object a simple value, in the order they are tried. -/
def Hint.methods : Hint → List String
  | .number => ["valueOf", "toString"]
  | .text => ["toString", "valueOf"]

/-- Tries one method after the other until one answers a simple value. -/
def simplify (caller : Caller) (subject : Value) : List String → Run Value
  | [] => Run.raise .type "toPrimitive"
  | name :: others => do
    let method ← get caller subject (.ofString name)
    if ← Run.look fun realm => realm.isCallable method then
      match ← caller.call method subject [] with
      | .object _ => simplify caller subject others
      | value => return value
    else simplify caller subject others

/-- A simple value: objects are asked for one. -/
def toPrimitive (caller : Caller) (hint : Hint) (value : Value) : Run Value :=
  match value with
  | .object _ => simplify caller value hint.methods
  | _ => pure value

/-! ### Texts -/

/-- The text of a simple value. -/
def primitiveText : Value → Run Units
  | .undefined => pure (.ofString "undefined")
  | .null => pure (.ofString "null")
  | .boolean value => pure (.ofString (toString value))
  | .number value => pure (.ofString value.text)
  | .text value => pure value
  | .bigint value => pure (.ofString (toString value))
  | .symbol _ => Run.raise .type "cannot convert symbol to string"
  | .object _ => Run.raise .type "toPrimitive"
  | .panic => Run.throwValue .undefined

/-- The text of a value. -/
def toText (caller : Caller) (value : Value) : Run Units := do
  primitiveText (← toPrimitive caller .text value)

/-- What a value stands for as the name of a field. -/
def toKey (caller : Caller) (value : Value) : Run Key := do
  match ← toPrimitive caller .text value with
  | .symbol number => return .symbol number
  | simple => return .text (← primitiveText simple)

/-! ### Numbers -/

/-- The number of a simple value. -/
def primitiveNumber : Value → Run Double
  | .undefined => pure .nan
  | .null => pure (.finite false 0)
  | .boolean value => pure (Double.ofNat value.toNat)
  | .number value => pure value
  | .text value => pure (Numeral.ofText value)
  | .bigint _ => Run.raise .type "cannot convert bigint to number"
  | .symbol _ => Run.raise .type "cannot convert symbol to number"
  | .object _ => Run.raise .type "toPrimitive"
  | .panic => Run.throwValue .undefined

/-- The number of a value. -/
def toNumber (caller : Caller) (value : Value) : Run Double := do
  primitiveNumber (← toPrimitive caller .number value)

/-- A number or a big integer. -/
inductive Numeric
  | number (value : Double)
  | bigint (value : Int)
  deriving DecidableEq, Repr

/-- A number or a big integer as a value. -/
def Numeric.value : Numeric → Value
  | .number value => .number value
  | .bigint value => .bigint value

/-- What a value counts as in arithmetic. -/
def toNumeric (caller : Caller) (value : Value) : Run Numeric := do
  match ← toPrimitive caller .number value with
  | .bigint value => return .bigint value
  | simple => return .number (← primitiveNumber simple)

/-- Whether a value counts as true. -/
def isTrue : Value → Bool
  | .undefined | .null => false
  | .boolean value => value
  | .number value => !(value.isZero || value == .nan)
  | .text value => !value.units.isEmpty
  | .bigint value => value != 0
  | .symbol _ | .object _ | .panic => true

/-! ### Objects -/

/-- A value as an object; a simple one is wrapped. -/
def toObject (value : Value) : Run Value := do
  match value with
  | .undefined | .null => Run.raise .type "cannot convert to object"
  | .object _ => return value
  | simple =>
    let parent ← Run.look fun realm => (realm.holder? simple).bind Object.parent
    create (.wrapper simple) parent []

/-- The address of an object. -/
def needObject (value : Value) : Run Address :=
  match value with
  | .object address => pure address
  | _ => Run.raise .type "not an object"

/-! ### Equality and order -/

/-- Equality without conversion. -/
def strictlyEqual : Value → Value → Bool
  | .number first, .number second => first.equal second
  | .panic, _ => false
  | first, second => first == second

/-- Compares a big integer and a number. -/
def equalAcross (first : Int) (second : Double) : Bool := second.toInt? == some first

/-- Equality of simple values, which are converted where their kinds differ. -/
def looselyEqualPrimitives (first second : Value) : Bool :=
  match first, second with
  | .undefined, .null | .null, .undefined => true
  | .undefined, _ | .null, _ | _, .undefined | _, .null => first == second
  | .bigint whole, .number other | .number other, .bigint whole => equalAcross whole other
  | .bigint whole, .text text | .text text, .bigint whole =>
    Numeral.wholeOfText text == some whole
  | .bigint whole, .boolean other | .boolean other, .bigint whole => whole == other.toNat
  | .number number, .text text | .text text, .number number => number.equal (Numeral.ofText text)
  | .number number, .boolean other | .boolean other, .number number =>
    number.equal (Double.ofNat other.toNat)
  | .text text, .boolean other | .boolean other, .text text =>
    (Numeral.ofText text).equal (Double.ofNat other.toNat)
  | _, _ => strictlyEqual first second

/-- Equality with conversion. -/
def looselyEqual (caller : Caller) (first second : Value) : Run Bool := do
  match first, second with
  | .object _, .object _ => return first == second
  | .object _, .undefined | .object _, .null | .undefined, .object _ | .null, .object _ =>
    return false
  | .object _, _ => return looselyEqualPrimitives (← toPrimitive caller .number first) second
  | _, .object _ => return looselyEqualPrimitives first (← toPrimitive caller .number second)
  | _, _ => return looselyEqualPrimitives first second

/-- The order of texts by their units. -/
def unitsLess : List Nat → List Nat → Bool
  | _, [] => false
  | [], _ :: _ => true
  | first :: rest, second :: others =>
    if first == second then unitsLess rest others else decide (first < second)

/-- Whether a big integer is below a number. -/
def belowDouble (first : Int) (second : Double) : Bool :=
  match second with
  | .nan => false
  | .infinite negative => !negative
  | .finite negative units => decide (first * Double.one < Double.signed negative units)

/-- Whether a number is below a big integer. -/
def belowBigint (first : Double) (second : Int) : Bool :=
  match first with
  | .nan => false
  | .infinite negative => negative
  | .finite negative units => decide (Double.signed negative units < second * Double.one)

/-- The order of numbers and big integers. -/
def Numeric.less : Numeric → Numeric → Bool
  | .number first, .number second => first.less second
  | .bigint first, .bigint second => decide (first < second)
  | .bigint first, .number second => belowDouble first second
  | .number first, .bigint second => belowBigint first second

/-- What a simple value counts as beside another one that it is compared with; a text that stands for no big
integer compares with none. -/
def comparable (value other : Value) : Run (Option Numeric) := do
  match value, other with
  | .text text, .bigint _ => return (Numeral.wholeOfText text).map Numeric.bigint
  | .bigint whole, _ => return some (.bigint whole)
  | simple, _ =>
    let number ← primitiveNumber simple
    return if number == .nan then none else some (.number number)

/-- Compares two values, as texts if both are; what is no number compares with nothing. -/
def below (caller : Caller) (first second : Value) (test : Numeric → Numeric → Bool)
    (testTexts : List Nat → List Nat → Bool) : Run Value := do
  let first ← toPrimitive caller .number first
  let second ← toPrimitive caller .number second
  match first, second with
  | .text one, .text other => return .boolean (testTexts one.units other.units)
  | _, _ =>
    let one ← comparable first second
    let other ← comparable second first
    match one, other with
    | some one, some other => return .boolean (test one other)
    | _, _ => return .boolean false

/-! ### Arithmetic -/

/-- An operation on numbers and the same on big integers. -/
def arithmetic (caller : Caller) (first second : Value) (onNumbers : Double → Double → Double)
    (onBigints : Int → Int → Option Int) : Run Value := do
  let first ← toNumeric caller first
  let second ← toNumeric caller second
  match first, second with
  | .number one, .number other => return .number (onNumbers one other)
  | .bigint one, .bigint other =>
    match onBigints one other with
    | some value => return .bigint value
    | none => Run.raise .range "invalid operation"
  | _, _ => Run.raise .type "cannot convert to bigint"

/-- An operator in front of a value. -/
def operateAlone (caller : Caller) (operator : UnaryOperator) (value : Value) : Run Value := do
  match operator with
  | .plus =>
    match ← toNumeric caller value with
    | .number number => return .number number
    | .bigint _ => Run.raise .type "bigint argument with unary +"
  | .minus =>
    match ← toNumeric caller value with
    | .number number => return .number number.neg
    | .bigint whole => return .bigint (-whole)
  | .negation => return .boolean !(isTrue value)
  | .nothing => return .undefined

/-- Puts texts together, or adds. -/
def plus (caller : Caller) (first second : Value) : Run Value := do
  let first ← toPrimitive caller .number first
  let second ← toPrimitive caller .number second
  match first, second with
  | .text one, _ => return .text (one ++ (← primitiveText second))
  | _, .text other => return .text ((← primitiveText first) ++ other)
  | _, _ => arithmetic caller first second Double.add fun one other => some (one + other)

/-- Whether an object comes from a function. -/
def isInstance (caller : Caller) (subject callee : Value) : Run Value := do
  match callee with
  | .object _ =>
    if ← Run.look fun realm => realm.isCallable callee then
      match subject with
      | .object address =>
        match ← get caller callee (.ofString "prototype") with
        | .object parent =>
          Run.look fun realm =>
            .boolean (realm.inherits parent (realm.objects.size + 1) (realm.object address).parent)
        | _ => Run.raise .type "operand 'prototype' property is not an object"
      | _ => return .boolean false
    else Run.raise .type "invalid 'instanceof' right operand"
  | _ => Run.raise .type "invalid 'instanceof' right operand"

/-- Whether an object has a field. -/
def hasField (caller : Caller) (key subject : Value) : Run Value := do
  match subject with
  | .object _ =>
    let key ← toKey caller key
    return .boolean (← has subject key)
  | _ => Run.raise .type "invalid 'in' operand"

/-- An operator between two values. -/
def operate (caller : Caller) (operator : BinaryOperator) (first second : Value) : Run Value :=
  match operator with
  | .add => plus caller first second
  | .subtract => arithmetic caller first second Double.sub fun one other => some (one - other)
  | .multiply => arithmetic caller first second Double.mul fun one other => some (one * other)
  | .divide => arithmetic caller first second Double.div fun one other =>
      if other = 0 then none else some (one.tdiv other)
  | .remainder => arithmetic caller first second Double.rem fun one other =>
      if other = 0 then none else some (one.tmod other)
  | .less => below caller first second Numeric.less unitsLess
  | .greater => below caller first second (fun one other => other.less one)
      fun one other => unitsLess other one
  | .lessOrEqual => below caller first second (fun one other => !other.less one)
      fun one other => !unitsLess other one
  | .greaterOrEqual => below caller first second (fun one other => !one.less other)
      fun one other => !unitsLess one other
  | .equal => do return .boolean (← looselyEqual caller first second)
  | .unequal => do return .boolean !(← looselyEqual caller first second)
  | .same => pure (.boolean (strictlyEqual first second))
  | .different => pure (.boolean !(strictlyEqual first second))
  | .isIn => hasField caller first second
  | .instanceOf => isInstance caller first second

end ScriptKernel.Script
