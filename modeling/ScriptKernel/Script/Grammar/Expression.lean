/-
**Expressions as they are written.**

* `expression`, `assignmentOf`: operators by their strength, from assignments to values;
* `primary`, `followers`: values with their members and calls;
* `objectEntries`: the parts of an object.
-/

import ScriptKernel.Number.Decimal
import ScriptKernel.Script.Grammar.Function

set_option autoImplicit false

namespace ScriptKernel.Script

namespace Parse

section

variable (limit : Nat) (inner : Layer)

/-- Operands with operators of one strength between them, from the left. -/
def chain (operand : Parse Expression)
    (join? : Token → Option (Expression → Expression → Expression)) :
    Nat → Expression → Parse Expression
  | 0, first => return first
  | limit + 1, first => do
    match join? (← current) with
    | none => return first
    | some join =>
      advance
      let second ← operand
      chain operand join? limit (join first second)

/-- Assignments with commas between them. -/
def expressionOf (assignment : Parse Expression) : Parse Expression := do
  let first ← assignment
  chain assignment (fun token => if token.kind == .mark "," then some .sequence else none) limit first

/-- An expression. -/
def expression : Parse Expression := expressionOf limit (inner.assignment true)

/-- An expression in parentheses. -/
def parenthesized : Parse Expression := do
  expectMark "("
  let value ← expression limit inner
  expectMark ")"
  return value

/-- The arguments of a call, behind the opening parenthesis. -/
def argumentList : Nat → List Expression → Parse (List Expression)
  | 0, read => return read.reverse
  | limit + 1, read => do
    if ← atMark ")" then
      advance
      return read.reverse
    else
      let value ← inner.assignment true
      if ← atMark ")" then
        advance
        return (value :: read).reverse
      else
        expectMark ","
        argumentList limit (value :: read)

/-- How many items of an array are read before a comma between two may be missing. -/
def strictItems : Nat := 32

/-- The items of an array, behind the opening bracket. Behind a place that is left out, and behind many
items, a comma may be missing. -/
def arrayItems : Nat → Bool → List (Option Expression) → Parse (List (Option Expression))
  | 0, _, read => return read.reverse
  | limit + 1, loose, read => do
    if ← atMark "]" then
      advance
      return read.reverse
    else
      let loose := loose || read.length ≥ strictItems || (← atMark ",")
      let item ← if ← atMark "," then pure none else some <$> inner.assignment true
      if ← atMark "," then
        advance
        arrayItems limit loose (item :: read)
      else if loose || (← atMark "]") then arrayItems limit loose (item :: read)
      else complain (.expected "]")

/-! ### Objects -/

/-- How a part of an object is named. -/
inductive PartName
  /-- A name, and whether it can be the name of a variable. -/
  | key (name : Units) (own : Option String)
  | computed (key : Expression)

/-- The name of a part of an object. -/
def partName : Parse PartName := do
  let token ← current
  match token.kind with
  | .name name _ =>
    let isIdentifier := (← word?) == some (.identifier name)
    advance
    return .key (.ofString name) (if isIdentifier then some name else none)
  | .text value => advance; return .key value none
  | .number value => advance; return .key (.ofString value.text) none
  | .bigint value => advance; return .key (.ofString (toString value)) none
  | .mark "[" =>
    advance
    let key ← expression limit inner
    expectMark "]"
    return .computed key
  | _ => complain .propertyName

/-- The name of a part of an object, and the form of function it announces. -/
def announced : Parse (PartName × FunctionForm) := do
  let token ← current
  let form? : Option (String × FunctionForm) :=
    if token.kind == .name "get" false then some ("get", .getter)
    else if token.kind == .name "set" false then some ("set", .setter)
    else none
  match form? with
  | none => return (← partName limit inner, .plain)
  | some (word, form) =>
    advance
    if isOneOf (← current) [":", ",", "\x7d", "(", "="] then
      return (.key (.ofString word) (some word), .plain)
    else
      let name ← partName limit inner
      if ← atMark "(" then return (name, form) else complain .propertyName

/-- A part that is a function. -/
def methodEntry (start : List Char) (name : PartName)
    (form : FunctionForm) : Parse Entry := do
  let definition ← functionFrom limit inner start none form false
  match name with
  | .key name _ => return .method name (definition.named (form.nameStart ++ name))
  | .computed key => return .computedMethod key definition

/-- Takes note of a name that is used. -/
def useName (name : String) : Parse Unit := do
  if name = "arguments" then modify fun state => { state with usesArguments := true }

/-- One part of an object. -/
def entry (hasParent : Bool) : Parse Entry := do
  let start := (← current).start
  let (name, form) ← announced limit inner
  if form != .plain then methodEntry limit inner start name form
  else if ← atMark "(" then methodEntry limit inner start name .method
  else
    match name, ← atMark ":" with
    | .key key (some own), false =>
      useName own
      return .field key (.name own)
    | _, _ =>
      expectMark ":"
      let value ← inner.assignment true
      match name with
      | .computed key => return .computed key value
      | .key key _ =>
        if key == .ofString "__proto__" then
          if hasParent then complain .duplicateParent else return .parent value
        else return .field key (value.named key)

/-- Whether a part of an object is its prototype. -/
def isParent : Entry → Bool
  | .parent _ => true
  | _ => false

/-- The parts of an object, behind the opening brace. -/
def objectEntries : Nat → List Entry → Parse (List Entry)
  | 0, read => return read.reverse
  | count + 1, read => do
    if ← atMark "\x7d" then
      advance
      return read.reverse
    else
      let one ← entry limit inner (read.any isParent)
      if ← atMark "," then
        advance
        objectEntries count (one :: read)
      else
        expectMark "\x7d"
        return (one :: read).reverse

/-! ### Expressions -/

/-- What stands at a word that no class is around. -/
def superWord : Parse Expression := do
  advance
  if ← atMark "(" then complain .superCall
  else if isOneOf (← current) [".", "["] then complain .superField
  else complain .superAlone

/-- A value, and the next token. -/
def taken (value : Expression) : Parse Expression := do
  advance
  return value

/-- An expression that is no operation. -/
def primary : Parse Expression := do
  let token ← current
  match token.kind with
  | .number value => taken (.number value)
  | .bigint value => taken (.bigint value)
  | .text value => taken (.text value)
  | .mark "(" => parenthesized limit inner
  | .mark "[" => advance; return .array (← arrayItems inner limit false [])
  | .mark "\x7b" => advance; return .object (← objectEntries limit inner limit [])
  | _ =>
    match ← word? with
    | some (.keyword "function") => functionExpression limit inner
    | some (.keyword "null") => taken .null
    | some (.keyword "true") => taken (.boolean true)
    | some (.keyword "false") => taken (.boolean false)
    | some (.keyword "this") => taken .this
    | some (.keyword "super") => superWord
    | some (.disguised word) => complain (.reserved word)
    | some (.identifier name) =>
      useName name
      taken (.name name)
    | _ => unexpected

/-- What follows a value: members, and calls if they may follow. -/
def followers (calls : Bool) : Nat → Expression → Parse Expression
  | 0, value => return value
  | count + 1, value => do
    match (← current).kind with
    | .mark "." =>
      advance
      match (← current).kind with
      | .name name _ =>
        advance
        followers calls count (.member value name)
      | _ => complain .expectedFieldName
    | .mark "[" =>
      advance
      let key ← expression limit inner
      expectMark "]"
      followers calls count (.index value key)
    | .mark "(" =>
      if calls then
        advance
        let args ← argumentList inner limit []
        followers calls count (.call value args)
      else return value
    | _ => return value

/-- A value with its members, and its calls if they may follow. Behind `new` only the first list of
arguments belongs to it. -/
def postfixed (calls : Bool) : Nat → Parse Expression
  | 0 => complain .tooDeep
  | depth + 1 => do
    if ← atKeyword "new" then
      advance
      if ← atMark "." then
        advance
        complain .expectedTarget
      else
        let callee ← postfixed false depth
        let args ←
          if ← atMark "(" then
            advance
            argumentList inner limit []
          else pure []
        followers limit inner true limit (.construct callee args)
    else
      let first ← primary limit inner
      followers limit inner calls limit first

/-- An operator in front of its operand, or a value. -/
def unaryOf : Parse Expression := do
  let operated (make : Expression → Expression) : Parse Expression := do
    advance
    return make (← inner.unary)
  let counted (increment : Bool) : Parse Expression := do
    advance
    let operand ← inner.unary
    checkTarget .update operand
    return .update increment true operand
  match (← current).kind with
  | .mark "+" => operated (.unary .plus)
  | .mark "-" => operated (.unary .minus)
  | .mark "!" => operated (.unary .negation)
  | .mark "++" => counted true
  | .mark "--" => counted false
  | .name "void" false => operated (.unary .nothing)
  | .name "typeof" false => operated .typeOf
  | .name "delete" false =>
    advance
    let operand ← inner.unary
    match operand with
    | .name _ =>
      if (← get).strict then complain .strictDelete else return .delete operand
    | _ => return .delete operand
  | _ =>
    let value ← postfixed limit inner true limit
    let token ← current
    if token.afterLine then return value
    else
      let counting (increment : Bool) : Parse Expression := do
        checkTarget .update value
        taken (.update increment false value)
      match token.kind with
      | .mark "++" => counting true
      | .mark "--" => counting false
      | _ => return value

/-- The operators between two values, by strength, the weakest first. -/
def strengths (allowsIn : Bool) :
    List (List (Token.Kind × (Expression → Expression → Expression))) :=
  [[(.mark "||", .logical .disjunction)],
    [(.mark "&&", .logical .conjunction)],
    [(.mark "==", .binary .equal), (.mark "!=", .binary .unequal), (.mark "===", .binary .same),
      (.mark "!==", .binary .different)],
    [(.mark "<", .binary .less), (.mark ">", .binary .greater), (.mark "<=", .binary .lessOrEqual),
      (.mark ">=", .binary .greaterOrEqual), (.name "instanceof" false, .binary .instanceOf)] ++
      (if allowsIn then [(.name "in" false, .binary .isIn)] else []),
    [(.mark "+", .binary .add), (.mark "-", .binary .subtract)],
    [(.mark "*", .binary .multiply), (.mark "/", .binary .divide), (.mark "%", .binary .remainder)]]

/-- Operations of the given strengths, of which the first is the weakest. -/
def operations :
    List (List (Token.Kind × (Expression → Expression → Expression))) → Parse Expression
  | [] => unaryOf limit inner
  | operators :: stronger => do
    let operand := operations stronger
    let first ← operand
    chain operand (fun token => (operators.find? fun one => one.1 == token.kind).map Prod.snd)
      limit first

/-- A choice between two values, or an operation. -/
def conditionalOf (allowsIn : Bool) : Parse Expression := do
  let first ← operations limit inner (strengths allowsIn)
  if ← atMark "?" then
    advance
    let second ← inner.assignment true
    expectMark ":"
    let third ← inner.assignment allowsIn
    return .conditional first second third
  else return first

/-- The operator an assignment mark applies, if it is one. -/
def assignment? : Token.Kind → Option (Option BinaryOperator)
  | .mark "=" => some none
  | .mark "+=" => some (some .add)
  | .mark "-=" => some (some .subtract)
  | .mark "*=" => some (some .multiply)
  | .mark "/=" => some (some .divide)
  | .mark "%=" => some (some .remainder)
  | _ => none

/-- An assignment, or an expression that is weaker than none. A function without a name gets the name it is
assigned to, if the assignment starts with that name. -/
def assignmentOf (allowsIn : Bool) : Parse Expression := do
  if ← atKeyword "yield" then complain .strayYield
  let start ← current
  let word ← word?
  let target ← conditionalOf limit inner allowsIn
  match assignment? (← current).kind with
  | none => return target
  | some operator =>
    advance
    if opensPattern start && operator.isNone then
      match target with
      | .array _ | .object _ => complain .patternTarget
      | _ => pure ()
    checkTarget .assignment target
    let value ← inner.assignment allowsIn
    match operator, target with
    | none, .name name =>
      return .assign none target
        (if word == some (.identifier name) then value.named (.ofString name) else value)
    | _, _ => return .assign operator target value

end

end Parse

end ScriptKernel.Script
