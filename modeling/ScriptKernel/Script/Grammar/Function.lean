/-
**Functions as they are written.**

A function is strict if the code around it is, or if one of the texts in front of its body says so; its names
are checked once that is known.

* `functionFrom`: a function from its parameters on;
* `directives`: the texts in front of a body.
-/

import ScriptKernel.Script.Grammar.Parse

set_option autoImplicit false

namespace ScriptKernel.Script

namespace Parse

section

variable (limit : Nat) (inner : Layer)

/-- The names of parameters, behind the opening parenthesis and up to the closing one. -/
def parameters : Nat → List String → Parse (List String)
  | 0, read => return read.reverse
  | limit + 1, read => do
    if ← atMark ")" then return read.reverse
    else
      match ← word? with
      | some (.identifier name) =>
        advance
        if ← atMark ")" then return (name :: read).reverse
        else
          expectMark ","
          parameters limit (name :: read)
      | some (.disguised word) => complain (.reserved word)
      | _ =>
        if ← atMark "\x7b" then
          advance
          complain .propertyName
        else if ← atMark "[" then
          advance
          complain .patternTarget
        else complain .expectedParameter

/-- The keywords before which a line has to end with a semicolon all the same. -/
def continuing : List String :=
  ["else", "void", "in", "instanceof", "break", "continue", "case", "default", "catch", "finally",
    "extends", "implements", "yield"]

/-- Whether a text in front of a body ends here, where a semicolon is taken. -/
def endsDirective : Parse Bool := do
  let token ← current
  match token.kind with
  | .mark ";" => advance; return true
  | .mark "\x7d" | .ending => return true
  | .number _ | .bigint _ | .text _ | .mark "++" | .mark "--" => return token.afterLine
  | .name .. =>
    match ← word? with
    | some (.keyword word) => return token.afterLine && !continuing.contains word
    | _ => return token.afterLine
  | _ => return false

/-- Reads the texts in front of a body up to the first that does not stand alone. -/
def directivesFrom : Nat → Parse Unit
  | 0 => return ()
  | limit + 1 => do
    let token ← current
    match token.kind with
    | .text _ =>
      advance
      if ← endsDirective then
        if token.source == "'use strict'" || token.source == "\"use strict\"" then
          modify fun state => { state with strict := true }
        directivesFrom limit
      else return ()
    | _ => return ()

/-- Finds out from the texts in front of a body whether it is strict, and goes back to the first of them. -/
def directives : Parse Unit := do
  let first ← current
  match first.kind with
  | .text _ =>
    directivesFrom limit
    let state ← get
    let token ← checked (first.again state.strict)
    set { state with token }
  | _ => return ()

/-- Whether a name stands twice in a list. -/
def hasDuplicate : List String → Bool
  | [] => false
  | name :: rest => rest.contains name || hasDuplicate rest

/-- Complains about the names of a function that its code does not allow. -/
def checkFunctionNames (name : Option String) (form : FunctionForm) (names : List String) :
    Parse Unit := do
  let isOdd (name : String) : Bool := name == "eval" || name == "arguments"
  let strict := (← get).strict
  if strict && (name.map isOdd).getD false then complain .strictFunctionName
  else if strict && names.any isOdd then complain .strictParameterName
  else if (strict || form == .method) && hasDuplicate names then complain .duplicateParameter

/-- Whether a function of a form has as many parameters as it has to. -/
def isArity (form : FunctionForm) (count : Nat) : Bool :=
  match form with
  | .getter => count == 0
  | .setter => count == 1
  | _ => true

/-- The statements of a body up to its closing brace. -/
def bodyStatements (element : Parse Statement) : Nat → List Statement → Parse (List Statement)
  | 0, read => return read.reverse
  | limit + 1, read => do
    if ← atMark "\x7d" then return read.reverse
    else
      let one ← element
      bodyStatements element limit (one :: read)

/-- A function from its parameters on; `start` is the source from its first word. The token behind its
closing brace is still read by the rules of its body. -/
def functionFrom (start : List Char) (name : Option String) (form : FunctionForm)
    (seesItself : Bool) : Parse Function := do
  let outer ← get
  set { outer with exits := [], usesArguments := false }
  expectMark "("
  let parameters ← parameters limit []
  unless isArity form parameters.length do complain .accessorParameters
  advance
  modify fun state => { state with names := { isScript := false, parameters } }
  expectMark "\x7b"
  directives limit
  checkFunctionNames name form parameters
  let body ← bodyStatements inner.element limit []
  let reached ← get
  advance
  let token ← current
  set { outer with token }
  let signature : Signature :=
    { name := .ofString (name.getD "")
      seesItself
      form
      parameters
      locals := (reached.names.declared.map Prod.fst).reverse
      usesArguments := reached.usesArguments
      strict := reached.strict
      source := String.ofList (start.take (start.length - reached.token.after.length)) }
  return .mk signature body

/-- The name of a function, if it has one. -/
def functionName? : Parse (Option String) := do
  match ← word? with
  | some (.identifier name) =>
    advance
    return some name
  | some (.disguised word) => complain (.reserved word)
  | _ => return none

/-- A function expression. -/
def functionExpression : Parse Expression := do
  let start := (← current).start
  advance
  let name ← functionName?
  return .function (← functionFrom limit inner start name .plain name.isSome)

end

end Parse

end ScriptKernel.Script
