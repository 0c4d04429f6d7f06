/-
**Statements as they are written.**

* `statementOf`, `elementOf`: a statement, and a statement of a body;
* `forLoop`, `choice`, `attempt`: statements with others inside;
* `bodyFunction`, `blockFunction`: functions that are declared.
-/

import ScriptKernel.Script.Grammar.Expression

set_option autoImplicit false

namespace ScriptKernel.Script

namespace Parse

section

variable (limit : Nat) (inner : Layer)

/-- The names of a declaration and their first values. -/
def declarations (kind : DeclarationKind) (assignment : Parse Expression) :
    Nat → List (String × Option Expression) → Parse (List (String × Option Expression))
  | 0, read => return read.reverse
  | limit + 1, read => do
    match ← word? with
    | some (.disguised word) => complain (.reserved word)
    | some (.identifier name) =>
      if name == "let" && kind != .variable then complain .lexicalLet
      advance
      declare kind name
      let value? ←
        if ← atMark "=" then
          advance
          let value ← assignment
          pure (some (value.named (.ofString name)))
        else if kind == .lexical true then complain .expectedInitializer
        else pure none
      if ← atMark "," then
        advance
        declarations kind assignment limit ((name, value?) :: read)
      else return ((name, value?) :: read).reverse
    | _ => complain .expectedVariableName

/-- Whether `let` starts a declaration here; one that cannot stand here does so only on its own line. -/
def startsLet (position : Position) : Parse Bool := do
  let token ← current
  if token.kind == .name "let" false && (← word?) == some (.identifier "let") then
    lookAhead do
      advance
      let next ← current
      let binds := match ← word? with
        | some (.identifier _) => true
        | some (.keyword word) => word == "let" || word == "yield"
        | _ => false
      return next.kind == .mark "[" ||
        ((next.kind == .mark "\x7b" || binds) && (next.line == token.line || position == .listed))
  else return false

/-- The kind of the declaration that starts here, if one does. -/
def declaration? (position : Position) : Parse (Option DeclarationKind) := do
  match ← word? with
  | some (.keyword "var") => return some .variable
  | some (.keyword "const") => return some (.lexical true)
  | some (.keyword "let") => return some (.lexical false)
  | _ => return if ← startsLet position then some (.lexical false) else none

/-- A declaration of a kind. -/
def declared (kind : DeclarationKind) (allowsIn : Bool) : Parse Statement := do
  advance
  return .declare kind (← declarations kind (inner.assignment allowsIn) limit [])

/-- Statements in braces, at a level of their own. -/
def block : Parse (List Statement) := do
  expectMark "\x7b"
  let body ←
    if ← atMark "\x7d" then pure []
    else nested (bodyStatements (inner.statement .listed) limit [])
  advance
  return body

/-- Whether a semicolon stands between parentheses and in no brackets within, from the opening one on. -/
def hasSemicolon (strict : Bool) : Nat → List String → Token → Bool
  | 0, _, _ => false
  | limit + 1, brackets, token =>
    let onward (brackets : List String) : Bool :=
      match brackets, token.next strict with
      | _ :: _, .ok next => hasSemicolon strict limit brackets next
      | _, _ => false
    let closes (bracket : String) : Bool :=
      match brackets with
      | innermost :: rest => innermost == bracket && onward rest
      | [] => false
    match token.kind with
    | .mark "(" => onward ("(" :: brackets)
    | .mark "[" => onward ("[" :: brackets)
    | .mark "\x7b" => onward ("\x7b" :: brackets)
    | .mark ")" => closes "("
    | .mark "]" => closes "["
    | .mark "\x7d" => closes "\x7b"
    | .mark ";" => brackets.length == 1 || onward brackets
    | .ending => false
    | _ => onward brackets

/-- The head of a loop over the names or values of something, which no loop here is. -/
def loopOver : Parse Statement := nested do
  match ← declaration? .listed with
  | some kind =>
    advance
    match ← word? with
    | some (.identifier name) =>
      advance
      declare kind name
    | _ => complain .expectedVariableName
  | none =>
    let target ← postfixed limit inner true limit
    checkTarget .loop target
  if ← atMark "=" then
    advance
    let _ ← inner.assignment false
  complain .expectedLoopWord

/-- An expression, unless a mark stands in its place. -/
def expressionBefore (mark : String) (allowsIn : Bool) : Parse (Option Expression) := do
  if ← atMark mark then return none
  else return some (← expressionOf limit (inner.assignment allowsIn))

/-- A loop with a start, a test and a step. -/
def forLoop (label : Option String) : Parse Statement := do
  advance
  let state ← get
  expectMark "("
  if hasSemicolon state.strict (limit + 1) [] state.token then
    nested do
      let start ←
        match ← declaration? .listed with
        | some kind => some <$> declared limit inner kind false
        | none => Option.map Statement.expression <$> expressionBefore limit inner ";" false
      expectMark ";"
      leavable ⟨label, true⟩ do
        let test ← expressionBefore limit inner ";" true
        expectMark ";"
        let step ← expressionBefore limit inner ")" true
        expectMark ")"
        return .loop label start test step (← inner.statement .single)
  else loopOver limit inner

/-- A choice. -/
def choice : Parse Statement := do
  advance
  nested do
    let test ← parenthesized limit inner
    let position : Position := if (← get).strict then .single else .branch
    let first ← inner.statement position
    if ← atKeyword "else" then
      advance
      return .choose test first (some (← inner.statement position))
    else return .choose test first none

/-- What a handler calls the exception it has caught. -/
def caughtName : Parse (Option String) := do
  if ← atMark "\x7b" then return none
  else
    expectMark "("
    match ← word? with
    | some (.identifier name) =>
      advance
      checkStrictName name
      rename fun names => .ok (names.declareCaught name)
      expectMark ")"
      return some name
    | _ => if opensPattern (← current) then complain .patternTarget else complain .expectedName

/-- An attempt with a handler, a finalizer, or both. -/
def attempt : Parse Statement := do
  advance
  let body ← block limit inner
  let handler ←
    if ← atKeyword "catch" then
      advance
      nested do
        let name ← caughtName
        pure (some (name, ← nested (block limit inner)))
    else if ← atKeyword "finally" then pure none
    else complain .expectedHandler
  if ← atKeyword "finally" then
    advance
    return .attempt body handler (some (← block limit inner))
  else return .attempt body handler none

/-- The end of a function with a value. -/
def give : Parse Statement := do
  if (← get).names.isScript then complain .strayReturn
  advance
  let value ←
    if (← current).afterLine || isOneOf (← current) [";", "\x7d"] then pure none
    else some <$> expression limit inner
  expectEnd
  return .give value

/-- Complains if nothing can be left, or gone on with, under a label. -/
def checkExit (again : Bool) (label : Option String) : Parse Unit := do
  let fits (exit : Exit) : Bool := (!again || exit.isLoop) && (label.isNone || exit.label == label)
  unless (← get).exits.any fits do
    complain (if label.isSome then .missingLabel else if again then .strayContinue else .strayBreak)

/-- A word that leaves a statement or goes on with a loop. -/
def jump (again : Bool) : Parse Statement := do
  advance
  let token ← current
  let label : Option String :=
    match ← word? with
    | some (.identifier name) => if token.afterLine then none else some name
    | _ => none
  checkExit again label
  if label.isSome then advance
  expectEnd
  return if again then .next label else .leave label

/-- The name of a declared function. -/
def declaredName : Parse String := do
  match ← functionName? with
  | some name => return name
  | none => complain .expectedFunctionName

/-- A declaration of a function in a body. -/
def bodyFunction : Parse Statement := do
  let start := (← current).start
  advance
  let name ← declaredName
  let definition ← functionFrom limit inner start (some name) .plain false
  rename fun names => names.declareFunction name definition
  return .function name definition .first

/-- A declaration of a function in a block. -/
def blockFunction : Parse Statement := do
  let start := (← current).start
  advance
  let name ← declaredName
  let state ← get
  let hoisting := state.names.blockHoisting state.strict name
  rename fun names => names.declareBlockFunction state.strict name
  let definition ← functionFrom limit inner start (some name) .plain false
  if hoisting != .block false then rename fun names => .ok (names.lift name)
  return .function name definition hoisting

/-- A declaration of names. -/
def declarationStatement (position : Position) (kind : DeclarationKind) : Parse Statement := do
  if kind != .variable && position != .listed then complain .strayLexical
  let statement ← declared limit inner kind true
  expectEnd
  return statement

/-- An expression as a statement. -/
def expressionStatement : Parse Statement := do
  let value ← expression limit inner
  expectEnd
  return .expression value

/-- A statement that starts with a keyword. -/
def keywordStatement (position : Position) (label : Option String)
    (word : String) : Parse Statement := do
  match word with
  | "function" =>
    if position = .single then complain .strayFunction else blockFunction limit inner
  | "return" => give limit inner
  | "throw" =>
    advance
    if (← current).afterLine then complain .throwAcrossLines
    let value ← expression limit inner
    expectEnd
    return .throw value
  | "if" => choice limit inner
  | "for" => forLoop limit inner label
  | "while" =>
    leavable ⟨label, true⟩ do
      advance
      let test ← parenthesized limit inner
      return .loop label none (some test) none (← inner.statement .single)
  | "do" =>
    leavable ⟨label, true⟩ do
      advance
      let body ← inner.statement .single
      unless ← atKeyword "while" do complain .expectedWhile
      advance
      let test ← parenthesized limit inner
      if ← atMark ";" then advance
      return .repeat label body test
  | "try" => attempt limit inner
  | "break" => jump false
  | "continue" => jump true
  | "debugger" =>
    advance
    expectEnd
    return .empty
  | "with" => if (← get).strict then complain .strictWith else unexpected
  | "enum" | "export" | "extends" => complain (.unsupported word)
  | _ => expressionStatement limit inner

/-- A statement behind a label that a loop takes for its own. -/
def unlabelled (position : Position) (label : Option String) :
    Parse Statement := do
  match (← current).kind with
  | .mark "\x7b" => return .block (← block limit inner)
  | .mark ";" => advance; return .empty
  | _ =>
    match ← declaration? position with
    | some kind => declarationStatement limit inner position kind
    | none =>
      match ← word? with
      | some (.keyword word) => keywordStatement limit inner position label word
      | some (.disguised word) => complain (.reserved word)
      | _ => expressionStatement limit inner

/-- A statement behind its label. -/
def labelledStatement (position : Position) (label : String) :
    Parse Statement := do
  if (← get).exits.any fun exit => exit.label == some label then complain .duplicateLabel
  advance
  expectMark ":"
  let isLoop := match ← word? with
    | some (.keyword word) => word == "for" || word == "do" || word == "while"
    | _ => false
  if isLoop then unlabelled limit inner position (some label)
  else
    let allowed := !(← get).strict && (position == .listed || position == .labelled)
    leavable ⟨some label, false⟩ do
      return .labelled label (← inner.statement (if allowed then .labelled else .single))

/-- A statement. -/
def statementOf (position : Position) : Parse Statement := do
  match ← word? with
  | some (.identifier name) =>
    if (← current).isFollowedByColon then labelledStatement limit inner position name
    else unlabelled limit inner position none
  | _ => unlabelled limit inner position none

/-- A statement of a body, or a function it declares. -/
def elementOf : Parse Statement := do
  if ← atKeyword "function" then bodyFunction limit inner
  else inner.statement .listed

end

end Parse

end ScriptKernel.Script
