/-
**Reading a source token by token.**

The first complaint ends the reading, and most complaints are about the token that has just come up.

* `Parse`: a part that is read: it goes on from the current token and knows what it is inside of;
* `Parse.declare`, `Parse.nested`: one more name is declared; a part has a level of its own;
* `Layer`: what may be nested in a part.
-/

import ScriptKernel.Script.Declaration
import ScriptKernel.Script.Token

set_option autoImplicit false

namespace ScriptKernel.Script

/-- A statement around the current one that can be left. -/
structure Parse.Exit where
  label : Option String
  isLoop : Bool

/-- How far the reading has come, and what it is inside of. -/
structure Parse.State where
  /-- The current token. -/
  token : Token
  names : Declarations
  strict : Bool := false
  exits : List Parse.Exit := []
  usesArguments : Bool := false

/-- Reads a part of a source. -/
abbrev Parse (α : Type) : Type := StateT Parse.State (Except Complaint) α

namespace Parse

/-- Ends the reading. -/
def complain {α : Type} (complaint : Complaint) : Parse α := throw complaint

/-- Ends the reading if there is something wrong. -/
def checked {α : Type} : Except Complaint α → Parse α
  | .ok value => return value
  | .error complaint => complain complaint

/-- The current token. -/
def current : Parse Token := do return (← get).token

/-- What the current token counts as, if it is a name. -/
def word? : Parse (Option Token.Word) := do
  let state ← get
  return state.token.word? state.strict

/-- Whether the current token is a keyword. -/
def atKeyword (word : String) : Parse Bool := do return (← word?) == some (.keyword word)

/-- Whether the current token is a mark. -/
def atMark (mark : String) : Parse Bool := do return (← current).kind == .mark mark

/-- Goes on to the next token. -/
def advance : Parse Unit := do
  let state ← get
  let token ← checked (state.token.next state.strict)
  set { state with token }

/-- Takes a mark that has to be there. -/
def expectMark (mark : String) : Parse Unit := do
  if ← atMark mark then advance else complain (.expected mark)

/-- Complains about the current token. -/
def unexpected {α : Type} : Parse α := do complain (.unexpected (← current).source)

/-- The end of a statement: a semicolon, or where one may be left out. -/
def expectEnd : Parse Unit := do
  let token ← current
  if ← atMark ";" then advance
  else if token.kind == .ending || (← atMark "\x7d") || token.afterLine then return ()
  else complain (.expected ";")

/-- Reads on, and goes back to the current token. -/
def lookAhead {α : Type} (part : Parse α) : Parse α := do
  let state ← get
  let value ← part
  set state
  return value

/-- Whether a token is one of some marks. -/
def isOneOf (token : Token) (marks : List String) : Bool :=
  marks.any fun mark => token.kind == .mark mark

/-- Whether a token opens what can be a pattern. -/
def opensPattern (token : Token) : Bool := isOneOf token ["[", "\x7b"]

/-! ### Names and levels -/

/-- Changes what has been declared. -/
def rename (change : Declarations → Except Complaint Declarations) : Parse Unit := do
  let state ← get
  let names ← checked (change state.names)
  set { state with names }

/-- Reads a part at a level of its own. -/
def nested {α : Type} (part : Parse α) : Parse α := do
  let outer := (← get).names
  modify fun state => { state with names := state.names.enter }
  let value ← part
  modify fun state => { state with names := state.names.leave outer }
  return value

/-- Reads a part that can be left. -/
def leavable {α : Type} (exit : Exit) (part : Parse α) : Parse α := do
  let exits := (← get).exits
  modify fun state => { state with exits := exit :: exits }
  let value ← part
  modify fun state => { state with exits }
  return value

/-- Complains if strict code must not bind a name. -/
def checkStrictName (name : String) : Parse Unit := do
  if (← get).strict && (name == "arguments" || name == "eval") then complain .strictVariable

/-- Declares a name. -/
def declare (kind : DeclarationKind) (name : String) : Parse Unit := do
  checkStrictName name
  let strict := (← get).strict
  match kind with
  | .variable => rename fun names => names.declareVariable name
  | .lexical constant =>
    if name == "let" || name == "undefined" then complain .lexicalName
    else rename fun names => names.declareLexical strict constant name

/-! ### Targets -/

/-- What a target is needed for. -/
inductive Purpose
  | assignment
  | update
  | loop

/-- Complains about what is no target. -/
def Purpose.complaint : Purpose → Complaint
  | .assignment => .assignmentTarget
  | .update => .updateTarget
  | .loop => .loopTarget

/-- Checks that an expression can be assigned to. -/
def checkTarget (purpose : Purpose) : Expression → Parse Unit
  | .name name => do
    if (← get).strict && (name == "arguments" || name == "eval") then complain .strictTarget
  | .member .. | .index .. => return ()
  | _ => complain purpose.complaint

/-! ### Layers -/

/-- Where a statement stands. -/
inductive Position
  /-- In a list of statements. -/
  | listed
  /-- Behind a label in a list. -/
  | labelled
  /-- In a branch of sloppy code. -/
  | branch
  /-- Where only one statement can stand. -/
  | single
  deriving DecidableEq

/-- The part of a source that may be nested in others. -/
structure Layer where
  /-- An assignment, in which the operator `in` may be used or not. -/
  assignment : Bool → Parse Expression
  unary : Parse Expression
  statement : Position → Parse Statement
  /-- A statement of a body, or a function it declares. -/
  element : Parse Statement

end Parse

end ScriptKernel.Script
