/-
**What expressions and statements do.**

Expressions and statements are run by recursion on their trees; only calls go deeper.

* `Expression.eval`, `Statement.exec`: one expression, one statement;
* `Flow`: where a statement goes on.
-/

import ScriptKernel.Script.Block
import ScriptKernel.Script.Description
import ScriptKernel.Script.Reference

set_option autoImplicit false

namespace ScriptKernel.Script

/-- Where a statement goes on. -/
inductive Flow
  | on
  /-- Leaves the innermost statement that can be left, or the one with a label. -/
  | leave (label : Option String)
  /-- Goes on with the next round of the innermost loop, or of the one with a label. -/
  | next (label : Option String)
  /-- Ends the function with a value. -/
  | give (value : Value)

/-- Whether what leaves a statement, or goes on with it, means the one with this label. -/
def concerns (wanted label : Option String) : Bool := wanted.isNone || wanted == label

/-- Keeps a value as the result of the running script. -/
def keepResult (frame : Frame) (value : Value) : Run Unit :=
  if frame.isScript then Run.change fun realm => { realm with result := value } else pure ()

/-- The word for the type of a value. -/
def typeName (realm : Realm) (value : Value) : String :=
  match value with
  | .undefined => "undefined"
  | .null => "object"
  | .boolean _ => "boolean"
  | .number _ => "number"
  | .text _ => "string"
  | .bigint _ => "bigint"
  | .symbol _ => "symbol"
  | .object _ => if realm.isCallable value then "function" else "object"
  | .panic => "unknown"

mutual

/-- The value of an expression. -/
def Expression.eval (caller : Caller) (frame : Frame) : Expression → Run Value
  | .number value => pure (.number value)
  | .bigint value => pure (.bigint value)
  | .text value => pure (.text value)
  | .boolean value => pure (.boolean value)
  | .null => pure .null
  | .this => pure frame.this
  | .name name => readName caller frame.scope name
  | .array items => do createArray (← evalItems caller frame items)
  | .object entries => do
    let subject ← createObject []
    let address ← needObject subject
    evalEntries caller frame address entries
    return subject
  | .function definition => createFunction frame definition
  | .unary operator operand => do
    operateAlone caller operator (← Expression.eval caller frame operand)
  | .typeOf operand => do
    let place ← Run.look fun realm =>
      match operand with
      | .name name => realm.resolve name frame.scope
      | _ => .field
    match place with
    | .nowhere => return .ofString "undefined"
    | _ =>
      let value ← Expression.eval caller frame operand
      Run.look fun realm => .ofString (typeName realm value)
  | .delete operand => do
    match ← refer caller frame false operand with
    | some target => return .boolean (← target.remove frame)
    | none =>
      let _ ← Expression.eval caller frame operand
      return .boolean true
  | .update increment before operand => do
    match ← refer caller frame true operand with
    | some target => count caller frame increment before target
    | none => Run.raise .grammar "invalid increment/decrement operand"
  | .binary operator first second => do
    let first ← Expression.eval caller frame first
    let second ← Expression.eval caller frame second
    operate caller operator first second
  | .logical operator first second => do
    let first ← Expression.eval caller frame first
    match operator, isTrue first with
    | .conjunction, true | .disjunction, false => Expression.eval caller frame second
    | _, _ => return first
  | .conditional test first second => do
    if isTrue (← Expression.eval caller frame test) then Expression.eval caller frame first
    else Expression.eval caller frame second
  | .assign none operand value => do
    match ← refer caller frame true operand with
    | some target =>
      let value ← Expression.eval caller frame value
      target.assign caller frame value
      return value
    | none => Run.raise .grammar "invalid assignment left-hand side"
  | .assign (some operator) operand value => do
    match ← refer caller frame true operand with
    | some target =>
      let old ← target.read caller frame
      let value ← Expression.eval caller frame value
      let made ← operate caller operator old value
      target.assign caller frame made
      return made
    | none => Run.raise .grammar "invalid assignment left-hand side"
  | .member subject name => do
    get caller (← Expression.eval caller frame subject) (.ofString name)
  | .index subject key => do
    let subject ← Expression.eval caller frame subject
    let key ← Expression.eval caller frame key
    (← referField caller false subject key).read caller frame
  | .call callee args => do
    match ← refer caller frame false callee with
    | some target =>
      let function ← target.read caller frame
      let args ← evalArgs caller frame args
      caller.call function target.receiver args
    | none =>
      let function ← Expression.eval caller frame callee
      let args ← evalArgs caller frame args
      caller.call function .undefined args
  | .construct callee args => do
    let function ← Expression.eval caller frame callee
    let args ← evalArgs caller frame args
    caller.construct function args
  | .sequence first second => do
    let _ ← Expression.eval caller frame first
    Expression.eval caller frame second

/-- What an expression refers to, if it can be assigned to; `changes` tells whether it is to be. -/
def refer (caller : Caller) (frame : Frame) (changes : Bool) : Expression → Run (Option Reference)
  | .name name => do return some (← referName frame changes name)
  | .member subject name => do
    return some (.member (← Expression.eval caller frame subject) (.ofString name))
  | .index subject key => do
    let subject ← Expression.eval caller frame subject
    let key ← Expression.eval caller frame key
    return some (← referField caller changes subject key)
  | _ => pure none

/-- The values of the items of an array, of which some may be left out. -/
def evalItems (caller : Caller) (frame : Frame) :
    List (Option Expression) → Run (List (Option Value))
  | [] => pure []
  | none :: rest => do return none :: (← evalItems caller frame rest)
  | some item :: rest => do
    let value ← Expression.eval caller frame item
    return some value :: (← evalItems caller frame rest)

/-- Gives a new object its parts, one after the other. -/
def evalEntries (caller : Caller) (frame : Frame) (address : Address) : List Entry → Run Unit
  | [] => pure ()
  | entry :: rest => do
    evalEntry caller frame address entry
    evalEntries caller frame address rest

/-- Gives a new object one part; a later one replaces an earlier one. -/
def evalEntry (caller : Caller) (frame : Frame) (address : Address) : Entry → Run Unit
  | .field key value => do put address (.text key) (← Expression.eval caller frame value)
  | .computed key value => do
    let key ← Expression.eval caller frame key
    let value ← match value with
      | .function definition =>
        if definition.isAnonymous then do
          let found ← toKey caller key
          let name ← Run.look fun realm => realm.functionName found
          createFunction frame (definition.named name)
        else createFunction frame definition
      | other => Expression.eval caller frame other
    put address (← toKey caller key) value
  | .parent value => do setPrototype (.object address) (← Expression.eval caller frame value)
  | .method key definition => putMethod frame address (.text key) definition
  | .computedMethod key definition => do
    let key ← toKey caller (← Expression.eval caller frame key)
    let name ← Run.look fun realm => realm.functionName key
    putMethod frame address key (definition.named (definition.signature.form.nameStart ++ name))

/-- The values of arguments. -/
def evalArgs (caller : Caller) (frame : Frame) : List Expression → Run (List Value)
  | [] => pure []
  | arg :: rest => do
    let value ← Expression.eval caller frame arg
    return value :: (← evalArgs caller frame rest)

end

/-- Declares one name. A variable without a value stays as it is. -/
def declareOne (caller : Caller) (frame : Frame) (name : String) (value : Option Expression) :
    DeclarationKind → Run Unit
  | .variable =>
    match value with
    | none => pure ()
    | some expression => do
      let mayBind ← prepareName frame.strict frame.scope name
      assignName caller frame.strict mayBind frame.scope name (← expression.eval caller frame)
  | .lexical constant => do
    let value ← match value with
      | none => pure .undefined
      | some expression => expression.eval caller frame
    introduce frame.scope name constant value

/-- Gives the names of a declaration their values. -/
def declareAll (caller : Caller) (frame : Frame) (kind : DeclarationKind)
    (entries : List (String × Option Expression)) : Run Unit := do
  let _ ← Run.each (fun (entry : String × Option Expression) =>
    declareOne caller frame entry.1 entry.2 kind) entries
  return ()

/-- Whether a loop goes on. -/
def goesOn (caller : Caller) (frame : Frame) : Option Expression → Run Bool
  | none => pure true
  | some test => do return isTrue (← test.eval caller frame)

/-- What a loop does between two rounds. -/
def advance (caller : Caller) (frame : Frame) : Option Expression → Run Unit
  | none => pure ()
  | some step => do
    let _ ← step.eval caller frame
    return ()

/-- A loop with its test in front: how it goes on, given what its body does. The names of a round that has
come to its end are kept apart from those of the next one. -/
def loopRounds (caller : Caller) (label : Option String) (start : Option Statement)
    (test step : Option Expression) (body : Frame → Run Flow) (frame : Frame) : Run Flow :=
  Run.loop (fun frame => do
    Run.tick
    if ← goesOn caller frame test then
      match ← body frame with
      | .on =>
        let frame ← nextRound frame start
        advance caller frame step
        return .inl frame
      | .next wanted =>
        if concerns wanted label then
          advance caller frame step
          return .inl frame
        else return .inr (.next wanted)
      | .leave wanted => return .inr (if concerns wanted label then .on else .leave wanted)
      | .give value => return .inr (.give value)
    else return .inr .on) frame

/-- A loop with its test behind. -/
def repeatRounds (caller : Caller) (label : Option String) (test : Expression)
    (body : Frame → Run Flow) (frame : Frame) : Run Flow :=
  let again : Run (Unit ⊕ Flow) := do
    if isTrue (← test.eval caller frame) then return .inl () else return .inr .on
  Run.loop (fun (_ : Unit) => do
    Run.tick
    match ← body frame with
    | .on => again
    | .next wanted => if concerns wanted label then again else return .inr (.next wanted)
    | .leave wanted => return .inr (if concerns wanted label then .on else .leave wanted)
    | .give value => return .inr (.give value)) ()

/-- Does what comes last after a part that ended in any way a script can see. -/
def lastly (frame : Frame) (part last : Run Flow) : Run Flow :=
  let before (ended : Run Flow) : Run Flow := do
    let kept ← Run.look Realm.result
    keepResult frame .undefined
    match ← last with
    | .on =>
      keepResult frame kept
      ended
    | flow => return flow
  part.andThen (fun flow => before (pure flow)) (fun exception => before (Run.throwValue exception))
    Run.stop

mutual

/-- Runs a statement. -/
def Statement.exec (caller : Caller) : Statement → Frame → Run Flow
  | .empty, _ => pure .on
  | .expression value, frame => do
    keepResult frame (← value.eval caller frame)
    return .on
  | .declare kind entries, frame => do
    declareAll caller frame kind entries
    return .on
  | .function name definition hoisting, frame => do
    match hoisting with
    | .block true | .reached => liftFunction caller frame name definition
    | _ => pure ()
    return .on
  | .block body, frame => do
    let frame ← openBlock frame body
    execAll caller body frame
  | .give none, _ => pure (.give .undefined)
  | .give (some value), frame => do return .give (← value.eval caller frame)
  | .throw value, frame => do Run.throwValue (← value.eval caller frame)
  | .choose test first second, frame => do
    keepResult frame .undefined
    let frame ← openBlock frame (first :: second.toList)
    if isTrue (← test.eval caller frame) then Statement.exec caller first frame
    else match second with
      | some other => Statement.exec caller other frame
      | none => return .on
  | .loop label start test step body, frame => do
    keepResult frame .undefined
    let frame ← openLoop frame start
    match start with
    | some first =>
      let _ ← Statement.exec caller first frame
      let frame ← nextRound frame start
      loopRounds caller label start test step (Statement.exec caller body) frame
    | none => loopRounds caller label start test step (Statement.exec caller body) frame
  | .repeat label body test, frame => do
    keepResult frame .undefined
    repeatRounds caller label test (Statement.exec caller body) frame
  | .labelled label body, frame => do
    match ← Statement.exec caller body frame with
    | .leave wanted => return if concerns wanted (some label) then .on else .leave wanted
    | flow => return flow
  | .attempt body handler finalizer, frame => do
    keepResult frame .undefined
    let tried : Run Flow := do
      let frame ← openBlock frame body
      execAll caller body frame
    let handled : Run Flow :=
      match handler with
      | none => tried
      | some (name, statements) =>
        tried.attempt fun exception => do
          let frame ← openHandler frame name exception
          let frame ← openBlock frame statements
          execAll caller statements frame
    match finalizer with
    | none => handled
    | some statements =>
      lastly frame handled (do
        let frame ← openBlock frame statements
        execAll caller statements frame)
  | .leave label, _ => pure (.leave label)
  | .next label, _ => pure (.next label)

/-- Runs statements up to the first that does not go on with the following one. -/
def execAll (caller : Caller) : List Statement → Frame → Run Flow
  | [], _ => pure .on
  | statement :: rest, frame => do
    match ← Statement.exec caller statement frame with
    | .on => execAll caller rest frame
    | flow => return flow

end

end ScriptKernel.Script
