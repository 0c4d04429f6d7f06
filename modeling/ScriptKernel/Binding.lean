/-
**Binding host functions to a script.**

The names of a table are checked first, all of them; then each host function becomes a global function, in
order, unless the global object already answers to its name.

* `BindError`: why a table cannot be bound, its wording and its report;
* `SyscallTable.flaw?`: the first name that is no identifier or was there before;
* `SyscallTable.bind`: binds a table and answers its names.
-/

import ScriptKernel.Engine
import ScriptKernel.Error.Report
import ScriptKernel.Identifier
import ScriptKernel.Text.Quoted

set_option autoImplicit false

namespace ScriptKernel

open Script (Key Realm Run)

/-- Why a table of host functions cannot be bound. -/
inductive BindError
  | duplicate (name : String)
  | invalidName (name : String)
  | collision (name : String)
  | engine (name reason : String)
  deriving DecidableEq, Repr

/-- The wording of the error. -/
def BindError.message : BindError → String
  | .duplicate name => "syscall " ++ quoted name ++ " registered more than once"
  | .invalidName name => "syscall name " ++ quoted name ++ " is not a valid identifier"
  | .collision name => "syscall " ++ quoted name ++ " would shadow an existing global"
  | .engine name reason => "engine rejected syscall " ++ quoted name ++ ": " ++ reason

/-- The report of the error. -/
def BindError.report (error : BindError) : Json :=
  let tag := match error with
    | .duplicate _ => "duplicate"
    | .invalidName _ => "invalid_name"
    | .collision _ => "collision"
    | .engine .. => "engine"
  plainReport tag error.message

namespace SyscallTable

/-- The first name that is no identifier or was there before. -/
def nameFlaw? (seen : List String) : List String → Option BindError
  | [] => none
  | name :: rest =>
    if !isIdentifier name then some (.invalidName name)
    else if seen.contains name then some (.duplicate name)
    else nameFlaw? (name :: seen) rest

/-- What is wrong with the names of a table. -/
def flaw? (table : SyscallTable) : Option BindError := nameFlaw? [] table.names

/-- Makes the function of a host function. -/
def createFunction (index : Nat) (name : String) : Run Script.Value :=
  Run.make fun realm =>
    let (address, realm) := realm.create
      { kind := .host index name, parent := some realm.landmarks.functionParent }
    (.object address, realm)

/-- Binds one host function. -/
def install (index : Nat) (name : String) : Run (Except BindError Unit) := do
  let key := Key.ofString name
  let taken ← Run.look fun realm =>
    (realm.field? (realm.object realm.landmarks.globalObject) key).isSome
  if taken then return .error (.collision name)
  else
    let function ← createFunction index name
    let place ← Run.look Realm.globalValue
    match ← Script.guarded (Script.set .standard true place key function) with
    | .ok () => return .ok ()
    | .error _ => return .error (.engine name "Exception generated by QuickJS")

/-- Binds host functions from a place of the table on. -/
def installFrom : Nat → List String → Run (Except BindError Unit)
  | _, [] => pure (.ok ())
  | index, name :: rest => do
    match ← install index name with
    | .ok () => installFrom (index + 1) rest
    | .error error => return .error error

/-- Binds a table and answers its names. -/
def bind (table : SyscallTable) : Run (Except BindError (List String)) := do
  match table.flaw? with
  | some error => return .error error
  | none =>
    match ← installFrom 0 table.names with
    | .ok () => return .ok table.names
    | .error error => return .error error

end SyscallTable

end ScriptKernel
