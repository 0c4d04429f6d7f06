/-
**Promises and the jobs they leave behind.**

A promise is pending until it is kept or broken. Whoever waits for it is told by a job, which runs after the
script that settled it.

* `resolveWith`: settles a promise by a value, or by what another promise comes to;
* `waitFor`: a new promise for what a handler makes of an old one;
* `runJob`: one job; what its handler throws breaks the promise that waits for it.
-/

import ScriptKernel.Script.Property

set_option autoImplicit false

namespace ScriptKernel.Script

namespace Realm

/-- How the promise at an address stands. -/
def promise? (realm : Realm) (address : Address) : Option PromiseState :=
  match (realm.object address).kind with
  | .promise state => some state
  | _ => none

/-- Changes how a promise stands. -/
def setPromise (realm : Realm) (address : Address) (state : PromiseState) : Realm :=
  realm.modifyObject address fun object => { object with kind := .promise state }

/-- Adds a job behind the others. -/
def addJob (realm : Realm) (job : Job) : Realm := { realm with jobs := realm.jobs ++ [job] }

/-- Keeps or breaks a promise that is pending, and tells those who wait for it. -/
def settle (realm : Realm) (address : Address) (broken : Bool) (value : Value) : Realm :=
  match realm.promise? address with
  | some (.pending reactions) =>
    let settled := realm.setPromise address (if broken then .broken value else .kept value)
    reactions.foldl (fun realm reaction => realm.addJob (.react reaction broken value)) settled
  | _ => realm

end Realm

/-- Makes a pending promise. -/
def createPromise : Run Address :=
  Run.make fun realm =>
    realm.create { kind := .promise (.pending []), parent := some realm.landmarks.promiseParent }

/-- Keeps or breaks a promise. -/
def settlePromise (promise : Address) (broken : Bool) (value : Value) : Run Unit :=
  Run.change fun realm => realm.settle promise broken value

/-- Breaks a promise by a new error. -/
def breakWith (promise : Address) (kind : ErrorKind) (message : String) : Run Unit :=
  Run.change fun realm =>
    let (address, realm) := realm.createError kind (.ofString message)
    realm.settle promise true (.object address)

/-- Settles a promise by a value; one with a `then` method is waited for. -/
def resolveWith (caller : Caller) (promise : Address) (value : Value) : Run Unit := do
  match value with
  | .object address =>
    if address = promise then breakWith promise .type "promise self resolution"
    else
      let found (handler : Value) : Run Unit := do
        if ← Run.look fun realm => realm.isCallable handler then
          Run.change fun realm => realm.addJob (.follow promise value handler)
        else settlePromise promise false value
      (get caller value (.ofString "then")).andThen found (settlePromise promise true)
        (breakWith promise .internal "interrupted")
  | _ => settlePromise promise false value

/-- The two functions that settle a promise, of which only the first call counts. -/
def settlers (promise : Address) : Run (Value × Value) := do
  let latch ← Run.make fun realm => realm.create { kind := .latch false }
  let parent ← Run.look fun realm => realm.landmarks.functionParent
  let keep ← create (.native (.settle promise latch false)) (some parent) []
  let breaker ← create (.native (.settle promise latch true)) (some parent) []
  return (keep, breaker)

/-- Settles a promise by one of its two functions. -/
def settleOnce (caller : Caller) (promise latch : Address) (broken : Bool) (value : Value) :
    Run Unit := do
  let kind ← Run.look fun realm => (realm.object latch).kind
  match kind with
  | .latch false =>
    Run.change fun realm =>
      realm.modifyObject latch fun object => { object with kind := .latch true }
    if broken then settlePromise promise true value else resolveWith caller promise value
  | _ => return ()

/-- A promise for what one of two handlers makes of another promise. -/
def waitFor (promise : Address) (kept broken : Value) : Run Value := do
  let derived ← createPromise
  let reaction : Reaction := ⟨kept, broken, derived⟩
  Run.change fun realm =>
    match realm.promise? promise with
    | some (.pending reactions) => realm.setPromise promise (.pending (reactions ++ [reaction]))
    | some (.kept value) => realm.addJob (.react reaction false value)
    | some (.broken reason) => realm.addJob (.react reaction true reason)
    | none => realm
  return .object derived

/-- Settles a promise by the way a handler ended. -/
def settleBy (caller : Caller) (promise : Address) (ending : Run Value) : Run Unit :=
  ending.andThen (resolveWith caller promise) (settlePromise promise true)
    (breakWith promise .internal "interrupted")

/-- Runs one job. -/
def runJob (caller : Caller) : Job → Run Unit
  | .react reaction broken value => do
    let handler := if broken then reaction.broken else reaction.kept
    if ← Run.look fun realm => realm.isCallable handler then
      settleBy caller reaction.derived (caller.call handler .undefined [value])
    else if broken then settlePromise reaction.derived true value
    else resolveWith caller reaction.derived value
  | .follow promise other handler => do
    let (keep, breaker) ← settlers promise
    let tell (exception : Value) : Run Unit := do
      let _ ← caller.call breaker .undefined [exception]
      return ()
    (caller.call handler other [keep, breaker]).andThen (fun _ => pure ()) tell
      (breakWith promise .internal "interrupted")

/-- Runs one job; an exception that nobody takes waits to be looked at. -/
def finishJob (caller : Caller) (job : Job) : Run Unit :=
  let leave (exception : Value) : Run Unit := Run.leavePending (some exception)
  let interrupted : Run Unit := do
    let address ← Run.make fun realm => realm.createError .internal (.ofString "interrupted")
    leave (.object address)
  (runJob caller job).andThen pure leave interrupted

/-- Runs the next job, and answers the count of jobs when none is left. -/
def nextJob (caller : Caller) (count : Nat) : Run (Nat ⊕ Nat) := do
  let next ← Run.make fun realm =>
    match realm.jobs with
    | [] => (none, realm)
    | job :: rest => (some job, { realm with jobs := rest })
  match next with
  | none => return .inr count
  | some job =>
    finishJob caller job
    return .inl (count + 1)

/-- Runs jobs until none is left, and counts them; jobs that have no end count as endless. -/
def runJobs (caller : Caller) : Run Nat :=
  let endless : Run Nat := pure Run.endless
  (Run.loop (nextJob caller) 0).andThen pure (fun _ => endless) endless

end ScriptKernel.Script
