/-
**Host functions described by data.**

A stand-in takes the place of a host function of an embedding program when a kernel is tried out.

* `Standin`: what it does when called;
* `Standin.syscall`: the host function; those that count calls have a counter of their own at the site.
-/

import ScriptKernel.Error.Report
import ScriptKernel.Syscall

set_option autoImplicit false

namespace ScriptKernel

/-- What a stand-in does when it is called. -/
inductive Standin
  | returns (value : Json)
  | throws (error : SyscallError)
  /-- Returns its arguments. -/
  | echo
  /-- Returns how often it was called. -/
  | count
  /-- Fails for so many calls, then returns how often it was called. -/
  | failUntil (calls : Nat)
  /-- Asks to exit, and fails if told to. -/
  | exits (code : ExitCode) (failing : Bool)
  | writes (stream : Stream) (text : String)
  /-- Returns what it can see of its process. -/
  | context
  /-- Returns the argument at a place, which has to be a text. -/
  | stringArg (place : Nat)
  | panics
  /-- Waits so many milliseconds, then returns how often it was called. -/
  | sleeps (milliseconds : Nat)
  /-- Hands a call to its own process from inside a call of it. -/
  | invokes
  /-- Ends its own process from inside a call of it. -/
  | terminates
  deriving Repr

namespace SyscallContext

/-- What a call handed to the running process from inside one of its own calls comes to. -/
def invokeInside (context : SyscallContext) : ProcessError :=
  if context.isAlive then .queue .reentrant else .terminated context.pid

/-- Ends the running process from inside one of its own calls: the call goes on, and the engine is taken
down after it. -/
def terminateInside (context : SyscallContext) : SyscallContext :=
  let (first, lifecycle) := context.lifecycle.beginShutdown
  if first then
    let (_, lifecycle, terminals) := lifecycle.markTerminated context.terminals
    { context with
      lifecycle
      terminals
      interrupt := context.interrupt.cancel
      gate := context.gate.endInside }
  else context

end SyscallContext

namespace Standin

/-- The used slots as a list of pairs. -/
def usedSlots (fds : FdTable) : Json :=
  .list (fds.used.map fun entry => .list [Json.nat entry.1, .text entry.2])

/-- One call. -/
def run (standin : Standin) (counter : Nat) (args : List Json) (context : SyscallContext) :
    SyscallReply × SyscallContext :=
  match standin with
  | .returns value => (.returned value, context)
  | .throws error => (.failed error, context)
  | .echo => (.returned (.list args), context)
  | .count =>
    let (calls, site) := context.toSite.tally counter
    (.returned (Json.nat calls), .of context.toResident site)
  | .failUntil failures =>
    let (calls, site) := context.toSite.tally counter
    let reply : SyscallReply :=
      if calls ≤ failures then .failed (.invalidArgument ("call " ++ toString calls))
      else .returned (Json.nat calls)
    (reply, .of context.toResident site)
  | .exits code failing =>
    (if failing then .failed (.unavailable "exiting") else .returned (.text "exit requested"),
      context.requestExit code)
  | .writes stream text =>
    match context.writeTerminal stream text with
    | .ok after => (.returned .null, after)
    | .error error => (.failed error, context)
  | .context =>
    (.returned (Json.object
      [("pid", Json.nat context.pid), ("args", Json.texts context.args),
        ("fd", usedSlots context.fds), ("env", Json.textFields context.environment.entries)]),
      context)
  | .stringArg place =>
    match Syscall.stringArg args place with
    | .ok value => (.returned (.text value), context)
    | .error error => (.failed error, context)
  | .panics => (.panicked, context)
  | .sleeps milliseconds =>
    let (calls, site) := context.toSite.tally counter
    (.returned (Json.nat calls),
      .of context.toResident (site.pass (Duration.ofMilliseconds milliseconds)))
  | .invokes => (.returned context.invokeInside.report, context)
  | .terminates => (.returned (.text "terminated"), context.terminateInside)

/-- The host function of a stand-in. -/
def syscall (standin : Standin) (name : String) (counter : Nat) : Syscall :=
  ⟨name, standin.run counter⟩

end Standin

end ScriptKernel
