/-
**Host functions.**

A script reaches outside through host functions bound as globals. Each gets the arguments as structured
values together with all it may touch, and returns a value, fails with an error that is thrown into the
script, or panics.

* `Resident`: what belongs to one process and to no other; `Site`: what processes share;
* `SyscallContext`: both, as a host function sees them;
* `Syscall`: a host function, often made of a `Syscall.Body`;
* `SyscallTable`: the host functions of a process, in order; names are not checked here.
-/

import ScriptKernel.Environment
import ScriptKernel.Fd
import ScriptKernel.Interrupt
import ScriptKernel.Lifecycle
import ScriptKernel.Queue
import ScriptKernel.Sink

set_option autoImplicit false

namespace ScriptKernel

/-- What belongs to one process. -/
structure Resident where
  pid : Pid
  args : List String
  fds : FdTable
  environment : Environment
  interrupt : Interrupt
  lifecycle : Lifecycle
  gate : QueueGate

namespace Resident

/-- A process that has just come up. -/
def fresh (pid : Pid) (args : List String) (environment : Environment) (terminal : TerminalRef)
    (label : String) : Resident where
  pid
  args
  fds := .empty
  environment
  interrupt := {}
  lifecycle := { pid, terminal }
  gate := { label }

/-- Whether the process takes work: it has not ended, and shutting down has not begun. -/
def isAlive (resident : Resident) : Bool :=
  !resident.lifecycle.isFinished && !resident.lifecycle.shuttingDown

end Resident

/-- What processes share: terminals, reports, the counters of host functions, and time. -/
structure Site where
  terminals : Terminals := {}
  sink : Sink := {}
  tallies : List Nat := []
  /-- Nanoseconds since the start. -/
  clock : Duration := 0
  /-- How many slices of script have run since the running entry began. -/
  slices : Nat := 0
  deriving Inhabited

namespace Site

/-- The time a slice of script takes: a millisecond for each of the first twenty of an entry, and twice as
long with each further one, so that a script without an end reaches any deadline. -/
def sliceTime (slices : Nat) : Duration := Duration.ofMilliseconds (Nat.pow 2 (slices - 20))

/-- Time goes on by one slice of script. -/
def passSlice (site : Site) : Site :=
  { site with clock := site.clock + sliceTime site.slices, slices := site.slices + 1 }

theorem passSlice_terminals (site : Site) : site.passSlice.terminals = site.terminals := by
  rw [passSlice]

theorem passSlice_sink (site : Site) : site.passSlice.sink = site.sink := by
  rw [passSlice]

theorem passSlice_tallies (site : Site) : site.passSlice.tallies = site.tallies := by
  rw [passSlice]

theorem clock_le_passSlice (site : Site) : site.clock ≤ site.passSlice.clock := by
  rw [passSlice]
  exact Nat.le_add_right _ _

/-- Time goes on. -/
def pass (site : Site) (duration : Duration) : Site := { site with clock := site.clock + duration }

/-- Counts one more call, and answers the count. -/
def tally (site : Site) (counter : Nat) : Nat × Site :=
  let counts := site.tallies ++ List.replicate (counter + 1 - site.tallies.length) 0
  let count := counts[counter]?.getD 0 + 1
  (count, { site with tallies := counts.set counter count })

end Site

/-- All a host function may touch on behalf of the script that called it. -/
structure SyscallContext extends Resident, Site

namespace SyscallContext

/-- Puts a process at a site. -/
def of (resident : Resident) (site : Site) : SyscallContext :=
  { toResident := resident, toSite := site }

/-- Sends a text to the terminal of the process. -/
def writeTerminal (context : SyscallContext) (stream : Stream) (text : String) :
    Except SyscallError SyscallContext :=
  match context.terminals.write context.lifecycle.terminal ⟨context.pid, stream, text⟩ with
  | (true, terminals) => .ok { context with terminals }
  | (false, _) => .error (.unavailable "terminal detached")

/-- Asks to end the process once the running call is over. -/
def requestExit (context : SyscallContext) (code : ExitCode) : SyscallContext :=
  { context with interrupt := context.interrupt.requestExit code }

end SyscallContext

/-- How a host function ends. -/
inductive SyscallReply
  | returned (value : Json)
  | failed (error : SyscallError)
  | panicked

/-- A host function. -/
structure Syscall where
  name : String
  call : List Json → SyscallContext → SyscallReply × SyscallContext

namespace Syscall

/-- What a host function does: it changes what it is handed as it goes, and failing takes nothing back. -/
abbrev Body := ExceptT SyscallError (StateM SyscallContext)

/-- A host function that returns or fails. -/
def ofBody (name : String) (body : List Json → Body Json) : Syscall where
  name
  call args context :=
    match (body args).run context with
    | (.ok value, after) => (.returned value, after)
    | (.error error, after) => (.failed error, after)

/-- The argument at a place; one that was not given is null. -/
def arg (args : List Json) (place : Nat) : Json := args[place]?.getD .null

/-- The argument at a place, which has to be a text. -/
def stringArg (args : List Json) (place : Nat) : Except SyscallError String :=
  match arg args place with
  | .text value => .ok value
  | _ => .error (.invalidArgument ("argument " ++ toString (place + 1) ++ " must be a string"))

/-- A value as text: a text as it is, anything else as structured text. -/
def textArg : Json → String
  | .text value => value
  | other => other.print

end Syscall

/-- The host functions of a process, in order. -/
structure SyscallTable where
  syscalls : List Syscall := []

namespace SyscallTable

/-- Adds a host function at the end. -/
def register (table : SyscallTable) (syscall : Syscall) : SyscallTable :=
  ⟨table.syscalls ++ [syscall]⟩

/-- The names, in order. -/
def names (table : SyscallTable) : List String := table.syscalls.map Syscall.name

/-- The number of host functions. -/
def size (table : SyscallTable) : Nat := table.syscalls.length

/-- The table in short. -/
def describe (table : SyscallTable) : String := quotedList table.names

end SyscallTable

end ScriptKernel
