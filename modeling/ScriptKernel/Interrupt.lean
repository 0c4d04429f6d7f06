/-
**Stopping a running script.**

The interpreter asks `shouldInterrupt` now and then while a script runs. Cancelling and asking to exit hold
for ever; a deadline holds for one entry, from `arm` to `disarm`.

* `Duration.sum?`, `Duration.nanoseconds?`: lengths of time as they are held, with the sums and the counts
  that are too great;
* `Interrupt.arm`, `Interrupt.disarm`: the ends of an entry; `disarm` tells why the script was stopped;
* `Interrupt.ticks`: a time counted from one, so that zero can stand for no deadline; times too great to
  count are the greatest count.
-/

import ScriptKernel.Config

set_option autoImplicit false

namespace ScriptKernel

namespace Duration

/-- The nanoseconds of a second. -/
def second : Nat := 1000000000

/-- More seconds than a length of time can have: they are held in sixty-four bits, and what is less than a
second beside them. -/
def secondsBound : Nat := Nat.pow 2 64

/-- The sum of two lengths of time, unless it has too many seconds. -/
def sum? (first other : Duration) : Option Duration :=
  let seconds := first / second + other / second
  let rest := first % second + other % second
  if secondsBound ≤ seconds then none
  else if rest < second then some (seconds * second + rest)
  else if secondsBound ≤ seconds + 1 then none
  else some ((seconds + 1) * second + (rest - second))

/-- The count of nanoseconds, unless it is too great for sixty-four bits. -/
def nanoseconds? (duration : Duration) : Option Nat :=
  if duration < Nat.pow 2 64 then some duration else none

end Duration

/-- Why a running script is stopped. -/
inductive InterruptReason
  | deadline
  | cancelled
  | exit
  deriving DecidableEq, Repr

/-- The reason in a word. -/
def InterruptReason.name : InterruptReason → String
  | .deadline => "deadline"
  | .cancelled => "cancelled"
  | .exit => "exit"

/-- What may stop a running script. -/
structure Interrupt where
  /-- The tick of the deadline; zero for none. -/
  deadline : Nat := 0
  cancelled : Bool := false
  exitCode : Option ExitCode := none
  /-- Why the script was stopped during this entry. -/
  tripped : Option InterruptReason := none
  deriving DecidableEq, Repr, Inhabited

namespace Interrupt

/-- The greatest count of ticks. -/
def greatestTick : Nat := Nat.pow 2 64 - 1

/-- The tick of a time since the start, in nanoseconds. -/
def ticks (time : Duration) : Nat :=
  let count := time.nanoseconds?.getD greatestTick
  if count < greatestTick then count + 1 else greatestTick

/-- The tick of the deadline of an entry that may take so long. -/
def deadlineAfter (now allowed : Duration) : Nat :=
  match Duration.sum? now allowed with
  | some time => ticks time
  | none => greatestTick

/-- Begins an entry that may take so long. -/
def arm (interrupt : Interrupt) (now : Duration) (budget : Option Duration) : Interrupt :=
  { interrupt with
    tripped := none
    deadline := match budget with
      | some allowed => deadlineAfter now allowed
      | none => 0 }

/-- Ends an entry, and tells why the script was stopped during it. -/
def disarm (interrupt : Interrupt) : Option InterruptReason × Interrupt :=
  (interrupt.tripped, { interrupt with deadline := 0, tripped := none })

/-- Whether the deadline has passed. -/
def expired (interrupt : Interrupt) (now : Duration) : Bool :=
  interrupt.deadline != 0 && interrupt.deadline ≤ ticks now

/-- Why the script has to stop now. -/
def reason? (interrupt : Interrupt) (now : Duration) : Option InterruptReason :=
  if interrupt.cancelled then some .cancelled
  else if interrupt.exitCode.isSome then some .exit
  else if interrupt.expired now then some .deadline
  else none

/-- Whether the script has to stop now, which is noted for the end of the entry. -/
def shouldInterrupt (interrupt : Interrupt) (now : Duration) : Bool × Interrupt :=
  match interrupt.reason? now with
  | some reason => (true, { interrupt with tripped := some reason })
  | none => (false, interrupt)

/-- Stops this entry and every later one. -/
def cancel (interrupt : Interrupt) : Interrupt := { interrupt with cancelled := true }

/-- Asks to exit; the first code counts. -/
def requestExit (interrupt : Interrupt) (code : ExitCode) : Interrupt :=
  match interrupt.exitCode with
  | some _ => interrupt
  | none => { interrupt with exitCode := some code }

end Interrupt

end ScriptKernel
