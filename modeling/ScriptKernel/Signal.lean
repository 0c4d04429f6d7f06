/-
**Signals.**

* `Signal.ofNumber?`: the six signals a process understands, by number;
* `Signal.isFatal`, `Signal.isCatchable`: whether an unhandled one ends the process, and whether a script
  may handle it;
* `SignalOutcome`: what delivering a signal came to.
-/

import ScriptKernel.Json.Basic

set_option autoImplicit false

namespace ScriptKernel

/-- A signal a process understands. -/
inductive Signal
  | hangup
  | interrupt
  | kill
  | user1
  | user2
  | terminate
  deriving DecidableEq, Repr

namespace Signal

/-- Every signal. -/
def all : List Signal := [.hangup, .interrupt, .kill, .user1, .user2, .terminate]

/-- The number of a signal. -/
def number : Signal → Nat
  | .hangup => 1
  | .interrupt => 2
  | .kill => 9
  | .user1 => 10
  | .user2 => 12
  | .terminate => 15

/-- The name of a signal. -/
def name : Signal → String
  | .hangup => "SIGHUP"
  | .interrupt => "SIGINT"
  | .kill => "SIGKILL"
  | .user1 => "SIGUSR1"
  | .user2 => "SIGUSR2"
  | .terminate => "SIGTERM"

/-- What a signal says. -/
def description : Signal → String
  | .hangup => "Hangup"
  | .interrupt => "Interrupt"
  | .kill => "Killed"
  | .user1 => "User defined signal 1"
  | .user2 => "User defined signal 2"
  | .terminate => "Terminated"

/-- The signal of a number. -/
def ofNumber? (number : Nat) : Option Signal := all.find? fun signal => signal.number == number

/-- Whether the signal ends a process that does not handle it. -/
def isFatal : Signal → Bool
  | .user1 | .user2 => false
  | _ => true

/-- Whether a script may handle the signal. -/
def isCatchable (signal : Signal) : Bool := signal != .kill

/-- The name and the number. -/
def display (signal : Signal) : String := signal.name ++ "(" ++ toString signal.number ++ ")"

theorem mem_all (signal : Signal) : signal ∈ all := by
  cases signal <;> decide

theorem ofNumber?_number (signal : Signal) : ofNumber? signal.number = some signal := by
  cases signal <;> decide

theorem number_of_ofNumber? {number : Nat} {signal : Signal} (found : ofNumber? number = some signal) :
    signal.number = number := by
  simpa using List.find?_some found

end Signal

/-- A number that is no signal. -/
inductive SignalError
  | invalid (number : Nat)
  deriving DecidableEq, Repr

/-- The wording of the error. -/
def SignalError.message : SignalError → String
  | .invalid number => "Invalid signal: " ++ toString number

/-- What delivering a signal came to. -/
inductive SignalOutcome
  | handled (result : Json)
  | ignored
  | terminated
  deriving Repr

end ScriptKernel
