/-
**Terminals.**

A terminal records what processes write and what becomes of them. Processes do not own their terminal: a
reference keeps naming a terminal that is gone, and what is sent there is lost.

* `TerminalLog`: what one terminal has received;
* `Terminals`: every terminal made, each present or gone;
* `Terminals.write`, `Terminals.notify`: sends to a reference and tells whether it arrived.
-/

import ScriptKernel.Status

set_option autoImplicit false

namespace ScriptKernel

/-- A text a process wrote. -/
structure Output where
  pid : Pid
  stream : Stream
  text : String
  deriving DecidableEq, Repr

/-- What a terminal has received, in order. -/
structure TerminalLog where
  outputs : Array Output := #[]
  events : Array (Pid × ProcessEvent) := #[]
  deriving DecidableEq, Repr, Inhabited

namespace TerminalLog

/-- All a process wrote to its standard output. -/
def stdout (log : TerminalLog) (pid : Pid) : String :=
  String.join ((log.outputs.toList.filter fun output =>
    output.pid == pid && output.stream == .stdout).map Output.text)

/-- What became of a process. -/
def eventsOf (log : TerminalLog) (pid : Pid) : List ProcessEvent :=
  (log.events.toList.filter fun event => event.1 == pid).map Prod.snd

/-- Adds a text. -/
def write (log : TerminalLog) (output : Output) : TerminalLog :=
  { log with outputs := log.outputs.push output }

/-- Adds an event. -/
def notify (log : TerminalLog) (pid : Pid) (event : ProcessEvent) : TerminalLog :=
  { log with events := log.events.push (pid, event) }

end TerminalLog

/-- A name for a terminal, or for none. -/
structure TerminalRef where
  place : Option Nat := none
  deriving DecidableEq, Repr, Inhabited

/-- A reference to no terminal. -/
def TerminalRef.detached : TerminalRef := {}

/-- Every terminal made; one that is gone has no log. -/
structure Terminals where
  logs : Array (Option TerminalLog) := #[]
  deriving Repr, Inhabited

namespace Terminals

/-- Makes a terminal. -/
def create (terminals : Terminals) : TerminalRef × Terminals :=
  (⟨some terminals.logs.size⟩, ⟨terminals.logs.push (some {})⟩)

/-- The log of the terminal a reference names, if it is still there. -/
def log? (terminals : Terminals) (reference : TerminalRef) : Option TerminalLog :=
  reference.place.bind fun place => (terminals.logs[place]?).join

/-- Whether the terminal a reference names is still there. -/
def isAttached (terminals : Terminals) (reference : TerminalRef) : Bool :=
  (terminals.log? reference).isSome

/-- Lets a terminal go. -/
def drop (terminals : Terminals) (reference : TerminalRef) : Terminals :=
  match reference.place with
  | none => terminals
  | some place => ⟨terminals.logs.modify place fun _ => none⟩

/-- Changes the log of the terminal a reference names, and tells whether it is still there. -/
def send (terminals : Terminals) (reference : TerminalRef)
    (change : TerminalLog → TerminalLog) : Bool × Terminals :=
  match reference.place with
  | none => (false, terminals)
  | some place =>
    if terminals.isAttached reference then
      (true, ⟨terminals.logs.modify place (Option.map change)⟩)
    else (false, terminals)

/-- Sends a text. -/
def write (terminals : Terminals) (reference : TerminalRef) (output : Output) : Bool × Terminals :=
  terminals.send reference fun log => log.write output

/-- Sends an event. -/
def notify (terminals : Terminals) (reference : TerminalRef) (pid : Pid) (event : ProcessEvent) :
    Bool × Terminals :=
  terminals.send reference fun log => log.notify pid event

/-- A reference in short. -/
def describe (terminals : Terminals) (reference : TerminalRef) : String :=
  "TerminalRef(\"" ++ (if terminals.isAttached reference then "attached" else "detached") ++ "\")"

end Terminals

end ScriptKernel
