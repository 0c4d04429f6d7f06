/-
**A session with many callers.**

Each caller of a manager moves in steps of its own, in any order with the others. A look at the table, a process
that is put in or taken out, and each part of ending a process is a step; only those who make processes exclude
each other, by a lock that they hold until the new process is in the table.

* `Member`: a process that was made, in the table or not: its life, and whether its worker is gone;
* `Task`, `Progress`: what a caller wants, and how far it has come;
* `Crowd`: the table and the processes with every call in progress;
* `Crowd.endPart`: **ending a process**: the first caller to begin waits for the worker and then marks the end, any
  other does nothing;
* `Crowd.takeOut`: a process is taken out by its number, whichever process the number then has;
* `Crowd.step`, `Crowd.run`: one step of one party; a schedule of steps, where those that cannot be taken are passed
  over.
-/

import ScriptKernel.Manager
import Mathlib.Logic.Function.Basic

set_option autoImplicit false

namespace ScriptKernel.Manager

/-- A process that was made. -/
structure Member where
  life : Lifecycle
  /-- Its worker has been waited for. -/
  stopped : Bool := false
  deriving DecidableEq, Repr

namespace Member

/-- A process that has just been made. -/
def fresh (pid : Pid) (terminal : TerminalRef) : Member := ⟨{ pid, terminal }, false⟩

/-- Whether the process has ended. -/
def isFinished (member : Member) : Bool := member.life.isFinished

/-- Whether the process takes work. -/
def isAlive (member : Member) : Bool := !member.life.isFinished && !member.life.shuttingDown

end Member

/-- What a caller wants. -/
inductive Task
  | spawn
  | terminate (pid : Pid)
  | reap
  | shutdownAll
  /-- Ends a process without asking the manager. -/
  | endMember (number : Nat)
  deriving DecidableEq, Repr

/-- The processes that a reap or a shutdown takes out. Both of the flags it may look at stay set once they are, so
that looking at them one after the other is looking at both at one moment. -/
def Task.takes : Task → Member → Bool
  | .reap, member => !member.isAlive
  | .shutdownAll, _ => true
  | _, _ => false

/-- What a caller is told. -/
inductive Reply
  | refused (error : ProcessError)
  | spawned (pid : Pid)
  | reaped (pids : List Pid)
  | done
  deriving DecidableEq, Repr

/-- What a reap or a shutdown tells in the end. -/
def Task.conclude : Task → List Pid → Reply
  | .reap, gone => .reaped (gone.mergeSort fun first second => first ≤ second)
  | _, _ => .done

/-- The parts of ending a process. -/
inductive Part
  | beginning
  | joining
  | marking
  deriving DecidableEq, Repr

/-- How far a call has come. -/
inductive Progress
  | outside
  /-- It has the lock and looks for a free number. -/
  | searching (pid : Pid)
  | chosen (pid : Pid)
  | made (pid : Pid) (number : Nat)
  /-- It is in the middle of ending a process. -/
  | ending (number : Nat) (part : Part) (next : Progress)
  /-- It has found a process and ended it. -/
  | ended (pid : Pid) (number : Nat)
  /-- It lets go of a process that it has taken out. -/
  | leaving (number : Nat)
  /-- It goes through the table. -/
  | collecting (found : List Pid)
  /-- It takes out what it has found. -/
  | clearing (left : List Pid) (gone : List Pid)
  | answered (reply : Reply)
  deriving DecidableEq, Repr

/-- The processes that a call holds on to. -/
def Progress.holds : Progress → List Nat
  | .made _ number => [number]
  | .ending number _ next => number :: next.holds
  | .ended _ number => [number]
  | .leaving number => [number]
  | _ => []

/-- A call. -/
structure Call where
  task : Task
  progress : Progress := .outside
  deriving DecidableEq, Repr

/-- The processes that a call holds on to, among them the one it is called on. -/
def Call.holds (call : Call) : List Nat :=
  match call.task, call.progress with
  | .endMember number, .outside => [number]
  | _, progress => progress.holds

/-- What has happened to a number. -/
inductive Event
  | found (caller : Nat) (pid : Pid) (number : Nat)
  | inserted (caller : Nat) (pid : Pid) (number : Nat)
  | removed (caller : Nat) (pid : Pid) (number : Nat)
  deriving DecidableEq, Repr

/-- A manager with every call in progress. -/
structure Crowd where
  terminal : TerminalRef
  terminals : Terminals := {}
  /-- Every process that was made. -/
  members : List Member := []
  /-- The process of a number. -/
  table : Pid → Option Nat := fun _ => none
  /-- Someone is making a process. -/
  locked : Bool := false
  calls : List Call
  /-- What has happened, in order. -/
  log : List Event := []

/-- A step of one party. -/
inductive Move
  | advance (caller : Nat)
  /-- A process is made, or cannot be. -/
  | construct (caller : Nat) (failure : Option ProcessError)
  /-- A reap or a shutdown comes to a number on its way through the table. -/
  | visit (caller : Nat) (pid : Pid)
  /-- A process is let go of; if nobody else holds on to it, it is ended. -/
  | letGo (caller : Nat) (last : Bool)
  /-- The worker of a process ends it with the exit that was asked for. -/
  | exit (number : Nat) (code : ExitCode)
  deriving DecidableEq, Repr

namespace Crowd

/-- Notes how far a call has come. -/
def progress (crowd : Crowd) (caller : Nat) (progress : Progress) : Crowd :=
  { crowd with calls := crowd.calls.modify caller fun call => { call with progress } }

/-- Changes a process. -/
def change (crowd : Crowd) (number : Nat) (member : Member) : Crowd :=
  { crowd with members := crowd.members.set number member }

/-- Notes what has happened. -/
def note (crowd : Crowd) (event : Event) : Crowd := { crowd with log := crowd.log ++ [event] }

/-- Gives the lock back. -/
def unlock (crowd : Crowd) : Crowd := { crowd with locked := false }

/-! ### Making a process -/

/-- A spawn that has the lock looks at one number. -/
def search (crowd : Crowd) (caller : Nat) (pid : Pid) : Crowd :=
  if (crowd.table pid).isNone then crowd.progress caller (.chosen pid)
  else if pid < lastPid then crowd.progress caller (.searching (pid + 1))
  else (crowd.progress caller (.answered (.refused .pidExhausted))).unlock

/-- A spawn makes the process of the number it has chosen, unless that fails. -/
def construct (crowd : Crowd) (caller : Nat) (failure : Option ProcessError) : Option Crowd :=
  match crowd.calls[caller]? with
  | some ⟨_, .chosen pid⟩ =>
    match failure with
    | some error => some (crowd.progress caller (.answered (.refused error))).unlock
    | none =>
      some { crowd.progress caller (.made pid crowd.members.length) with
        members := crowd.members ++ [.fresh pid crowd.terminal] }
  | _ => none

/-- A spawn puts its process into the table. -/
def insert (crowd : Crowd) (caller : Nat) (pid : Pid) (number : Nat) : Crowd :=
  (({ crowd with table := Function.update crowd.table pid (some number) }.progress caller
    (.answered (.spawned pid))).note (.inserted caller pid number)).unlock

/-! ### Ending a process -/

/-- One part of ending a process. -/
def endPart (crowd : Crowd) (caller number : Nat) (member : Member) (next : Progress) : Part → Crowd
  | .beginning =>
    let (first, life) := member.life.beginShutdown
    (crowd.change number { member with life }).progress caller
      (if first then .ending number .joining next else next)
  | .joining =>
    (crowd.change number { member with stopped := true }).progress caller
      (.ending number .marking next)
  | .marking =>
    let (_, life, terminals) := member.life.markTerminated crowd.terminals
    { (crowd.change number { member with life }).progress caller next with terminals }

/-! ### Taking processes out -/

/-- Takes out the process of a number, whichever it is, and goes on. -/
def takeOut (crowd : Crowd) (caller : Nat) (pid : Pid) (absent : Progress) (present : Nat → Progress) :
    Crowd :=
  match crowd.table pid with
  | none => crowd.progress caller absent
  | some number =>
    ({ crowd with table := Function.update crowd.table pid none }.progress caller
      (present number)).note (.removed caller pid number)

/-- A terminate looks for its process. -/
def lookUp (crowd : Crowd) (caller : Nat) (pid : Pid) : Crowd :=
  match crowd.table pid with
  | none => crowd.progress caller (.answered (.refused (.notFound pid)))
  | some number =>
    (crowd.progress caller (.ending number .beginning (.ended pid number))).note
      (.found caller pid number)

/-- A reap or a shutdown comes to a number. The table is locked there while it looks at the process. -/
def visit (crowd : Crowd) (caller : Nat) (pid : Pid) : Option Crowd :=
  match crowd.calls[caller]?, crowd.table pid with
  | some ⟨task, .collecting found⟩, some number =>
    match crowd.members[number]? with
    | some member =>
      if pid ∉ found ∧ task.takes member then
        some ((crowd.progress caller (.collecting (found ++ [pid]))).note (.found caller pid number))
      else none
    | none => none
  | _, _ => none

/-- Whether a call other than this one holds on to a process. -/
def isHeld (crowd : Crowd) (caller number : Nat) : Bool :=
  (List.range crowd.calls.length).any fun other =>
    other != caller && (crowd.calls[other]?).any fun call => call.holds.contains number

/-- A process that was taken out is let go of. It is ended with the last who held on to it; callers that are not
shown here may do so for longer. -/
def letGo (crowd : Crowd) (caller : Nat) (last : Bool) : Option Crowd :=
  match crowd.calls[caller]? with
  | some ⟨_, .leaving number⟩ =>
    if last then
      if crowd.isHeld caller number then none
      else some (crowd.progress caller (.ending number .beginning (.answered .done)))
    else some (crowd.progress caller (.answered .done))
  | _ => none

/-! ### Steps -/

/-- A call begins. -/
def start (crowd : Crowd) (caller : Nat) : Task → Option Crowd
  | .spawn =>
    if crowd.locked then none
    else some { crowd.progress caller (.searching firstPid) with locked := true }
  | .terminate pid => some (crowd.lookUp caller pid)
  | .reap | .shutdownAll => some (crowd.progress caller (.collecting []))
  | .endMember number =>
    if number < crowd.members.length then
      some (crowd.progress caller (.ending number .beginning (.answered .done)))
    else none

/-- The next step of a call, where it has only one. -/
def advance (crowd : Crowd) (caller : Nat) : Option Crowd :=
  match crowd.calls[caller]? with
  | some ⟨task, .outside⟩ => crowd.start caller task
  | some ⟨_, .searching pid⟩ => some (crowd.search caller pid)
  | some ⟨_, .made pid number⟩ => some (crowd.insert caller pid number)
  | some ⟨_, .ending number part next⟩ =>
    (crowd.members[number]?).map fun member => crowd.endPart caller number member next part
  | some ⟨_, .ended pid _⟩ => some (crowd.takeOut caller pid (.answered .done) .leaving)
  | some ⟨_, .collecting found⟩ => some (crowd.progress caller (.clearing found []))
  | some ⟨_, .clearing (pid :: left) gone⟩ =>
    some (crowd.takeOut caller pid (.clearing left gone) fun number =>
      .ending number .beginning (.clearing left (gone ++ [pid])))
  | some ⟨task, .clearing [] gone⟩ => some (crowd.progress caller (.answered (task.conclude gone)))
  | _ => none

/-- The worker of a process ends it, as long as nobody has waited for the worker's end. -/
def exit (crowd : Crowd) (number : Nat) (code : ExitCode) : Option Crowd :=
  match crowd.members[number]? with
  | some member =>
    if member.stopped then none
    else
      let (_, life, terminals) := member.life.markExited code crowd.terminals
      some { crowd.change number { member with life } with terminals }
  | none => none

/-- One step, if its party can take it. -/
def step (crowd : Crowd) : Move → Option Crowd
  | .advance caller => crowd.advance caller
  | .construct caller failure => crowd.construct caller failure
  | .visit caller pid => crowd.visit caller pid
  | .letGo caller last => crowd.letGo caller last
  | .exit number code => crowd.exit number code

/-- Takes the steps of a schedule that can be taken. -/
def run (crowd : Crowd) (schedule : List Move) : Crowd :=
  schedule.foldl (fun crowd move => (crowd.step move).getD crowd) crowd

end Crowd

end ScriptKernel.Manager
