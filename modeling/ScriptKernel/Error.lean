/-
**Errors.**

Each layer has its errors, and a layer wraps those of the layers below: a process error may hold a script,
queue or signal error, a script error an engine error, and a kernel error any of them.

* `EngineError`, `ScriptError`, `SyscallError`, `QueueError`, `ProcessError`, `KernelError`: the causes;
* `message`: the wording of each;
* `ScriptError.kind`: the kind of diagnostic a script error is reported as; a requested exit is none.
-/

import ScriptKernel.Signal

set_option autoImplicit false

namespace ScriptKernel

/-- The number of a process, at most 65535. -/
abbrev Pid := Nat

/-- The code a script asks to exit with, a signed thirty-two-bit number. -/
abbrev ExitCode := Int

/-- A failure of the interpreter itself. -/
inductive EngineError
  | creation (reason : String)
  | destroyed
  | conversion (reason : String)
  | internal (reason : String)
  deriving DecidableEq, Repr

/-- The wording of an engine error. -/
def EngineError.message : EngineError → String
  | .creation reason => "engine runtime could not be created: " ++ reason
  | .destroyed => "engine context has been destroyed"
  | .conversion reason => "value conversion failed: " ++ reason
  | .internal reason => "engine failure: " ++ reason

/-- The kinds of diagnostics. -/
inductive DiagnosticKind
  | load
  | evaluation
  | symbolNotFound
  | call
  | timeout
  | cancelled
  | engine
  | construction
  deriving DecidableEq, Repr

/-- A failure of loading a script or of calling into it. -/
inductive ScriptError
  | load (path reason : String)
  | evaluation (path exception : String)
  | symbolNotFound (pid : Pid) (name : String)
  | call (pid : Pid) (name exception : String)
  | timeout (pid : Pid) (target : String) (limit : Nat)
  | cancelled (pid : Pid) (target : String)
  | exited (pid : Pid) (code : ExitCode)
  | engine (pid : Pid) (source : EngineError)
  deriving DecidableEq, Repr

namespace ScriptError

/-- The wording of a script error. -/
def message : ScriptError → String
  | .load path reason => "Kernel Exec Error: cannot load " ++ path ++ ": " ++ reason
  | .evaluation path exception => "Kernel Exec Error: evaluating " ++ path ++ " raised " ++ exception
  | .symbolNotFound pid name => "process " ++ toString pid ++ ": function " ++ name ++ " not found"
  | .call pid name exception =>
    "process " ++ toString pid ++ ": JavaScript Error in function " ++ name ++ ": " ++ exception
  | .timeout pid target limit =>
    "process " ++ toString pid ++ ": " ++ target ++ " exceeded its " ++ toString limit ++ "ms budget"
  | .cancelled pid target => "process " ++ toString pid ++ ": " ++ target ++ " was cancelled"
  | .exited pid code =>
    "process " ++ toString pid ++ ": script exited with code " ++ toString code
  | .engine pid source => "process " ++ toString pid ++ ": " ++ source.message

/-- The kind of diagnostic the error is reported as; a requested exit is no failure. -/
def kind : ScriptError → Option DiagnosticKind
  | .load .. => some .load
  | .evaluation .. => some .evaluation
  | .symbolNotFound .. => some .symbolNotFound
  | .call .. => some .call
  | .timeout .. => some .timeout
  | .cancelled .. => some .cancelled
  | .exited .. => none
  | .engine .. => some .engine

/-- Whether a function was not there to be called. -/
def isSymbolNotFound : ScriptError → Bool
  | .symbolNotFound .. => true
  | _ => false

end ScriptError

/-- A failure that a host function hands to the script. -/
inductive SyscallError
  | badFd (value : String)
  | invalidArgument (reason : String)
  | unavailable (reason : String)
  deriving DecidableEq, Repr

/-- The wording of a host function's error. -/
def SyscallError.message : SyscallError → String
  | .badFd value => "bad file descriptor: " ++ value
  | .invalidArgument reason => "invalid argument: " ++ reason
  | .unavailable reason => "unavailable: " ++ reason

/-- Why a job could not be handed to a queue. -/
inductive QueueError
  | closed
  | reentrant
  | spawn (reason : String)
  deriving DecidableEq, Repr

/-- The wording of a queue error. -/
def QueueError.message : QueueError → String
  | .closed => "execution queue is closed"
  | .reentrant => "job submitted from its own worker thread"
  | .spawn reason => "worker thread failed to start: " ++ reason

/-- A failure of an operation on a process. -/
inductive ProcessError
  | construction (pid : Pid) (reason : String)
  | terminated (pid : Pid)
  | notFound (pid : Pid)
  | pidExhausted
  | queue (error : QueueError)
  | script (error : ScriptError)
  | signal (error : SignalError)
  deriving DecidableEq, Repr

/-- The wording of a process error. -/
def ProcessError.message : ProcessError → String
  | .construction pid reason =>
    "Process " ++ toString pid ++ " could not be constructed: " ++ reason
  | .terminated pid => "Process " ++ toString pid ++ " has terminated"
  | .notFound pid => "Process " ++ toString pid ++ " not found"
  | .pidExhausted => "No free pid left in this session"
  | .queue error => "Execution queue error: " ++ error.message
  | .script error => error.message
  | .signal error => "Signal error: " ++ error.message

/-- A failure of any part of the kernel. -/
inductive KernelError
  | process (error : ProcessError)
  | engine (error : EngineError)
  | syscall (error : SyscallError)
  | file (reason : String)
  | configuration (reason : String)
  deriving DecidableEq, Repr

namespace KernelError

/-- The wording of a kernel error. -/
def message : KernelError → String
  | .process error => "Process error: " ++ error.message
  | .engine error => "Engine error: " ++ error.message
  | .syscall error => "Syscall error: " ++ error.message
  | .file reason => "I/O error: " ++ reason
  | .configuration reason => "Configuration error: " ++ reason

/-- A script error as a kernel error. -/
def ofScript (error : ScriptError) : KernelError := .process (.script error)

/-- A queue error as a kernel error. -/
def ofQueue (error : QueueError) : KernelError := .process (.queue error)

end KernelError

end ScriptKernel
