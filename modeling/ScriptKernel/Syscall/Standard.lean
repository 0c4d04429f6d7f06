/-
**The standard host functions.**

* `print`: a line on the terminal; `write`, `read`, `close`: the slots of the process;
* `getenv`, `setenv`: its variables; `getpid`, `getargs`: who it is; `exit`: its end;
* `ExitCode.ofJson`: the exit code a value names, written as an integer or as a double;
* `SyscallTable.standard`: all nine, in this order.
-/

import ScriptKernel.Syscall

set_option autoImplicit false

namespace ScriptKernel

namespace ExitCode

/-- The exit code of an integer, if it is one. -/
def ofInteger? (value : Int) : Option ExitCode :=
  if -2147483648 ≤ value ∧ value < 2147483648 then some value else none

/-- The exit code of a number: of its word, else of its double, which has to be whole. -/
def ofNumber? (number : Json.Number) : Option ExitCode :=
  (number.asSigned?.or
    (if number.asDouble.isWhole then some number.asDouble.toSigned else none)).bind ofInteger?

/-- The exit code a value names; null stands for zero. -/
def ofJson (value : Json) : Except SyscallError ExitCode :=
  match value with
  | .null => .ok 0
  | .number number =>
    match ofNumber? number with
    | some code => .ok code
    | none => .error (.invalidArgument ("bad exit code " ++ number.print))
  | other => .error (.invalidArgument ("exit code must be a number, got " ++ other.print))

end ExitCode

namespace Syscall

/-- The line that is printed for some arguments. -/
def line (args : List Json) : String := " ".intercalate (args.map textArg) ++ "\n"

/-- Writes the arguments, with blanks between them, as a line. -/
def print : Syscall := .ofBody "print" fun args => do
  let after ← (← get).writeTerminal .stdout (line args)
  set after
  return .null

/-- Puts a text behind the one in a slot and answers its length in characters. -/
def write : Syscall := .ofBody "write" fun args => do
  let fd ← Fd.ofJson (arg args 0)
  let text := textArg (arg args 1)
  modify fun context => { context with fds := context.fds.append fd text }
  return Json.nat text.length

/-- Empties a slot and answers its text. -/
def read : Syscall := .ofBody "read" fun args => do
  let fd ← Fd.ofJson (arg args 0)
  let context ← get
  let (text, fds) := context.fds.take fd
  set { context with fds }
  return .text text

/-- Empties a slot. -/
def close : Syscall := .ofBody "close" fun args => do
  let fd ← Fd.ofJson (arg args 0)
  modify fun context => { context with fds := context.fds.clear fd }
  return .null

/-- The value of a variable, or null. -/
def getenv : Syscall := .ofBody "getenv" fun args => do
  let name ← stringArg args 0
  return Json.ofOption Json.text ((← get).environment.get name)

/-- Whether a text can be the name of a variable. -/
def isVariableName (name : String) : Bool := !name.isEmpty && !name.toList.contains '='

/-- Gives a variable a value. -/
def setenv : Syscall := .ofBody "setenv" fun args => do
  let name ← stringArg args 0
  unless isVariableName name do
    throw (.invalidArgument ("invalid variable name " ++ quoted name))
  let value := textArg (arg args 1)
  modify fun context => { context with environment := context.environment.set name value }
  return .null

/-- The number of the process. -/
def getpid : Syscall := .ofBody "getpid" fun _ => do
  return Json.nat (← get).pid

/-- The arguments of the process. -/
def getargs : Syscall := .ofBody "getargs" fun _ => do
  return Json.texts (← get).args

/-- Asks to end the process. -/
def exit : Syscall := .ofBody "exit" fun args => do
  let code ← ExitCode.ofJson (arg args 0)
  modify fun context => context.requestExit code
  return .null

end Syscall

/-- The standard host functions. -/
def SyscallTable.standard : SyscallTable :=
  ⟨[.print, .write, .read, .close, .getenv, .setenv, .getpid, .getargs, .exit]⟩

end ScriptKernel
