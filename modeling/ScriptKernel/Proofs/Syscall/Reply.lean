/-
**What the standard host functions reply.**

Each checks its arguments, then does its work.

* `writeTerminal_eq_ok`, `writeTerminal_eq_error`: what writing to the terminal of the process does;
* `ofBody_check`: **a check that fails ends the call before anything is changed**;
* `print_call`, …, `exit_call`: one equation for each, with its check, its reply and its work.
-/

import ScriptKernel.Syscall.Standard

set_option autoImplicit false

namespace ScriptKernel

/-- What is written arrives at the terminal, and is all that is done. -/
theorem SyscallContext.writeTerminal_eq_ok {context after : SyscallContext} {stream : Stream} {text : String}
    (written : context.writeTerminal stream text = .ok after) :
    (context.terminals.write context.lifecycle.terminal ⟨context.pid, stream, text⟩).1 = true ∧
      after = { context with
        terminals := (context.terminals.write context.lifecycle.terminal ⟨context.pid, stream, text⟩).2 } := by
  unfold writeTerminal at written
  split at written
  · rename_i terminals sent
    cases written
    rw [sent]
    exact ⟨rfl, rfl⟩
  · cases written

/-- What cannot be written does not arrive. -/
theorem SyscallContext.writeTerminal_eq_error {context : SyscallContext} {stream : Stream} {text : String}
    {error : SyscallError} (lost : context.writeTerminal stream text = .error error) :
    (context.terminals.write context.lifecycle.terminal ⟨context.pid, stream, text⟩).1 = false := by
  unfold writeTerminal at lost
  split at lost
  · cases lost
  · rename_i terminals sent
    rw [sent]

namespace Syscall

/-- **A check that fails ends the call before anything is changed**; else the call goes on with what it found. -/
theorem ofBody_check {α : Type} (name : String) (check : List Json → Except SyscallError α)
    (next : List Json → α → Body Json) (args : List Json) (context : SyscallContext) :
    (ofBody name fun args => do next args (← check args)).call args context =
      match check args with
      | .ok found => (ofBody name fun args => next args found).call args context
      | .error error => (.failed error, context) := by
  unfold ofBody
  dsimp only
  cases check args with
  | ok found => rfl
  | error error => rfl

variable (args : List Json) (context : SyscallContext)

theorem print_call : print.call args context =
    match context.writeTerminal .stdout (line args) with
    | .ok after => (.returned .null, after)
    | .error error => (.failed error, context) := by
  -- the terminal is looked up in the context that the call begins with
  show (ofBody "print" fun args => do
    let after ← context.writeTerminal .stdout (line args)
    set after
    return Json.null).call args context = _
  refine (ofBody_check _ (fun args => context.writeTerminal .stdout (line args)) _ args context).trans ?_
  cases context.writeTerminal .stdout (line args) <;> rfl

theorem write_call : write.call args context =
    match Fd.ofJson (arg args 0) with
    | .ok fd => (.returned (Json.nat (textArg (arg args 1)).length),
        { context with fds := context.fds.append fd (textArg (arg args 1)) })
    | .error error => (.failed error, context) := by
  refine (ofBody_check _ (fun args => Fd.ofJson (arg args 0)) _ args context).trans ?_
  cases Fd.ofJson (arg args 0) <;> rfl

theorem read_call : read.call args context =
    match Fd.ofJson (arg args 0) with
    | .ok fd => (.returned (.text (context.fds.get fd)), { context with fds := context.fds.clear fd })
    | .error error => (.failed error, context) := by
  refine (ofBody_check _ (fun args => Fd.ofJson (arg args 0)) _ args context).trans ?_
  cases Fd.ofJson (arg args 0) <;> rfl

theorem close_call : close.call args context =
    match Fd.ofJson (arg args 0) with
    | .ok fd => (.returned .null, { context with fds := context.fds.clear fd })
    | .error error => (.failed error, context) := by
  refine (ofBody_check _ (fun args => Fd.ofJson (arg args 0)) _ args context).trans ?_
  cases Fd.ofJson (arg args 0) <;> rfl

theorem getenv_call : getenv.call args context =
    match stringArg args 0 with
    | .ok name => (.returned (Json.ofOption Json.text (context.environment.get name)), context)
    | .error error => (.failed error, context) := by
  refine (ofBody_check _ (fun args => stringArg args 0) _ args context).trans ?_
  cases stringArg args 0 <;> rfl

theorem setenv_call : setenv.call args context =
    match stringArg args 0 with
    | .ok name =>
      if isVariableName name then
        (.returned .null,
          { context with environment := context.environment.set name (textArg (arg args 1)) })
      else (.failed (.invalidArgument ("invalid variable name " ++ quoted name)), context)
    | .error error => (.failed error, context) := by
  refine (ofBody_check _ (fun args => stringArg args 0) _ args context).trans ?_
  cases stringArg args 0 with
  | error error => rfl
  | ok name =>
    unfold ofBody
    dsimp only
    cases isVariableName name with
    | true => rfl
    | false => rfl

theorem getpid_call : getpid.call args context = (.returned (Json.nat context.pid), context) := rfl

theorem getargs_call : getargs.call args context = (.returned (Json.texts context.args), context) := rfl

theorem exit_call : exit.call args context =
    match ExitCode.ofJson (arg args 0) with
    | .ok code => (.returned .null, context.requestExit code)
    | .error error => (.failed error, context) := by
  refine (ofBody_check _ (fun args => ExitCode.ofJson (arg args 0)) _ args context).trans ?_
  cases ExitCode.ofJson (arg args 0) <;> rfl

end Syscall

end ScriptKernel
