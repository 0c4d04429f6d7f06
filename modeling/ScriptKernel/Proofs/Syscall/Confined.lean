/-
**A call changes its own resource, or nothing.**

* `Syscall.Confined`: what a standard host function has done when it returns: each has one resource, a slot, a
  variable, the output or the exit, and leaves everything else as it was;
* `Syscall.Refused`: why one fails;
* `Syscall.Careful`: a call that fails has changed nothing, one that returns is confined, and no variable is ever
  added under a name that cannot be one;
* `standard_careful`: **so is every call of every standard host function**, whatever its arguments are.
-/

import ScriptKernel.Proofs.Interrupt
import ScriptKernel.Proofs.Syscall.Number
import ScriptKernel.Proofs.Syscall.Reply
import ScriptKernel.Proofs.Terminal

set_option autoImplicit false

namespace ScriptKernel

/-! ### Variables -/

/-- Another field stays as it was. -/
theorem Json.lookup?_insert_other {α : Type} {key other : String} (different : other ≠ key) (value : α)
    (entries : List (String × α)) : lookup? other (insert key value entries) = lookup? other entries := by
  induction entries with
  | nil => simp [insert, lookup?, different]
  | cons entry rest ih =>
    obtain ⟨first, old⟩ := entry
    rw [insert]
    split
    · simp [lookup?, different]
    · split
      · rename_i same
        subst same
        simp [lookup?, different]
      · rw [lookup?, lookup?, ih]

/-- A field that is put in is found. -/
theorem Json.lookup?_insert_same {α : Type} (key : String) (value : α) (entries : List (String × α)) :
    lookup? key (insert key value entries) = some value := by
  induction entries with
  | nil => simp [insert, lookup?]
  | cons entry rest ih =>
    obtain ⟨first, old⟩ := entry
    rw [insert]
    split
    · simp [lookup?]
    · split
      · simp [lookup?]
      · rename_i different
        simp [lookup?, different, ih]

/-- A variable has the value it was given last. -/
theorem Environment.get_set_same (environment : Environment) (name value : String) :
    (environment.set name value).get name = some value :=
  Json.lookup?_insert_same name value environment.entries

/-- Another variable stays as it was. -/
theorem Environment.get_set_other (environment : Environment) {name other : String}
    (different : other ≠ name) (value : String) :
    (environment.set name value).get other = environment.get other :=
  Json.lookup?_insert_other different value environment.entries

namespace Syscall

/-! ### Arguments -/

theorem stringArg_eq_ok {args : List Json} {place : Nat} {text : String} :
    stringArg args place = .ok text ↔ arg args place = .text text := by
  unfold stringArg
  cases arg args place with
  | text found => rw [Except.ok.injEq, Json.text.injEq]
  | null | boolean | number | list | members => exact ⟨nofun, nofun⟩

theorem stringArg_eq_error {args : List Json} {place : Nat} {error : SyscallError}
    (failed : stringArg args place = .error error) (text : String) : arg args place ≠ .text text :=
  fun named => nomatch failed.symm.trans (stringArg_eq_ok.mpr named)

theorem ofJson_arg_error {args : List Json} {error : SyscallError}
    (failed : Fd.ofJson (arg args 0) = .error error) (fd : Fd) : ¬ Addresses args fd :=
  fun addressed => nomatch failed.symm.trans (ofJson_arg.mpr addressed)

theorem isVariableName_iff {name : String} : isVariableName name = true ↔ name ≠ "" ∧ '=' ∉ name.toList := by
  simp [isVariableName]

/-! ### What a call may do -/

/-- **What a call has done when it returns**, by the name of the host function: each has one resource, and
everything else is as it was. -/
inductive Confined (args : List Json) (before : SyscallContext) : String → SyscallContext → Prop
  /-- The text is put behind the one in the slot addressed. -/
  | written {fd : Fd} {fds : FdTable} (addressed : Addresses args fd)
      (own : fds.get fd = before.fds.get fd ++ textArg (arg args 1))
      (others : ∀ other, other ≠ fd → fds.get other = before.fds.get other) :
      Confined args before "write" { before with fds }
  /-- The slot addressed is emptied. -/
  | emptied {name : String} {fd : Fd} {fds : FdTable} (empties : name ∈ ["read", "close"])
      (addressed : Addresses args fd) (own : fds.get fd = "")
      (others : ∀ other, other ≠ fd → fds.get other = before.fds.get other) :
      Confined args before name { before with fds }
  /-- The variable named has the value, and its name can be one. -/
  | setting {name : String} {environment : Environment} (named : arg args 0 = .text name)
      (nonempty : name ≠ "") (plain : '=' ∉ name.toList)
      (own : environment.get name = some (textArg (arg args 1)))
      (others : ∀ other, other ≠ name → environment.get other = before.environment.get other) :
      Confined args before "setenv" { before with environment }
  /-- One output comes behind those of the terminal of the process, and nothing else reaches any terminal. -/
  | output {log : TerminalLog} {terminals : Terminals}
      (attached : before.terminals.log? before.lifecycle.terminal = some log)
      (own : terminals.log? before.lifecycle.terminal = some (log.write ⟨before.pid, .stdout, line args⟩))
      (others : ∀ other, other ≠ before.lifecycle.terminal →
        terminals.log? other = before.terminals.log? other) :
      Confined args before "print" { before with terminals }
  /-- The exit is asked for, unless one was asked for before. -/
  | exit {code : ExitCode} (named : ExitCode.ofJson (arg args 0) = .ok code) :
      Confined args before "exit"
        { before with
          interrupt := { before.interrupt with exitCode := before.interrupt.exitCode.or (some code) } }
  /-- Asking changes nothing. -/
  | nothing {name : String} (asks : name ∈ ["getenv", "getpid", "getargs"]) :
      Confined args before name before

/-- **Why a call fails**, by the name of the host function; the two that tell of the process never do. -/
inductive Refused (args : List Json) (before : SyscallContext) : String → Prop
  | unaddressed {name : String} (works : name ∈ ["write", "read", "close"])
      (nowhere : ∀ fd, ¬ Addresses args fd) : Refused args before name
  | unnamed {name : String} (works : name ∈ ["getenv", "setenv"])
      (other : ∀ text, arg args 0 ≠ .text text) : Refused args before name
  | misnamed {text : String} (named : arg args 0 = .text text) (bad : text = "" ∨ '=' ∈ text.toList) :
      Refused args before "setenv"
  | detached (gone : before.terminals.log? before.lifecycle.terminal = none) : Refused args before "print"
  | uncoded (other : ∀ code, ExitCode.ofJson (arg args 0) ≠ .ok code) : Refused args before "exit"

/-- **A call that takes care**: it does nothing before it is sure to return, and then no more than it may. -/
structure Careful (name : String) (args : List Json) (before : SyscallContext)
    (result : SyscallReply × SyscallContext) : Prop where
  calm : result.1 ≠ .panicked
  failed : ∀ error, result.1 = .failed error → result.2 = before ∧ Refused args before name
  returned : ∀ value, result.1 = .returned value → Confined args before name result.2
  /-- No variable is added under a name that cannot be one. -/
  added : ∀ name, before.environment.get name = none → result.2.environment.get name ≠ none →
    name ≠ "" ∧ '=' ∉ name.toList

namespace Careful

variable {name : String} {args : List Json} {before after : SyscallContext}

/-- A call that is refused changes nothing. -/
theorem refused (error : SyscallError) (reason : Refused args before name) :
    Careful name args before (.failed error, before) where
  calm := nofun
  failed _ _ := ⟨rfl, reason⟩
  returned := nofun
  added _ missing found := absurd missing found

/-- A call that is confined adds no variable but the one it names. -/
theorem done (value : Json) (confined : Confined args before name after) :
    Careful name args before (.returned value, after) where
  calm := nofun
  failed := nofun
  returned _ _ := confined
  added other missing found := by
    cases confined with
    | @setting name environment named nonempty plain own others =>
      by_cases same : other = name
      · exact same ▸ ⟨nonempty, plain⟩
      · exact absurd ((others other same).trans missing) found
    | written | emptied | output | exit | nothing => exact absurd missing found

end Careful

/-! ### The standard host functions -/

section Standard

variable (args : List Json) (before : SyscallContext)

theorem print_careful : Careful "print" args before (print.call args before) := by
  rw [print_call]
  cases written : before.writeTerminal .stdout (line args) with
  | error error =>
    have lost := SyscallContext.writeTerminal_eq_error written
    rw [Terminals.write, Terminals.send_fst] at lost
    exact .refused error (.detached (Option.not_isSome_iff_eq_none.mp (ne_true_of_eq_false lost)))
  | ok after =>
    obtain ⟨arrived, rfl⟩ := SyscallContext.writeTerminal_eq_ok written
    rw [Terminals.write, Terminals.send_fst] at arrived
    obtain ⟨log, attached⟩ := Option.isSome_iff_exists.mp arrived
    refine .done _ (.output attached ?_ fun other different => ?_)
    · rw [Terminals.write, Terminals.log?_send, attached]
      rfl
    · rw [Terminals.write, Terminals.log?_send_other _ different]

theorem write_careful : Careful "write" args before (write.call args before) := by
  rw [write_call]
  cases checked : Fd.ofJson (arg args 0) with
  | error error => exact .refused error (.unaddressed (by simp) (ofJson_arg_error checked))
  | ok fd =>
    exact .done _ (.written (ofJson_arg.mp checked) (FdTable.get_set_same _ _ _) fun _ different =>
      FdTable.get_set_other _ different.symm _)

/-- A call that empties the slot addressed takes care. -/
theorem emptying_careful {name : String} (empties : name ∈ ["read", "close"]) (value : Fd → Json) :
    Careful name args before
      (match Fd.ofJson (arg args 0) with
        | .ok fd => (.returned (value fd), { before with fds := before.fds.clear fd })
        | .error error => (.failed error, before)) := by
  cases checked : Fd.ofJson (arg args 0) with
  | error error =>
    exact .refused error (.unaddressed (List.mem_cons_of_mem _ empties) (ofJson_arg_error checked))
  | ok fd =>
    exact .done _ (.emptied empties (ofJson_arg.mp checked) (FdTable.get_set_same _ _ _) fun _ different =>
      FdTable.get_set_other _ different.symm _)

theorem read_careful : Careful "read" args before (read.call args before) := by
  rw [read_call]
  exact emptying_careful args before (by simp) fun fd => .text (before.fds.get fd)

theorem close_careful : Careful "close" args before (close.call args before) := by
  rw [close_call]
  exact emptying_careful args before (by simp) fun _ => .null

theorem getenv_careful : Careful "getenv" args before (getenv.call args before) := by
  rw [getenv_call]
  cases checked : stringArg args 0 with
  | error error => exact .refused error (.unnamed (by simp) (stringArg_eq_error checked))
  | ok name => exact .done _ (.nothing (by simp))

theorem setenv_careful : Careful "setenv" args before (setenv.call args before) := by
  rw [setenv_call]
  cases checked : stringArg args 0 with
  | error error => exact .refused error (.unnamed (by simp) (stringArg_eq_error checked))
  | ok name =>
    have named := stringArg_eq_ok.mp checked
    dsimp only
    by_cases valid : isVariableName name = true
    · obtain ⟨nonempty, plain⟩ := isVariableName_iff.mp valid
      rw [if_pos valid]
      exact .done _ (.setting named nonempty plain (Environment.get_set_same _ _ _)
        fun other different => Environment.get_set_other _ different _)
    · rw [if_neg valid]
      have bad : name = "" ∨ '=' ∈ name.toList := by
        rw [isVariableName_iff, not_and_or, not_not, not_not] at valid
        exact valid
      exact .refused _ (.misnamed named bad)

theorem getpid_careful : Careful "getpid" args before (getpid.call args before) := by
  rw [getpid_call]
  exact .done _ (.nothing (by simp))

theorem getargs_careful : Careful "getargs" args before (getargs.call args before) := by
  rw [getargs_call]
  exact .done _ (.nothing (by simp))

theorem exit_careful : Careful "exit" args before (exit.call args before) := by
  rw [exit_call]
  cases checked : ExitCode.ofJson (arg args 0) with
  | error error => exact .refused error (.uncoded fun code named => nomatch checked.symm.trans named)
  | ok code =>
    dsimp only
    rw [SyscallContext.requestExit, Interrupt.requestExit_eq]
    exact .done _ (.exit checked)

end Standard

/-- **A call of a standard host function that fails has changed nothing, and one that returns has changed no more
than its own resource.** -/
theorem standard_careful {syscall : Syscall} (bound : syscall ∈ SyscallTable.standard.syscalls)
    (args : List Json) (before : SyscallContext) :
    Careful syscall.name args before (syscall.call args before) := by
  simp only [SyscallTable.standard, List.mem_cons, List.not_mem_nil, or_false] at bound
  rcases bound with rfl | rfl | rfl | rfl | rfl | rfl | rfl | rfl | rfl
  · exact print_careful args before
  · exact write_careful args before
  · exact read_careful args before
  · exact close_careful args before
  · exact getenv_careful args before
  · exact setenv_careful args before
  · exact getpid_careful args before
  · exact getargs_careful args before
  · exact exit_careful args before

/-- So is a call of the function that sets variables. -/
theorem standard_careful_setenv :
    setenv ∈ SyscallTable.standard.syscalls ∧
      Careful "setenv" [.text "LANG", .text "C"] (.of (.fresh 7 [] {} .detached "main") {})
        (setenv.call [.text "LANG", .text "C"] (.of (.fresh 7 [] {} .detached "main") {})) :=
  have bound : setenv ∈ SyscallTable.standard.syscalls := by simp [SyscallTable.standard]
  ⟨bound, standard_careful bound _ _⟩

end Syscall

end ScriptKernel
