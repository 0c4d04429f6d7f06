/-
**What a process at work does to its variables.**

* `SyscallTable.Customary`: host functions of which one asks for variables, one sets them, and the others leave them
  alone, as the standard ones do (`standard_customary`);
* `Calling`, `Calling.deed?`, `Calling.Heeds`: a call of a host function with its reply, what it has done to the
  variables, and what it tells of them;
* `Sparing`: the changes that jobs are made of leave the variables alone (`Sparing.piecewise`);
* `Settled.step`: **so the only steps that change the variables of a process are the calls that set them**, piece by
  piece and whoever else is at work.
-/

import ScriptKernel.Proofs.Environment
import ScriptKernel.Proofs.Process.Throng

set_option autoImplicit false

namespace ScriptKernel

open Environment (Deed)

/-! ### Host functions -/

/-- **One host function asks for variables, one sets them, and the others leave them alone.** -/
structure SyscallTable.Customary (table : SyscallTable) : Prop where
  getenv : ∀ syscall ∈ table.syscalls, syscall.name = "getenv" → syscall = .getenv
  setenv : ∀ syscall ∈ table.syscalls, syscall.name = "setenv" → syscall = .setenv
  spares : ∀ syscall ∈ table.syscalls, syscall.name ≠ "setenv" → ∀ args context,
    (syscall.call args context).2.environment = context.environment

/-- A call of a standard host function leaves the variables alone, unless it sets one. -/
theorem Syscall.Careful.spares {name : String} {args : List Json} {before : SyscallContext}
    {result : SyscallReply × SyscallContext} (careful : Careful name args before result)
    (other : name ≠ "setenv") : result.2.environment = before.environment := by
  cases reply : result.1 with
  | panicked => exact absurd reply careful.calm
  | failed error => rw [(careful.failed error reply).1]
  | returned value =>
    have confined := careful.returned value reply
    generalize result.2 = after at confined
    cases confined with
    | setting => exact absurd rfl other
    | written | emptied | output | exit | nothing => rfl

/-- **So it is with the standard host functions.** -/
theorem SyscallTable.standard_customary : standard.Customary where
  getenv syscall bound named := by
    simp only [standard, List.mem_cons, List.not_mem_nil, or_false] at bound
    rcases bound with rfl | rfl | rfl | rfl | rfl | rfl | rfl | rfl | rfl
    all_goals first | rfl | exact absurd named (by decide)
  setenv syscall bound named := by
    simp only [standard, List.mem_cons, List.not_mem_nil, or_false] at bound
    rcases bound with rfl | rfl | rfl | rfl | rfl | rfl | rfl | rfl | rfl
    all_goals first | rfl | exact absurd named (by decide)
  spares _ bound other args context := (Syscall.standard_careful bound args context).spares other

/-! ### Calls -/

/-- A call of a host function, with its reply. -/
structure Calling where
  name : String
  args : List Json
  reply : SyscallReply

/-- **What a call has done to the variables**: one that sets a variable has done so if it returned. -/
def Calling.deed? (calling : Calling) : Option Deed :=
  match calling.reply, Syscall.arg calling.args 0 with
  | .returned _, .text name =>
    if calling.name = "setenv" then some (.set name (Syscall.textArg (Syscall.arg calling.args 1))) else none
  | _, _ => none

/-- **What a script is told by calls that are about these variables**: the value of one, or nothing if it has none; and
whether it has set one, whose name has to be the name of a variable. -/
structure Calling.Heeds (calling : Calling) (environment : Environment) : Prop where
  getenv : calling.name = "getenv" → calling.reply = match Syscall.stringArg calling.args 0 with
    | .ok name => .returned (Json.ofOption Json.text (environment.get name))
    | .error error => .failed error
  setenv : calling.name = "setenv" → ((∃ value, calling.reply = .returned value) ↔
    ∃ name, Syscall.arg calling.args 0 = .text name ∧ name ≠ "" ∧ '=' ∉ name.toList)

/-- The call of a host function. -/
def Syscall.calling (syscall : Syscall) (args : List Json) (context : SyscallContext) : Calling :=
  ⟨syscall.name, args, (syscall.call args context).1⟩

/-- A call of another name does nothing to the variables. -/
theorem Calling.deed?_other {calling : Calling} (other : calling.name ≠ "setenv") : calling.deed? = none := by
  unfold deed?
  split
  · exact if_neg other
  · rfl

/-- **What a call leaves of the variables.** -/
theorem SyscallTable.Customary.call {table : SyscallTable} (customary : table.Customary) {syscall : Syscall}
    (bound : syscall ∈ table.syscalls) (args : List Json) (context : SyscallContext) :
    (syscall.call args context).2.environment =
      context.environment.done (syscall.calling args context).deed?.toList := by
  by_cases named : syscall.name = "setenv"
  · obtain rfl := customary.setenv syscall bound named
    unfold Syscall.calling
    rw [Syscall.setenv_call]
    cases checked : Syscall.stringArg args 0 with
    | error error => rfl
    | ok name =>
      dsimp only
      split
      · rw [Calling.deed?, Syscall.stringArg_eq_ok.mp checked]
        rfl
      · rfl
  · rw [customary.spares syscall bound named, Calling.deed?_other named]
    rfl

/-- **What a call that asks for a variable replies.** -/
theorem Syscall.getenv_reply (args : List Json) (context : SyscallContext) :
    (getenv.calling args context).reply =
      match stringArg args 0 with
      | .ok name => .returned (Json.ofOption Json.text (context.environment.get name))
      | .error error => .failed error := by
  unfold calling
  rw [getenv_call]
  cases stringArg args 0 <;> rfl

/-- **A call that sets a variable returns exactly if its name can be one.** -/
theorem Syscall.setenv_reply (args : List Json) (context : SyscallContext) :
    (∃ value, (setenv.calling args context).reply = .returned value) ↔
      ∃ name, arg args 0 = .text name ∧ name ≠ "" ∧ '=' ∉ name.toList := by
  unfold calling
  rw [setenv_call]
  cases checked : stringArg args 0 with
  | error error =>
    refine ⟨nofun, ?_⟩
    rintro ⟨name, named, -⟩
    exact absurd named (stringArg_eq_error checked name)
  | ok name =>
    have named := stringArg_eq_ok.mp checked
    rw [named]
    dsimp only
    by_cases valid : isVariableName name = true
    · rw [if_pos valid]
      exact ⟨fun _ => ⟨name, rfl, isVariableName_iff.mp valid⟩, fun _ => ⟨.null, rfl⟩⟩
    · rw [if_neg valid]
      refine ⟨nofun, ?_⟩
      rintro ⟨other, same, named⟩
      cases same
      exact absurd (isVariableName_iff.mpr named) valid

/-! ### Processes -/

/-- A change that leaves the host functions and the variables alone. -/
structure Sparing (executor : Executor) (context : SyscallContext) (left : Executor × SyscallContext) :
    Prop where
  table : left.1.table = executor.table
  environment : left.2.environment = context.environment

/-- **The changes that jobs are made of leave the variables alone.** -/
theorem Sparing.piecewise : Piecewise Sparing where
  look _ _ := ⟨rfl, rfl⟩
  arm _ _ := ⟨rfl, rfl⟩
  disarm _ _ := ⟨rfl, rfl⟩
  memory _ _ _ := ⟨rfl, rfl⟩
  announce _ _ := ⟨rfl, rfl⟩

namespace ScriptProcess

/-- Outside its work a step leaves the variables alone. -/
theorem Crowd.Stepped.environment {α : Type} {crowd after : Crowd α} (step : Stepped crowd after)
    (idle : after.ran = crowd.ran) :
    after.process.resident.environment = crowd.process.resident.environment := by
  cases step with
  | answer | advance | queue | last => rfl
  | @act _ call _ _ _ acts =>
    generalize call.progress = before at acts
    cases acts <;> rfl
  | serve _ serves =>
    cases serves with
    | refuse | accept | start | stop | settle | leave | exit | reply => rfl
    | perform => exact absurd (List.append_right_eq_self.mp idle) (List.cons_ne_nil _ _)

namespace Throng

variable {throng after : Throng}

/-- The variables of the process. -/
def environment (throng : Throng) : Environment := throng.crowd.process.resident.environment

/-- The host works on the variables of the process. -/
def perform (throng : Throng) (deed : Environment.Deed) : Throng :=
  let process := throng.crowd.process
  { throng with
    crowd := { throng.crowd with
      process := match deed with
        | .set name value => process.setVariable name value
        | .remove name =>
          { process with
            resident := { process.resident with
              environment := process.resident.environment.remove name } } } }

/-- The process at a site that it shares with others; what slices of script have run is its own. -/
def sited (throng : Throng) (site : Site) : Throng :=
  { throng with
    crowd := { throng.crowd with site := { site with slices := throng.crowd.site.slices } } }

/-- The host functions of the process. -/
def table (throng : Throng) : SyscallTable := throng.crowd.process.executor.table

/-- The call of a host function that a step has made. -/
def calling? (throng after : Throng) : Option Calling :=
  match after.asked.drop throng.asked.length with
  | .call index args :: _ =>
    throng.table.syscalls[index]?.map fun syscall => syscall.calling args throng.crowd.context
  | _ => none

/-- **A process whose variables change by calls only.** -/
structure Settled (throng : Throng) : Prop where
  customary : throng.table.Customary
  sparing : ∀ course, throng.course = some course → course.Each Sparing

/-- A process before any call has begun. -/
theorem fresh_settled {process : ScriptProcess} (customary : process.executor.table.Customary) (site : Site)
    (capacity : Nat) (demands : List Demand) : (fresh process site capacity demands).Settled :=
  ⟨customary, nofun⟩

/-- A step leaves the host functions as they are. -/
theorem Settled.onward (settled : throng.Settled)
    (same : after.crowd.process.executor.table = throng.crowd.process.executor.table)
    (sparing : ∀ course, after.course = some course → course.Each Sparing) : after.Settled where
  customary := by
    rw [table, same]
    exact settled.customary
  sparing

/-- The host's work on the variables is a deed. -/
theorem environment_perform (throng : Throng) (deed : Environment.Deed) :
    (throng.perform deed).environment = deed.apply throng.environment := by
  cases deed <;> rfl

/-- It changes nothing else. -/
theorem Settled.perform (settled : throng.Settled) (deed : Environment.Deed) : (throng.perform deed).Settled :=
  settled.onward (by cases deed <;> rfl) settled.sparing

/-- A step that asks nothing makes no call. -/
theorem calling?_eq_none (quiet : after.asked = throng.asked) : throng.calling? after = none := by
  unfold calling?
  rw [quiet, List.drop_length]

/-- A call is one of a host function of the process. -/
theorem of_calling? {calling : Calling} (made : throng.calling? after = some calling) :
    ∃ syscall ∈ throng.table.syscalls, ∃ args, calling = syscall.calling args throng.crowd.context := by
  unfold calling? at made
  split at made
  · rename_i index args _ _
    obtain ⟨syscall, found, rfl⟩ := Option.map_eq_some_iff.mp made
    exact ⟨syscall, List.mem_of_getElem? found, args, rfl⟩
  · cases made

/-- **Calls are about the variables of their process.** -/
theorem Settled.heeds (settled : throng.Settled) {calling : Calling} (made : throng.calling? after = some calling) :
    calling.Heeds throng.environment := by
  obtain ⟨syscall, bound, args, rfl⟩ := of_calling? made
  constructor
  · intro named
    obtain rfl := settled.customary.getenv syscall bound named
    exact Syscall.getenv_reply args throng.crowd.context
  · intro named
    obtain rfl := settled.customary.setenv syscall bound named
    exact Syscall.setenv_reply args throng.crowd.context

/-- What a question to the host leaves of the variables. -/
theorem Settled.ask (settled : throng.Settled) (question : Script.Question)
    (asked : after.asked = throng.asked ++ [question]) :
    (throng.table.host question throng.crowd.context).2.environment =
      throng.environment.done ((throng.calling? after).bind Calling.deed?).toList := by
  unfold calling?
  rw [asked, List.drop_left]
  cases question with
  | exiting => rfl
  | poll worked => rfl
  | call index args =>
    unfold SyscallTable.host
    dsimp only
    cases found : throng.table.syscalls[index]? with
    | none => rfl
    | some syscall => exact settled.customary.call (List.mem_of_getElem? found) args _

/-- **Only calls change the variables of a process.** -/
theorem Settled.step (settled : throng.Settled) (step : Stepped throng after) :
    after.Settled ∧ after.environment = throng.environment.done ((throng.calling? after).bind Calling.deed?).toList := by
  have quiet (silent : after.asked = throng.asked) (same : after.environment = throng.environment) :
      after.environment = throng.environment.done ((throng.calling? after).bind Calling.deed?).toList := by
    rw [calling?_eq_none silent, same]
    rfl
  cases step with
  | party step idle =>
    exact ⟨settled.onward (step.table idle) settled.sparing, quiet rfl (step.environment idle)⟩
  | decline | wait => exact ⟨settled.onward rfl settled.sparing, quiet rfl rfl⟩
  | takeUp working asked =>
    refine ⟨settled.onward rfl fun course same => ?_, quiet rfl rfl⟩
    cases same
    exact Sparing.piecewise.demand asked
  | act working here =>
    have both := settled.sparing _ here throng.crowd.process.executor throng.crowd.context
    refine ⟨settled.onward both.1.table fun course same => ?_, quiet rfl both.1.environment⟩
    cases same
    exact both.2
  | ask working here =>
    refine ⟨settled.onward rfl fun course same => ?_, settled.ask _ rfl⟩
    cases same
    exact settled.sparing _ here _
  | answer | recover => exact ⟨settled.onward rfl nofun, quiet rfl rfl⟩

end Throng

end ScriptProcess

end ScriptKernel
