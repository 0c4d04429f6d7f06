/-
**Stand-ins as structured values.**

* `Standin.ofJson`: the stand-in a value describes, or why it describes none;
* `SyscallTable.ofJson`: a table of which the standard host functions may be the first part.
-/

import ScriptKernel.Json.Access
import ScriptKernel.Syscall.Standard
import ScriptKernel.Syscall.Standin

set_option autoImplicit false

namespace ScriptKernel

/-- The stream a name stands for; the standard output unless it is the other one. -/
def Stream.ofName (name : String) : Stream := if name = "stderr" then .stderr else .stdout

/-- The stand-in a value describes. -/
def Standin.ofJson (entry : Json) : Except String Standin :=
  let value := entry.part "value"
  match entry.textAt "do" with
  | "return" => .ok (.returns value)
  | "throw" => ((SyscallError.decode.ofJson value).map Standin.throws).mapError Json.Fault.summary
  | "echo" => .ok .echo
  | "count" => .ok .count
  | "fail_until" => .ok (.failUntil value.asNatural)
  | "exit" => .ok (.exits value.asInteger (entry.has "throw"))
  | "write" => .ok (.writes (.ofName (entry.textAt "stream")) value.asText)
  | "context" => .ok .context
  | "string_arg" => .ok (.stringArg value.asNatural)
  | "panic" => .ok .panics
  | "sleep" => .ok (.sleeps value.asNatural)
  | "invoke" => .ok .invokes
  | "terminate" => .ok .terminates
  | other => .error ("no stand-in " ++ quoted other)

namespace SyscallTable

/-- Adds the stand-ins that are described, each with a counter of its own. -/
def addAll (table : SyscallTable) : Nat → List Json → Except String SyscallTable
  | _, [] => .ok table
  | counter, entry :: rest => do
    let standin ← Standin.ofJson entry
    addAll (table.register (standin.syscall (entry.textAt "name") counter)) (counter + 1) rest

/-- The table a value describes. -/
def ofJson (value : Json) : Except String SyscallTable :=
  let base : SyscallTable := if value.textAt "base" = "empty" then {} else .standard
  base.addAll 0 (value.itemsAt "extra")

end SyscallTable

end ScriptKernel
