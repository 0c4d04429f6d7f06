/-
**Reports of failures.**

* `Sink`: the reports received, in order, each with an identifier of its own;
* `Sink.report`, `Sink.reportScriptError`: a new report; a requested exit makes none;
* `traceId`: a text of thirty-six characters for each number.
-/

import ScriptKernel.Status

set_option autoImplicit false

namespace ScriptKernel

/-- So many hexadecimal digits of a number, the last ones. -/
def hexadecimal (digits value : Nat) : String :=
  String.ofList ((List.range digits).reverse.map fun place => Nat.digitChar (value / Nat.pow 16 place % 16))

/-- The identifier of a number: its hexadecimal digits in groups of 8, 4, 4, 4 and 12. -/
def traceId (number : Nat) : String :=
  "-".intercalate
    [hexadecimal 8 (number / Nat.pow 16 24), hexadecimal 4 (number / Nat.pow 16 20),
      hexadecimal 4 (number / Nat.pow 16 16), hexadecimal 4 (number / Nat.pow 16 12), hexadecimal 12 number]

/-- The reports received. -/
structure Sink where
  entries : Array Diagnostic := #[]
  /-- How many reports were ever made. -/
  made : Nat := 0
  deriving Repr, Inhabited

namespace Sink

/-- A new report. -/
def report (sink : Sink) (pid : Pid) (kind : DiagnosticKind) (message : String) :
    Diagnostic × Sink :=
  let diagnostic : Diagnostic := ⟨traceId sink.made, pid, kind, message⟩
  (diagnostic, ⟨sink.entries.push diagnostic, sink.made + 1⟩)

/-- A new report of a script error, unless it is a requested exit. -/
def reportScriptError (sink : Sink) (pid : Pid) (error : ScriptError) : Option Diagnostic × Sink :=
  match Diagnostic.ofScriptError? pid error (traceId sink.made) with
  | some diagnostic => (some diagnostic, ⟨sink.entries.push diagnostic, sink.made + 1⟩)
  | none => (none, sink)

/-- The number of reports of a kind. -/
def count (sink : Sink) (kind : DiagnosticKind) : Nat :=
  (sink.entries.toList.filter fun entry => entry.kind == kind).length

/-- The number of reports. -/
def size (sink : Sink) : Nat := sink.entries.size

/-- Forgets the reports. -/
def clear (sink : Sink) : Sink := { sink with entries := #[] }

end Sink

end ScriptKernel
