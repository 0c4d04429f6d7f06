/-
**Looking at a site from time to time.**

* `Watch.news`: what has come to a terminal and to the reports since the last look;
* `Watch.stdout`: all that a process was seen to write to its standard output.
-/

import ScriptKernel.Status.Record
import ScriptKernel.Syscall

set_option autoImplicit false

namespace ScriptKernel

/-- A text a process wrote, as a record. -/
def Output.toJson (output : Output) : Json :=
  .list [Json.nat output.pid, .text output.stream.name, .text output.text]

/-- What became of a process, as a record. -/
def eventRecord (event : Pid × ProcessEvent) : Json :=
  .list [Json.nat event.1, event.2.toJson]

/-- A report without its identifier, as a record. -/
def Diagnostic.brief (diagnostic : Diagnostic) : Json :=
  .list [Json.nat diagnostic.pid, .text diagnostic.kind.name, .text diagnostic.message]

/-- What has been looked at so far. -/
structure Watch where
  terminal : TerminalRef
  outputs : Nat := 0
  events : Nat := 0
  reports : Nat := 0
  /-- The texts seen. -/
  seen : List Output := []

/-- What is new. -/
structure News where
  outputs : List Output
  events : List (Pid × ProcessEvent)
  reports : List Diagnostic

namespace News

/-- The events in order of the processes they happened to. -/
def sortEvents (news : News) : News :=
  { news with events := news.events.mergeSort fun first second => first.1 ≤ second.1 }

/-- The fields of what is new, each left out if it is empty. -/
def fields (news : News) : List (String × Json) :=
  [("out", news.outputs.map Output.toJson), ("events", news.events.map eventRecord),
    ("diags", news.reports.map Diagnostic.brief)].filterMap fun entry =>
      if entry.2.isEmpty then none else some (entry.1, .list entry.2)

end News

namespace Watch

/-- What is new since the last look. -/
def news (watch : Watch) (site : Site) : News × Watch :=
  let log := (site.terminals.log? watch.terminal).getD {}
  let outputs := log.outputs.toList.drop watch.outputs
  (⟨outputs, log.events.toList.drop watch.events, site.sink.entries.toList.drop watch.reports⟩,
    { watch with
      outputs := max watch.outputs log.outputs.size
      events := max watch.events log.events.size
      reports := site.sink.entries.size
      seen := watch.seen ++ outputs })

/-- All that a process was seen to write to its standard output. -/
def stdout (watch : Watch) (pid : Pid) : String :=
  String.join ((watch.seen.filter fun output =>
    output.pid == pid && output.stream == .stdout).map Output.text)

end Watch

end ScriptKernel
