/-
**What a process can tell of the place where it runs.**

Processes share their site. A process sees of it the time, whether a terminal is there, and what it has itself
brought about: its own outputs and events at each terminal, and its own reports.

* `Terminals.seen`, `Sink.seen`: what one process has brought about at a terminal, and among the reports;
* `Site.Alike`: **two sites that one process cannot tell apart**; whatever is sent to both of them leaves them so;
* `Site.Adds`: **a site to which one process has added something**: every output, event and report that is new
  bears its number; no other process can tell (`Adds.alike`).
-/

import ScriptKernel.Proofs.Terminal
import ScriptKernel.Syscall

set_option autoImplicit false

namespace ScriptKernel

/-! ### What one process has brought about -/

/-- What a process wrote to a terminal, and what became of it. -/
structure Trail where
  outputs : List Output
  events : List ProcessEvent
  deriving DecidableEq

namespace Trail

/-- What a process sees of a text that someone wrote: its own texts. -/
def write (trail : Trail) (pid : Pid) (output : Output) : Trail :=
  if output.pid == pid then { trail with outputs := trail.outputs ++ [output] } else trail

/-- What a process sees of an event that someone announced: its own events. -/
def notify (trail : Trail) (pid stranger : Pid) (event : ProcessEvent) : Trail :=
  if stranger == pid then { trail with events := trail.events ++ [event] } else trail

end Trail

namespace TerminalLog

/-- What a log shows of one process. -/
def trail (log : TerminalLog) (pid : Pid) : Trail where
  outputs := log.outputs.toList.filter fun output => output.pid == pid
  events := log.eventsOf pid

/-- The standard output of a process is among what it wrote. -/
theorem stdout_eq (log : TerminalLog) (pid : Pid) :
    log.stdout pid = String.join (((log.trail pid).outputs.filter fun output =>
      output.stream == .stdout).map Output.text) := by
  unfold stdout trail
  rw [List.filter_filter]
  simp only [Bool.and_comm]

theorem trail_write (log : TerminalLog) (pid : Pid) (output : Output) :
    (log.write output).trail pid = (log.trail pid).write pid output := by
  unfold trail write eventsOf Trail.write
  simp only [Array.toList_push, List.filter_append, List.filter_cons, List.filter_nil]
  split
  · rfl
  · rw [List.append_nil]

theorem trail_notify (log : TerminalLog) (pid stranger : Pid) (event : ProcessEvent) :
    (log.notify stranger event).trail pid = (log.trail pid).notify pid stranger event := by
  unfold trail notify eventsOf Trail.notify
  simp only [Array.toList_push, List.filter_append, List.map_append, List.filter_cons, List.filter_nil]
  split
  · rfl
  · rw [List.map_nil, List.append_nil]

end TerminalLog

namespace Terminals

/-- What a process has brought about at a terminal, if the terminal is there. -/
def seen (terminals : Terminals) (pid : Pid) (reference : TerminalRef) : Option Trail :=
  (terminals.log? reference).map fun log => log.trail pid

variable {terminals : Terminals} {pid : Pid} {reference : TerminalRef}

/-- Whether a terminal is there is seen. -/
theorem isAttached_eq (terminals : Terminals) (pid : Pid) (reference : TerminalRef) :
    terminals.isAttached reference = (terminals.seen pid reference).isSome := by
  unfold isAttached seen
  rw [Option.isSome_map]

/-- **What is seen after something was sent.** -/
theorem seen_send (terminals : Terminals) (pid : Pid) (reference other : TerminalRef)
    {change : TerminalLog → TerminalLog} {step : Trail → Trail}
    (shows : ∀ log : TerminalLog, (change log).trail pid = step (log.trail pid)) :
    (terminals.send reference change).2.seen pid other =
      if other = reference then (terminals.seen pid other).map step else terminals.seen pid other := by
  unfold seen
  split
  · rename_i same
    subst same
    rw [log?_send, Option.map_map, Option.map_map]
    exact congrArg (Option.map · _) (funext shows)
  · rename_i different
    rw [log?_send_other _ different]

end Terminals

/-- The reports of one process, each with its kind and its wording. -/
def Sink.seen (sink : Sink) (pid : Pid) : List (DiagnosticKind × String) :=
  (sink.entries.toList.filter fun entry => entry.pid == pid).map fun entry =>
    (entry.kind, entry.message)

/-- What is seen after a report. -/
theorem Sink.seen_reportScriptError (sink : Sink) (pid stranger : Pid) (error : ScriptError) :
    (sink.reportScriptError stranger error).2.seen pid =
      sink.seen pid ++ if stranger == pid then
        (error.kind.map fun kind => (kind, error.message)).toList else [] := by
  unfold reportScriptError Diagnostic.ofScriptError? seen
  cases error.kind with
  | none =>
    simp only [Option.map_none, Option.toList_none, ite_self, List.append_nil]
  | some kind =>
    simp only [Option.map_some, Array.toList_push, List.filter_append, List.map_append, List.filter_cons,
      List.filter_nil]
    split <;> rfl

namespace Site

/-! ### Sites that a process cannot tell apart -/

/-- **Two sites that one process cannot tell apart.** -/
structure Alike (pid : Pid) (first second : Site) : Prop where
  seen : ∀ reference, first.terminals.seen pid reference = second.terminals.seen pid reference
  reports : first.sink.seen pid = second.sink.seen pid
  clock : first.clock = second.clock
  slices : first.slices = second.slices

namespace Alike

variable {pid : Pid} {first second : Site}

theorem refl (pid : Pid) (site : Site) : Alike pid site site := ⟨fun _ => rfl, rfl, rfl, rfl⟩

theorem isAttached (alike : Alike pid first second) (reference : TerminalRef) :
    first.terminals.isAttached reference = second.terminals.isAttached reference := by
  rw [Terminals.isAttached_eq _ pid, Terminals.isAttached_eq _ pid, alike.seen]

/-- What is sent arrives at both sites or at neither, and leaves them alike. -/
theorem send (alike : Alike pid first second) (reference : TerminalRef)
    {change : TerminalLog → TerminalLog} (step : Trail → Trail)
    (shows : ∀ log : TerminalLog, (change log).trail pid = step (log.trail pid)) :
    (first.terminals.send reference change).1 = (second.terminals.send reference change).1 ∧
      Alike pid { first with terminals := (first.terminals.send reference change).2 }
        { second with terminals := (second.terminals.send reference change).2 } := by
  refine ⟨?_, fun other => ?_, alike.reports, alike.clock, alike.slices⟩
  · rw [Terminals.send_fst, Terminals.send_fst, alike.isAttached]
  · show (first.terminals.send reference change).2.seen pid other =
      (second.terminals.send reference change).2.seen pid other
    rw [Terminals.seen_send _ _ _ _ shows, Terminals.seen_send _ _ _ _ shows, alike.seen]

/-- A text arrives at both sites or at neither, and leaves them alike. -/
theorem write (alike : Alike pid first second) (reference : TerminalRef) (output : Output) :
    (first.terminals.write reference output).1 = (second.terminals.write reference output).1 ∧
      Alike pid { first with terminals := (first.terminals.write reference output).2 }
        { second with terminals := (second.terminals.write reference output).2 } :=
  alike.send reference (·.write pid output) fun log => log.trail_write pid output

/-- So does an event. -/
theorem notify (alike : Alike pid first second) (life : Lifecycle) (event : ProcessEvent) :
    Alike pid { first with terminals := life.notify event first.terminals }
      { second with terminals := life.notify event second.terminals } :=
  (alike.send life.terminal (·.notify pid life.pid event) fun log =>
    log.trail_notify pid life.pid event).2

/-- So does a report. -/
theorem report (alike : Alike pid first second) (stranger : Pid) (error : ScriptError) :
    Alike pid { first with sink := (first.sink.reportScriptError stranger error).2 }
      { second with sink := (second.sink.reportScriptError stranger error).2 } := by
  refine ⟨alike.seen, ?_, alike.clock, alike.slices⟩
  show (first.sink.reportScriptError stranger error).2.seen pid =
    (second.sink.reportScriptError stranger error).2.seen pid
  rw [Sink.seen_reportScriptError, Sink.seen_reportScriptError, alike.reports]

/-- Time goes on at both sites. -/
theorem passSlice (alike : Alike pid first second) : Alike pid first.passSlice second.passSlice := by
  obtain ⟨seen, reports, clock, slices⟩ := alike
  unfold Site.passSlice
  exact ⟨seen, reports, by rw [clock, slices], by rw [slices]⟩

end Alike

/-! ### Sites to which a process has added something -/

/-- **A site to which one process has added something**: what is new bears its number. -/
structure Adds (pid : Pid) (before after : Site) : Prop where
  logs : ∀ reference log, before.terminals.log? reference = some log → ∃ outputs events,
    (∀ output ∈ outputs, output.pid = pid) ∧ (∀ event ∈ events, event.1 = pid) ∧
      after.terminals.log? reference = some ⟨log.outputs ++ outputs, log.events ++ events⟩
  gone : ∀ reference, before.terminals.log? reference = none →
    after.terminals.log? reference = none
  reports : ∃ made, (∀ report ∈ made, report.pid = pid) ∧
    after.sink.entries = before.sink.entries ++ made

namespace Adds

variable {pid : Pid} {before middle after : Site}

/-- Nothing is added where the terminals and the reports stay as they are. -/
theorem still (terminals : after.terminals = before.terminals) (sink : after.sink = before.sink) :
    Adds pid before after := by
  refine ⟨fun reference log here => ⟨#[], #[], nofun, nofun, ?_⟩, fun reference none => ?_,
    #[], nofun, ?_⟩
  · rw [terminals, here, Array.append_empty, Array.append_empty]
  · rw [terminals, none]
  · rw [sink, Array.append_empty]

theorem refl (site : Site) : Adds pid site site := still rfl rfl

theorem trans (first : Adds pid before middle) (second : Adds pid middle after) :
    Adds pid before after := by
  refine ⟨fun reference log here => ?_, fun reference none =>
    second.gone reference (first.gone reference none), ?_⟩
  · obtain ⟨outputs, events, written, told, between⟩ := first.logs reference log here
    obtain ⟨outputs', events', written', told', there⟩ := second.logs reference _ between
    refine ⟨outputs ++ outputs', events ++ events', fun output found => ?_, fun event found => ?_, ?_⟩
    · exact (Array.mem_append.mp found).elim (written output) (written' output)
    · exact (Array.mem_append.mp found).elim (told event) (told' event)
    · rw [there, Array.append_assoc, Array.append_assoc]
  · obtain ⟨made, named, between⟩ := first.reports
    obtain ⟨others, named', there⟩ := second.reports
    refine ⟨made ++ others, fun report found => ?_, ?_⟩
    · exact (Array.mem_append.mp found).elim (named report) (named' report)
    · rw [there, between, Array.append_assoc]

/-- What is sent adds to one terminal, if it is there. -/
theorem send (site : Site) (reference : TerminalRef) {change : TerminalLog → TerminalLog}
    (outputs : Array Output) (events : Array (Pid × ProcessEvent))
    (written : ∀ output ∈ outputs, output.pid = pid) (told : ∀ event ∈ events, event.1 = pid)
    (adds : ∀ log : TerminalLog, change log = ⟨log.outputs ++ outputs, log.events ++ events⟩) :
    Adds pid site { site with terminals := (site.terminals.send reference change).2 } := by
  refine ⟨fun other log here => ?_, fun other none => ?_, #[], nofun, Array.append_empty.symm⟩
  · by_cases same : other = reference
    · subst same
      refine ⟨outputs, events, written, told, ?_⟩
      show (site.terminals.send other change).2.log? other = _
      rw [Terminals.log?_send, here, Option.map_some, adds]
    · refine ⟨#[], #[], nofun, nofun, ?_⟩
      show (site.terminals.send reference change).2.log? other = _
      rw [Terminals.log?_send_other _ same, here, Array.append_empty, Array.append_empty]
  · show (site.terminals.send reference change).2.log? other = _
    by_cases same : other = reference
    · rw [same, Terminals.log?_send, ← same, none]
      rfl
    · rw [Terminals.log?_send_other _ same, none]

theorem write (site : Site) (reference : TerminalRef) (stream : Stream) (text : String) :
    Adds pid site
      { site with terminals := (site.terminals.write reference ⟨pid, stream, text⟩).2 } :=
  send site reference #[⟨pid, stream, text⟩] #[]
    (fun output found => by rw [Array.mem_singleton.mp found]) nofun fun log => by
      rw [Array.append_empty, Array.append_singleton]
      rfl

theorem notify (site : Site) {life : Lifecycle} (named : life.pid = pid) (event : ProcessEvent) :
    Adds pid site { site with terminals := life.notify event site.terminals } :=
  send site life.terminal #[] #[(life.pid, event)] nofun
    (fun other found => by rw [Array.mem_singleton.mp found]; exact named) fun log => by
      rw [Array.append_empty, Array.append_singleton]
      rfl

theorem report (site : Site) (error : ScriptError) :
    Adds pid site { site with sink := (site.sink.reportScriptError pid error).2 } := by
  refine ⟨fun reference log here => ⟨#[], #[], nofun, nofun, ?_⟩, fun reference none => none, ?_⟩
  · rw [Array.append_empty, Array.append_empty]
    exact here
  · show ∃ made, _ ∧ (site.sink.reportScriptError pid error).2.entries = _
    unfold Sink.reportScriptError Diagnostic.ofScriptError?
    cases error.kind with
    | none => exact ⟨#[], nofun, Array.append_empty.symm⟩
    | some kind =>
      refine ⟨#[⟨traceId site.sink.made, pid, kind, error.message⟩], fun report found => ?_, ?_⟩
      · rw [Array.mem_singleton.mp found]
      · rw [Array.append_singleton]
        rfl

/-- **What one process has added no other process can tell**, but for the time that has passed. -/
theorem alike (adds : Adds pid before after) {other : Pid} (different : other ≠ pid) :
    Alike other after { before with clock := after.clock, slices := after.slices } := by
  refine ⟨fun reference => ?_, ?_, rfl, rfl⟩
  · unfold Terminals.seen
    cases here : before.terminals.log? reference with
    | none => rw [adds.gone reference here]
    | some log =>
      obtain ⟨outputs, events, written, told, there⟩ := adds.logs reference log here
      rw [there]
      have none_written : outputs.toList.filter (fun output => output.pid == other) = [] :=
        List.filter_eq_nil_iff.mpr fun output found => by
          rw [written output (Array.mem_toList_iff.mp found)]
          simpa using different.symm
      have none_told : events.toList.filter (fun event => event.1 == other) = [] :=
        List.filter_eq_nil_iff.mpr fun event found => by
          rw [told event (Array.mem_toList_iff.mp found)]
          simpa using different.symm
      simp only [Option.map_some, TerminalLog.trail, TerminalLog.eventsOf, Array.toList_append,
        List.filter_append, none_written, none_told, List.append_nil]
  · obtain ⟨made, named, there⟩ := adds.reports
    have none_made : made.toList.filter (fun report => report.pid == other) = [] :=
      List.filter_eq_nil_iff.mpr fun report found => by
        rw [named report (Array.mem_toList_iff.mp found)]
        simpa using different.symm
    unfold Sink.seen
    rw [there, Array.toList_append, List.filter_append, none_made, List.append_nil]

end Adds

end Site

end ScriptKernel
