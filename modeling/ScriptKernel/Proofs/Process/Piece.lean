/-
**What all pieces of a job have in common.**

* `Course.Each`: a job whose own changes are all of one kind, whatever others do in between;
* `Piecewise`: a kind that has the changes jobs are made of: to look, to start and stop the clock of an entry, to give
  the engine its memory back, and to announce an execution;
* `Piecewise.demand`: **every job that a host asks for makes such changes only**.
-/

import ScriptKernel.ScriptProcess.Throng

set_option autoImplicit false

namespace ScriptKernel

namespace Course

variable {α β : Type} {kind : Executor → SyscallContext → Executor × SyscallContext → Prop}

/-- **A job whose own changes are all of one kind**, whatever others do in between. -/
def Each (kind : Executor → SyscallContext → Executor × SyscallContext → Prop) : Course α → Prop
  | .done _ => True
  | .act change next => ∀ executor context,
    kind executor context (change executor context) ∧ (next executor context).Each kind
  | .ask _ next => ∀ answer, (next answer).Each kind

theorem each_bind {first : Course α} {after : α → Course β} (each : first.Each kind)
    (rest : ∀ answer, (after answer).Each kind) : (first.bind after).Each kind := by
  induction first with
  | done answer => exact rest answer
  | act change next ih =>
    exact fun executor context => ⟨(each executor context).1, ih executor context (each executor context).2⟩
  | ask question next ih => exact fun answer => ih answer (each answer)

theorem each_map {course : Course α} (each : course.Each kind) (convert : α → β) :
    (course.map convert).Each kind := each_bind each fun _ => trivial

/-- What a script asks is no change of the job's own. -/
theorem each_script (dialogue : Script.Dialogue α) : (script dialogue).Each kind := by
  induction dialogue with
  | done value => trivial
  | ask question next ih => exact ih

end Course

/-- **A kind that has the changes jobs are made of.** -/
structure Piecewise (kind : Executor → SyscallContext → Executor × SyscallContext → Prop) : Prop where
  look : ∀ executor context, kind executor context (executor, context)
  arm : ∀ executor context, kind executor context (executor, executor.arm context)
  disarm : ∀ executor context,
    kind executor context (executor, { context with interrupt := context.interrupt.disarm.2 })
  memory : ∀ executor context engine, kind executor context ({ executor with engine }, context)
  announce : ∀ executor context, kind executor context
    (executor, { context with terminals := context.lifecycle.notify .started context.terminals })

namespace Piecewise

open Course

variable {α : Type} {kind : Executor → SyscallContext → Executor × SyscallContext → Prop}

theorem each_look (piecewise : Piecewise kind) {next : Executor → SyscallContext → Course α}
    (each : ∀ executor context, (next executor context).Each kind) : (Course.look next).Each kind :=
  fun executor context => ⟨piecewise.look executor context, each executor context⟩

theorem entered (piecewise : Piecewise kind) (part : Script.Run α) : (entered part).Each kind := by
  refine piecewise.each_look fun executor context => ?_
  split
  · trivial
  · exact each_bind (each_script _) fun ended executor context => ⟨piecewise.memory .., trivial⟩

theorem conclude (piecewise : Piecewise kind) (answer : Except EngineError (Except Script.Fault α)) :
    (conclude answer).Each kind := by
  refine each_bind (each_map (piecewise.entered _) _) fun count => ?_
  cases count with
  | none => trivial
  | some count => exact fun executor context => ⟨piecewise.disarm .., trivial⟩

/-- **An entry makes such changes.** -/
theorem entry (piecewise : Piecewise kind) (part : Script.Run (Except Script.Fault α)) :
    (entry part).Each kind := by
  refine fun executor context => ⟨piecewise.arm .., each_bind (piecewise.entered part) ?_⟩
  intro ended
  split
  · exact piecewise.conclude _
  · exact piecewise.conclude _
  · trivial

theorem load (piecewise : Piecewise kind) (files : FileSystem) (path : String) : (load files path).Each kind := by
  unfold Course.load
  split
  · trivial
  · refine each_bind (piecewise.entry _) fun ending => ?_
    split
    · trivial
    · exact piecewise.each_look fun _ _ => trivial
    · trivial
    · exact piecewise.each_look fun _ _ => trivial

theorem call (piecewise : Piecewise kind) (name : String) (args : List Json) : (call name args).Each kind := by
  refine each_bind (piecewise.entry _) fun ending => ?_
  split
  · trivial
  · exact piecewise.each_look fun _ _ => trivial
  · trivial
  · exact piecewise.each_look fun _ _ => trivial
  · exact piecewise.each_look fun _ _ => trivial

theorem execution (piecewise : Piecewise kind) (files : FileSystem) (path : String) (args : List String) :
    (execution files path args).Each kind := by
  intro executor context
  refine ⟨piecewise.announce .., each_bind (piecewise.load files path) fun load => ?_⟩
  cases load with
  | none => trivial
  | some load =>
    refine piecewise.each_look fun executor context => ?_
    split
    · trivial
    · exact each_map (piecewise.call _ _) _

theorem handling (piecewise : Piecewise kind) (signal : Signal) : (handling signal).Each kind := by
  refine each_bind (each_map (piecewise.entered _) _) fun found => ?_
  match found with
  | none => trivial
  | some false => trivial
  | some true => exact each_map (each_map (piecewise.call _ _) _) _

/-- **Every job that a host asks for makes such changes only.** -/
theorem demand (piecewise : Piecewise kind) {demand : ScriptProcess.Demand} {process : ScriptProcess}
    {course : Course (Option (Except ProcessError ScriptProcess.Feedback))}
    (asked : demand.course? process = some course) : course.Each kind := by
  unfold ScriptProcess.Demand.course? at asked
  split at asked
  · cases asked
    exact each_map (piecewise.execution _ _ _) _
  · cases asked
    exact each_map (each_map (piecewise.load _ _) _) _
  · cases asked
    exact each_map (each_map (piecewise.call _ _) _) _
  · split at asked
    · cases asked
      exact each_map (piecewise.handling _) _
    · cases asked
  · cases asked

end Piecewise

end ScriptKernel
