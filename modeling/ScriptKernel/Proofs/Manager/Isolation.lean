/-
**Processes of one manager do not disturb each other.**

* `Request.To`: the requests to the process of a number, by its manager or by those who hold the process;
* `Session.answer`, `Session.answers`, `Session.run`: what requests are answered, and the session after them;
* `Session.Alike`: two sessions that the process of a number cannot tell apart: it stands the same in both;
* `Alike.answer`, `Alike.run`: **requests to that process are answered the same in both**, and leave them alike;
* `Session.since`: a session in which no more has happened than that time has passed as in another one;
* `Session.Isolated`, `session_isolated`: **whatever is asked of one process is, for another one, as if it had not
  been asked**, and adds nothing that does not bear its number.
-/

import ScriptKernel.Proofs.Manager.Session
import ScriptKernel.Proofs.Process.Alike
import ScriptKernel.Proofs.Process.Marked

set_option autoImplicit false

namespace ScriptKernel

/-- An answer that is passed on in another form. -/
theorem Agree.map {α β γ δ : Type} {alike : γ → γ → Prop} {first second : α × β × γ}
    (agree : Agree alike first second) (convert : α → δ) :
    Agree alike (convert first.1, first.2) (convert second.1, second.2) := by
  cases agree with
  | intro related => exact .intro related

/-! ### Requests to one process -/

/-- **The requests to the process of a number.** -/
inductive Request.To (pid : Pid) : Request → Prop
  | execute (files : FileSystem) : To pid (.execute files pid)
  | invoke (name : String) (args : List Json) : To pid (.invoke pid name args)
  | signal (number : Nat) : To pid (.signal pid number)
  | terminate : To pid (.terminate pid)
  | directly (operation : Operation) : To pid (.directly pid operation)

/-- What a request may be answered. -/
def Request.Answer : Request → Type
  | .spawn .. => Except ProcessError Pid
  | .execute .. | .terminate _ => Except ProcessError Unit
  | .invoke .. => Except ProcessError (Option Json)
  | .signal .. => Except ProcessError SignalOutcome
  | .reap => List Pid
  | .shutdownAll => Unit
  | .directly _ operation => Except ProcessError operation.Answer

namespace Session

/-- What a request is answered. -/
def answer (session : Session) : (request : Request) → request.Answer
  | .spawn path args environment =>
    (session.manager.spawn session.site path args environment).1
  | .execute files pid => (session.manager.execute session.site files pid).1
  | .invoke pid name args => (session.manager.invoke session.site pid name args).1
  | .signal pid number => (session.manager.signal session.site pid number).1
  | .terminate pid => (session.manager.terminate session.site pid).1
  | .reap => (session.manager.reap session.site).1
  | .shutdownAll => ()
  | .directly pid operation =>
    (session.manager.onProcess session.site pid fun process site =>
      (operation.answer process site, operation.perform process site)).1

/-- The session after some requests. -/
def run (session : Session) : List Request → Session
  | [] => session
  | request :: later => (session.handle request).run later

/-- What some requests are answered, one after the other. -/
def answers (session : Session) : List Request → List ((request : Request) × request.Answer)
  | [] => []
  | request :: later => ⟨request, session.answer request⟩ :: (session.handle request).answers later

/-! ### Sessions that a process cannot tell apart -/

/-- **Two sessions that the process of a number cannot tell apart**: it is the same in both, and so is what it can
tell of the place where it runs. -/
structure Alike (pid : Pid) (first second : Session) : Prop where
  process : first.manager.get pid = second.manager.get pid
  site : Site.Alike pid first.site second.site

variable {terminal : TerminalRef} {pid other : Pid} {first second session : Session}

/-- **What is done with the process ends the same in both**, and leaves them alike. -/
theorem Alike.onProcess {α : Type} (alike : Alike pid first second)
    (act : ScriptProcess → Site → α × ScriptProcess × Site)
    (agree : ∀ process, first.manager.get pid = some process →
      Agree (Site.Alike pid) (act process first.site) (act process second.site)) :
    (first.manager.onProcess first.site pid act).1 = (second.manager.onProcess second.site pid act).1 ∧
      Alike pid (first.holding (first.manager.onProcess first.site pid act).2)
        (second.holding (second.manager.onProcess second.site pid act).2) := by
  cases known : first.manager.get pid with
  | none =>
    have known' := alike.process.symm.trans known
    rw [Manager.onProcess_none known, Manager.onProcess_none known']
    exact ⟨rfl, alike⟩
  | some process =>
    have known' := alike.process.symm.trans known
    rw [Manager.onProcess_some known, Manager.onProcess_some known']
    refine (agree process known).both fun answer left here there site => ⟨rfl, ?_, site⟩
    show (first.manager.put pid left).get pid = (second.manager.put pid left).get pid
    rw [Manager.get_put, Manager.get_put, Function.update_self, Function.update_self]

/-- The answer of what is done directly matters to nobody else. -/
theorem handle_directly (session : Session) (pid : Pid) (operation : Operation) :
    session.handle (.directly pid operation) =
      session.holding (session.manager.onProcess session.site pid fun process site =>
        (operation.answer process site, operation.perform process site)).2 := by
  dsimp only [handle]
  cases known : session.manager.get pid with
  | none => rw [Manager.onProcess_none known, Manager.onProcess_none known]
  | some process => rw [Manager.onProcess_some known, Manager.onProcess_some known]

/-- **A request to the process is answered the same in both sessions**, and leaves them alike. -/
theorem Alike.answer (alike : Alike pid first second) (sound : first.Sound terminal .standard)
    (sound' : second.Sound terminal .standard) {request : Request} (addressed : request.To pid) :
    first.answer request = second.answer request ∧
      Alike pid (first.handle request) (second.handle request) := by
  have bound (process : ScriptProcess) (known : first.manager.get pid = some process) :
      process.executor.table = .standard := (sound.accounted pid process known).table
  cases addressed with
  | execute files =>
    exact alike.onProcess _ fun process known =>
      ScriptProcess.execute_agree (bound process known) alike.site files
  | invoke name args =>
    exact alike.onProcess _ fun process known =>
      (ScriptProcess.runReporting_agree (ScriptProcess.steady_invoke name args)
        (bound process known) alike.site).map Except.toOption
  | signal number =>
    obtain ⟨answered, left⟩ := alike.onProcess
      (fun process site => process.signal site number) fun process known =>
        ScriptProcess.signal_agree (bound process known) alike.site number
    exact ⟨congrArg (Except.bind · id) answered, left⟩
  | directly operation =>
    rw [handle_directly, handle_directly]
    exact alike.onProcess _ fun process known => operation.agree (bound process known) alike.site
  | terminate =>
    dsimp only [Session.answer, handle]
    cases known : first.manager.get pid with
    | none =>
      have known' := alike.process.symm.trans known
      rw [Manager.terminate_none known, Manager.terminate_none known']
      exact ⟨rfl, alike⟩
    | some process =>
      have known' := alike.process.symm.trans known
      rw [Manager.terminate_some known, Manager.terminate_some known']
      refine ScriptProcess.both_silent (process.terminate_agree alike.site)
        fun left here there site => ⟨rfl, ?_, site⟩
      show (first.manager.remove pid).get pid = (second.manager.remove pid).get pid
      rw [sound.ordered.get_remove, sound'.ordered.get_remove, Function.update_self,
        Function.update_self]

/-- **So are requests one after the other.** -/
theorem Alike.run (alike : Alike pid first second) (sound : first.Sound terminal .standard)
    (sound' : second.Sound terminal .standard) {requests : List Request}
    (addressed : ∀ request ∈ requests, request.To pid) :
    first.answers requests = second.answers requests ∧
      Alike pid (first.run requests) (second.run requests) := by
  induction requests generalizing first second with
  | nil => exact ⟨rfl, alike⟩
  | cons request later ih =>
    obtain ⟨answered, left⟩ := alike.answer sound sound' (addressed request List.mem_cons_self)
    obtain ⟨rest, after⟩ := ih left
      (sound.handle SyscallTable.standard_modest SyscallTable.standard_reticent request)
      (sound'.handle SyscallTable.standard_modest SyscallTable.standard_reticent request)
      fun further here => addressed further (List.mem_cons_of_mem _ here)
    refine ⟨?_, after⟩
    unfold answers
    rw [answered, rest]

/-! ### What a request to another process does -/

/-- **What is done with one process** adds what bears its number, and leaves the other processes as they are. -/
theorem onProcess_apart {α : Type} (session : Session) (different : pid ≠ other)
    (act : ScriptProcess → Site → α × ScriptProcess × Site)
    (adds : ∀ process, session.manager.get pid = some process →
      session.site.Adds pid (act process session.site).2.2) :
    let after := session.holding (session.manager.onProcess session.site pid act).2
    session.site.Adds pid after.site ∧ after.manager.get other = session.manager.get other := by
  cases known : session.manager.get pid with
  | none =>
    rw [Manager.onProcess_none known]
    exact ⟨.refl _, rfl⟩
  | some process =>
    rw [Manager.onProcess_some known]
    refine ⟨adds process known, ?_⟩
    show (session.manager.put pid _).get other = session.manager.get other
    rw [Manager.get_put, Function.update_of_ne different.symm]

/-- **A request to one process** adds what bears its number, and leaves the other processes as they are. -/
theorem Sound.apart (sound : session.Sound terminal .standard) (different : pid ≠ other)
    {request : Request} (addressed : request.To pid) :
    session.site.Adds pid (session.handle request).site ∧
      (session.handle request).manager.get other = session.manager.get other := by
  have performed (operation : Operation) (process : ScriptProcess)
      (known : session.manager.get pid = some process) :
      session.site.Adds pid (operation.perform process session.site).2 := by
    have accounted := sound.accounted pid process known
    exact (ScriptProcess.perform_marks ⟨accounted.pid, accounted.lifecyclePid⟩ accounted.table
      operation session.site).adds
  cases addressed with
  | execute files => exact session.onProcess_apart different _ (performed (.execute files))
  | invoke name args => exact session.onProcess_apart different _ (performed (.invoke name args))
  | signal number =>
    exact session.onProcess_apart different (fun process site => process.signal site number)
      (performed (.signal number))
  | directly operation => exact session.onProcess_apart different _ (performed operation)
  | terminate =>
    dsimp only [Session.handle]
    cases known : session.manager.get pid with
    | none =>
      rw [Manager.terminate_none known]
      exact ⟨.refl _, rfl⟩
    | some process =>
      rw [Manager.terminate_some known]
      refine ⟨performed .terminate process known, ?_⟩
      show (session.manager.remove pid).get other = session.manager.get other
      rw [sound.ordered.get_remove, Function.update_of_ne different.symm]

/-! ### Isolation -/

/-- A session in which no more has happened than that time has passed as it has in another one. -/
def since (session there : Session) : Session :=
  { session with
    site := { session.site with clock := there.site.clock, slices := there.site.slices } }

/-- Nothing is heard while time passes. -/
theorem Sound.since (sound : session.Sound terminal .standard) (there : Session) :
    (session.since there).Sound terminal .standard :=
  ⟨sound.terminal, sound.table, sound.ordered, fun pid process known =>
    (sound.accounted pid process known).elsewhere fun _ heard => heard⟩

/-- **A request that another process is isolated from.** What the request adds bears the number of the process that
it is sent to; the other one is the same as if no more than time had passed, and so are all answers that it gives
from then on. -/
structure Isolated (pid other : Pid) (session : Session) (request : Request) : Prop where
  adds : session.site.Adds pid (session.handle request).site
  alike : Alike other (session.handle request) (session.since (session.handle request))
  later : ∀ requests : List Request, (∀ request ∈ requests, request.To other) →
    (session.handle request).answers requests =
        (session.since (session.handle request)).answers requests ∧
      Alike other ((session.handle request).run requests)
        ((session.since (session.handle request)).run requests)

end Session

/-- **Processes do not disturb each other**: whatever is asked of one process, with the standard host functions and
any scripts, is for every other process as if it had not been asked. -/
theorem session_isolated {terminal : TerminalRef} {session : Session}
    (reached : session.Reached terminal .standard) {pid other : Pid} (different : pid ≠ other)
    {request : Request} (addressed : request.To pid) : session.Isolated pid other request := by
  have sound := reached.sound SyscallTable.standard_modest SyscallTable.standard_reticent
  obtain ⟨adds, stays⟩ := sound.apart different addressed
  have alike : Session.Alike other (session.handle request)
      (session.since (session.handle request)) := ⟨stays, adds.alike different.symm⟩
  exact ⟨adds, alike, fun requests later =>
    alike.run (sound.handle SyscallTable.standard_modest SyscallTable.standard_reticent request)
      (sound.since _) later⟩

/-- One process prints, and another one is isolated from it. -/
theorem session_isolated_of_print : ∃ session : Session,
    session.Reached ⟨some 0⟩ .standard ∧
      (session.handle (.directly 1 (.invoke "print" [.text "here"]))).site.terminals.seen 1 ⟨some 0⟩ =
        some ⟨[⟨1, .stdout, "here\n"⟩], []⟩ ∧
      session.Isolated 1 2 (.directly 1 (.invoke "print" [.text "here"])) := by
  have reached : Session.Reached ⟨some 0⟩ .standard _ :=
    .request (.spawn "second.js" [] []) (.request (.spawn "first.js" [] []) (.start {} .single))
  refine ⟨_, reached, by decide +kernel, ?_⟩
  exact session_isolated reached (by decide) (.directly _)

end ScriptKernel
