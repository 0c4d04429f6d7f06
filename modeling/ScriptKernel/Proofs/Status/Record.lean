/-
**Everything that is kept or reported comes back from its record.**

* `ProcessEvent.restores`, `ProcessSpec.restores` and the others: the record of a value is restored as the value;
* `Restored`: what holds of a kind of values: each comes back from its record as a value and as a text, the
  fields of each object in any order, and no two of them share a record;
* `records_restored`: all kinds;
* `records_lost`: results of a handler that do not come back from a text.
-/

import ScriptKernel.Proofs.Error.Record
import ScriptKernel.Status.Record

set_option autoImplicit false

namespace ScriptKernel

open Json (Decoder Shape)

/-! ### Statuses and events -/

/-- An exit code has its width. -/
def ExitStatus.Fits : ExitStatus → Prop
  | .exited code => ExitCode.Fits code
  | .pending | .faulted _ => True

theorem ExitStatus.restores {status : ExitStatus} (fits : status.Fits) :
    decode.Restores 2 status.toJson status := by
  have apart : tagging.content ≠ tagging.tag := by decide
  cases status with
  | pending => exact Decoder.adjacent_restores_name rfl
  | exited code =>
    have content := Decoder.map_restores (exitCodeDecoder_restores fits) ExitStatus.exited
    exact Decoder.adjacent_restores apart rfl content
  | faulted message => exact tagged_text_restores apart rfl message

namespace ProcessEvent

/-- An exit code has its width. -/
def Fits : ProcessEvent → Prop
  | .exited code => ExitCode.Fits code
  | .started | .faulted _ | .terminated => True

theorem restores {event : ProcessEvent} (fits : event.Fits) : decode.Restores 3 event.toJson event := by
  cases event with
  | started => exact Decoder.internal_restores_name (by decide) rfl
  | faulted message =>
    have record : faultedShape.decode.Restores 2 (Json.object [("message", .text message)]) (.faulted message) :=
      Shape.decode_restores Nat.one_pos (.cons (keeps_text rfl message) .nil) (by simp) (by simp) rfl
    exact Decoder.internal_restores_record (by simp) rfl record
  | exited code =>
    have record : exitedShape.decode.Restores 2 (Json.object [("code", Json.int code)]) (.exited code) :=
      Shape.decode_restores Nat.one_pos
        (.cons (Shape.keeps_of_restores rfl (exitCodeDecoder_restores fits)) .nil) (by simp) (by simp) rfl
    exact Decoder.internal_restores_record (by simp) rfl record
  | terminated => exact Decoder.internal_restores_name (by decide) rfl

end ProcessEvent

/-! ### Specifications and infos -/

theorem texts_restores (items : List String) :
    (Decoder.list Decoder.text).Restores 2 (Json.texts items) items := by
  refine Decoder.list_restores Nat.one_pos ?_
  rw [List.forall₂_map_left_iff, List.forall₂_same]
  exact fun item _ => Decoder.text_restores _ item

theorem ProcessState.restores (state : ProcessState) : decode.Restores 1 state.toJson state :=
  Decoder.oneOf_restores (by cases state <;> rfl)

/-- The number of a specification has its width, and the names of its variables ascend, as they are kept. -/
structure ProcessSpec.Fits (spec : ProcessSpec) : Prop where
  pid : Pid.Fits spec.pid
  envp : (spec.envp.map Prod.fst).Pairwise (· < ·)

theorem ProcessSpec.restores {spec : ProcessSpec} (fits : spec.Fits) : decode.Restores 3 spec.toJson spec := by
  have environment : (Decoder.table Decoder.text).Restores 2 (Json.textFields spec.envp) spec.envp :=
    Decoder.table_restores Nat.one_pos fits.envp fun entry _ => Decoder.text_restores _ entry.2
  refine Shape.decode_restores Nat.two_pos (.cons (keeps_pid rfl fits.pid)
    (.cons (Shape.keeps_of_restores rfl ((Decoder.text_restores "path string" spec.path).mono (by decide)))
      (.cons (Shape.keeps_of_restores rfl (texts_restores spec.args))
        (.cons (Shape.keeps_of_restores rfl environment) .nil)))) (by simp) (by simp) rfl

/-- The numbers of an info have their widths. -/
structure ProcessInfo.Fits (info : ProcessInfo) : Prop where
  pid : Pid.Fits info.pid
  status : info.status.Fits

theorem ProcessInfo.restores {info : ProcessInfo} (fits : info.Fits) : decode.Restores 3 info.toJson info := by
  refine Shape.decode_restores Nat.two_pos (.cons (keeps_pid rfl fits.pid)
    (.cons (Shape.keeps_of_restores rfl ((Decoder.text_restores "path string" info.path).mono (by decide)))
      (.cons (Shape.keeps_of_restores rfl (texts_restores info.args))
        (.cons (Shape.keeps_of_restores rfl (info.state.restores.mono (by decide)))
          (.cons (Shape.keeps_of_restores rfl (ExitStatus.restores fits.status))
            (.cons (Shape.keeps_of_restores rfl (texts_restores info.symbols)) .nil)))))) (by simp) (by simp) rfl

/-! ### Diagnostics -/

theorem DiagnosticKind.restores (kind : DiagnosticKind) : decode.Restores 1 kind.toJson kind :=
  Decoder.oneOf_restores (by cases kind <;> rfl)

theorem Diagnostic.restores {diagnostic : Diagnostic} (fits : Pid.Fits diagnostic.pid) :
    decode.Restores 2 diagnostic.toJson diagnostic :=
  Shape.decode_restores Nat.one_pos (.cons (keeps_text rfl diagnostic.traceId) (.cons (keeps_pid rfl fits)
    (.cons (Shape.keeps_of_restores rfl diagnostic.kind.restores)
      (.cons (keeps_text rfl diagnostic.message) .nil)))) (by simp) (by simp) rfl

/-! ### All kinds -/

/-- **Values come back from their records**: a record whose numbers fit is restored as a value and, if it is
legible, as a text, the fields of each object in any order; and no two values have a record in common. -/
structure Restored {α : Type} (decode : Decoder α) (toJson : α → Json) (Fits Legible : α → Prop) : Prop where
  fromValue : ∀ (value : α) (record : Json), Fits value → record.Reordered (toJson value) →
    decode.ofJson record = .ok value
  fromText : ∀ (value : α) (record : Json), Fits value → Legible value → record.Reordered (toJson value) →
    decode.run record.print = .ok value
  unshared : ∀ (first second : α) (record : Json), Fits first → Fits second → record.Reordered (toJson first) →
    record.Reordered (toJson second) → first = second

namespace Restored

variable {α : Type} {decode : Decoder α} {toJson : α → Json} {Fits Legible : α → Prop}

/-- What is taken as a value, and is plain where it is legible, comes back. -/
theorem of_takes (takes : ∀ value, Fits value → decode.TakesAny (toJson value) value)
    (plain : ∀ value, Fits value → Legible value → (toJson value).Plain Json.Tree.depthLimit) :
    Restored decode toJson Fits Legible where
  fromValue value _ fits same := (takes value fits).ofJson same
  fromText value record fits legible same := by
    have restores : decode.Restores Json.Tree.depthLimit (toJson value) value :=
      ⟨takes value fits, plain value fits legible⟩
    exact restores.run_print (Nat.le_refl _) same
  unshared first second record fitsFirst fitsSecond sameFirst sameSecond := by
    have read := (takes first fitsFirst).ofJson sameFirst
    rw [(takes second fitsSecond).ofJson sameSecond] at read
    exact (Except.ok.inj read).symm

/-- What is restored from a record that nests little comes back. -/
theorem of_restores {limit : Nat} (few : limit ≤ Json.Tree.depthLimit)
    (restores : ∀ value, Fits value → decode.Restores limit (toJson value) value) :
    Restored decode toJson Fits fun _ => True :=
  of_takes (fun value fits => (restores value fits).takes) fun value fits _ =>
    (restores value fits).plain.mono few

end Restored

/-- Everything that is kept or reported comes back from its record. -/
structure RecordsRestored : Prop where
  engineError : Restored EngineError.decode EngineError.toJson (fun _ => True) fun _ => True
  queueError : Restored QueueError.decode QueueError.toJson (fun _ => True) fun _ => True
  signalError : Restored SignalError.decode SignalError.toJson SignalError.Fits fun _ => True
  scriptError : Restored ScriptError.decode ScriptError.toJson ScriptError.Fits fun _ => True
  processError : Restored ProcessError.decode ProcessError.toJson ProcessError.Fits fun _ => True
  syscallError : Restored SyscallError.decode SyscallError.toJson (fun _ => True) fun _ => True
  exitStatus : Restored ExitStatus.decode ExitStatus.toJson ExitStatus.Fits fun _ => True
  processEvent : Restored ProcessEvent.decode ProcessEvent.toJson ProcessEvent.Fits fun _ => True
  signalOutcome : Restored SignalOutcome.decode SignalOutcome.toJson SignalOutcome.Ordered SignalOutcome.Legible
  processSpec : Restored ProcessSpec.decode ProcessSpec.toJson ProcessSpec.Fits fun _ => True
  processInfo : Restored ProcessInfo.decode ProcessInfo.toJson ProcessInfo.Fits fun _ => True
  diagnostic : Restored Diagnostic.decode Diagnostic.toJson (fun value => Pid.Fits value.pid) fun _ => True

/-- **Every value that is kept or reported comes back from its record**, as a value and as a text, with the
fields of each object in any order, and no two values of a kind have a record in common. The result of a
handler, which may be any value, comes back from a text if it nests at most one hundred and twenty-six deep and
each of its numbers is read from its own text. -/
theorem records_restored : RecordsRestored where
  engineError := .of_restores (by decide) fun error _ => error.restores
  queueError := .of_restores (by decide) fun error _ => error.restores
  signalError := .of_restores (by decide) fun _ => SignalError.restores
  scriptError := .of_restores (by decide) fun _ => ScriptError.restores
  processError := .of_restores (by decide) fun _ => ProcessError.restores
  syscallError := .of_restores (by decide) fun error _ => error.restores
  exitStatus := .of_restores (by decide) fun _ => ExitStatus.restores
  processEvent := .of_restores (by decide) fun _ => ProcessEvent.restores
  signalOutcome := .of_takes (fun _ => SignalOutcome.takes) fun _ _ => SignalOutcome.plain
  processSpec := .of_restores (by decide) fun _ => ProcessSpec.restores
  processInfo := .of_restores (by decide) fun _ => ProcessInfo.restores
  diagnostic := .of_restores (by decide) fun _ => Diagnostic.restores

/-- A timeout inside of a process error, written as it is declared, and a result with a fraction. -/
theorem records_restored_timeout :
    let error := ProcessError.script (.timeout 7 "main" 250)
    let details : Json := .members
      [("error_type", .text "timeout"),
        ("details", .members [("pid", Json.nat 7), ("target", .text "main"), ("limit_ms", Json.nat 250)])]
    let record : Json := .members [("error_type", .text "script"), ("details", details)]
    let outcome := SignalOutcome.handled (.members [("load", .number (.double (Double.ofDecimal false 5 (-1))))])
    ProcessError.decode.run record.print = .ok error ∧ ProcessError.decode.ofJson record = .ok error ∧
      SignalOutcome.decode.run outcome.toJson.print = .ok outcome := by
  intro error details record outcome
  have fits : error.Fits := ⟨by decide, by decide⟩
  have inside : details.Reordered (ScriptError.timeout 7 "main" 250).toJson :=
    .to_object (by decide) (.cons (.text _) (.cons (.to_object (by decide)
      (.cons (.number _) (.cons (.text _) (.cons (.number _) .nil))) (.refl _)) .nil)) (.refl _)
  have declared : record.Reordered error.toJson :=
    .to_object (by decide) (.cons (.text _) (.cons inside .nil)) (.refl _)
  have ordered : outcome.Ordered := .members (by simp) (by simp [Json.Ordered.number])
  have legible : outcome.Legible := by
    refine ⟨.members ?_, by decide⟩
    simpa using Json.Readable.number (by decide +kernel)
  obtain restored := records_restored
  exact ⟨restored.processError.fromText error record fits trivial declared,
    restored.processError.fromValue error record fits declared,
    restored.signalOutcome.fromText outcome _ ordered legible (.refl _)⟩

/-! ### What a text loses -/

/-- Lists one inside the other, so many around an empty one. -/
def nest : Nat → Json
  | 0 => .list []
  | count + 1 => .list [nest count]

theorem nest_depth (count : Nat) : (nest count).depth = count + 1 := by
  induction count with
  | zero => rfl
  | succ count ih => simp [nest, Json.depth, Json.itemsDepth, ih]

theorem nest_ordered (count : Nat) : (nest count).Ordered := by
  induction count with
  | zero => exact .list (by simp)
  | succ count ih => exact .list (by simpa using ih)

theorem nest_readable (count : Nat) : (nest count).Readable := by
  induction count with
  | zero => exact .list (by simp)
  | succ count ih => exact .list (by simpa using ih)

/-- The number that a handler resulted in, where an answer holds one. -/
def resultNumber? : Except Json.Fault SignalOutcome → Option Json.Number
  | .ok (.handled (.number value)) => some value
  | _ => none

/-- Two results of a handler, each in order, that do not come back from the text of their record: lists that
nest one hundred and twenty-seven deep, whose text is refused, and a fraction whose digits are read as those
of its neighbour. -/
theorem records_lost :
    let deep := SignalOutcome.handled (nest 126)
    let small := SignalOutcome.handled (.number (.double (Double.ofDecimal false 1 (-23))))
    (deep.Ordered ∧ SignalOutcome.decode.run deep.toJson.print ≠ .ok deep) ∧
      (small.Ordered ∧ SignalOutcome.decode.run small.toJson.print ≠ .ok small) := by
  intro deep small
  refine ⟨⟨nest_ordered 126, ?_⟩, ⟨.number _, ?_⟩⟩
  · obtain ⟨fault, refused⟩ := SignalOutcome.run_deep (nest_readable 126) (nest_depth 126).ge
    intro same
    rw [same] at refused
    cases refused
  · intro same
    have other : resultNumber? (SignalOutcome.decode.run small.toJson.print) ≠
        some (.double (Double.ofDecimal false 1 (-23))) := by decide +kernel
    rw [same] at other
    exact other rfl

end ScriptKernel
