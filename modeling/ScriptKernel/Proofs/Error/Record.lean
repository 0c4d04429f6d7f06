/-
**Errors and signals come back from their records.**

* `Fits`: the numbers an error carries have the widths of their kinds;
* `ScriptError.restores`, `ProcessError.restores` and the others: the record of an error is restored as the
  error, whichever of its name and its content comes first.
-/

import ScriptKernel.Error.Record
import ScriptKernel.Proofs.Json.Restoring

set_option autoImplicit false

namespace ScriptKernel

open Json (Decoder Shape Member)

/-! ### Numbers -/

/-- A process number of sixteen bits. -/
def Pid.Fits (pid : Pid) : Prop := pid < Nat.pow 2 16

instance (pid : Pid) : Decidable (Pid.Fits pid) := inferInstanceAs (Decidable (pid < Nat.pow 2 16))

/-- An exit code of thirty-two bits with a sign. -/
def ExitCode.Fits (code : ExitCode) : Prop := -2147483648 ≤ code ∧ code < 2147483648

theorem pidDecoder_restores {pid : Pid} (fits : Pid.Fits pid) : pidDecoder.Restores 1 (Json.nat pid) pid :=
  Decoder.natural_restores _ fits (by decide)

theorem exitCodeDecoder_restores {code : ExitCode} (fits : ExitCode.Fits code) :
    exitCodeDecoder.Restores 1 (Json.int code) code :=
  Decoder.integer_restores _ fits (by decide)

/-! ### Signals -/

/-- A signal number of thirty-two bits. -/
def SignalError.Fits : SignalError → Prop
  | .invalid number => number < Nat.pow 2 32

theorem SignalError.restores {error : SignalError} (fits : error.Fits) :
    decode.Restores 2 error.toJson error := by
  cases error with
  | invalid number =>
    have restores := Decoder.map_restores (Decoder.natural_restores "u32" fits (by decide)) SignalError.invalid
    refine ⟨Decoder.choice_takes_key rfl restores.takes, .object Nat.one_pos (by simp) ?_⟩
    simpa using restores.plain

/-! ### Engines, host functions and queues -/

/-- A variant whose content is a text is restored from it. -/
theorem tagged_text_restores {α : Type} {tagging : Json.Tagging} {variants : List (String × Json.Content α)}
    {name : String} {make : String → α} (apart : tagging.content ≠ tagging.tag)
    (found : Json.lookup? name variants = some (textContent make)) (value : String) :
    (Decoder.adjacent tagging variants).Restores 2 (tagged tagging name (some (.text value))) (make value) :=
  Decoder.adjacent_restores apart found
    (Decoder.map_restores (Decoder.text_restores "a string" value) make)

/-- A variant whose content is a record of named fields is restored from them, in any order. -/
theorem tagged_record_restores {ρ α : Type} {tagging : Json.Tagging} {variants : List (String × Json.Content α)}
    {name : String} {shape : Shape ρ α} {limit : Nat} {fields : List (String × Json)} {puts : List (ρ → ρ)}
    {value : α} (apart : tagging.content ≠ tagging.tag)
    (found : Json.lookup? name variants = some (.record shape.decodeNamed)) (positive : 0 < limit)
    (keeps : List.Forall₂ (shape.Keeps limit) fields puts) (names : (fields.map Prod.fst).Nodup)
    (commute : ∀ first ∈ puts, ∀ second ∈ puts, ∀ record, second (first record) = first (second record))
    (built : shape.build (puts.foldl (fun record put => put record) shape.start) = .ok value) :
    (Decoder.adjacent tagging variants).Restores (limit + 2)
      (tagged tagging name (some (Json.object fields))) value := by
  have record := Shape.decode_restores positive keeps names commute built
  exact Decoder.adjacent_restores apart found (Shape.decodeNamed_restores record)

section Fields

variable {ρ α : Type} {shape : Shape ρ α} {limit : Nat} {name : String}

theorem keeps_text {store : String → ρ → ρ}
    (found : shape.fields.find? (·.name == name) = some (.of name Decoder.text store)) (value : String) :
    shape.Keeps (limit + 1) (name, .text value) (store value) :=
  Shape.keeps_of_restores found ((Decoder.text_restores _ value).mono (Nat.le_add_left 1 limit))

theorem keeps_pid {store : Pid → ρ → ρ}
    (found : shape.fields.find? (·.name == name) = some (.of name pidDecoder store)) {pid : Pid}
    (fits : Pid.Fits pid) : shape.Keeps (limit + 1) (name, Json.nat pid) (store pid) :=
  Shape.keeps_of_restores found ((pidDecoder_restores fits).mono (Nat.le_add_left 1 limit))

end Fields

theorem EngineError.restores (error : EngineError) : decode.Restores 2 error.toJson error := by
  have apart : tagging.content ≠ tagging.tag := by decide
  cases error with
  | creation reason => exact tagged_text_restores apart rfl reason
  | destroyed => exact Decoder.adjacent_restores_name rfl
  | conversion reason => exact tagged_text_restores apart rfl reason
  | internal reason => exact tagged_text_restores apart rfl reason

theorem SyscallError.restores (error : SyscallError) : decode.Restores 2 error.toJson error := by
  have apart : tagging.content ≠ tagging.tag := by decide
  cases error with
  | badFd value => exact tagged_text_restores apart rfl value
  | invalidArgument reason => exact tagged_text_restores apart rfl reason
  | unavailable reason => exact tagged_text_restores apart rfl reason

theorem QueueError.restores (error : QueueError) : decode.Restores 2 error.toJson error := by
  have apart : tagging.content ≠ tagging.tag := by decide
  cases error with
  | closed => exact Decoder.adjacent_restores_name rfl
  | reentrant => exact Decoder.adjacent_restores_name rfl
  | spawn reason => exact tagged_text_restores apart rfl reason

/-! ### Scripts -/

namespace ScriptError

/-- The numbers of a script error have the widths of their kinds. -/
def Fits : ScriptError → Prop
  | .load .. | .evaluation .. => True
  | .symbolNotFound pid _ | .call pid _ _ | .cancelled pid _ | .engine pid _ => Pid.Fits pid
  | .timeout pid _ limit => Pid.Fits pid ∧ limit < Nat.pow 2 64
  | .exited pid code => Pid.Fits pid ∧ ExitCode.Fits code

theorem restores {error : ScriptError} (fits : error.Fits) : decode.Restores 4 error.toJson error := by
  have apart : tagging.content ≠ tagging.tag := by decide
  cases error with
  | load path reason =>
    exact tagged_record_restores apart rfl Nat.two_pos
      (.cons (keeps_text rfl path) (.cons (keeps_text rfl reason) .nil)) (by simp) (by simp) rfl
  | evaluation path exception =>
    exact tagged_record_restores apart rfl Nat.two_pos
      (.cons (keeps_text rfl path) (.cons (keeps_text rfl exception) .nil)) (by simp) (by simp) rfl
  | symbolNotFound pid name =>
    exact tagged_record_restores apart rfl Nat.two_pos
      (.cons (keeps_pid rfl fits) (.cons (keeps_text rfl name) .nil)) (by simp) (by simp) rfl
  | call pid name exception =>
    exact tagged_record_restores apart rfl Nat.two_pos
      (.cons (keeps_pid rfl fits) (.cons (keeps_text rfl name) (.cons (keeps_text rfl exception) .nil)))
      (by simp) (by simp) rfl
  | timeout pid target limit =>
    have limited := Decoder.natural_restores "u64" fits.2 (Nat.le_refl 64)
    exact tagged_record_restores apart rfl Nat.two_pos
      (.cons (keeps_pid rfl fits.1) (.cons (keeps_text rfl target)
        (.cons (Shape.keeps_of_restores rfl (limited.mono (by decide))) .nil)))
      (by simp) (by simp) rfl
  | cancelled pid target =>
    exact tagged_record_restores apart rfl Nat.two_pos
      (.cons (keeps_pid rfl fits) (.cons (keeps_text rfl target) .nil)) (by simp) (by simp) rfl
  | exited pid code =>
    have coded := (exitCodeDecoder_restores fits.2).mono (Nat.le_succ 1)
    exact tagged_record_restores apart rfl Nat.two_pos
      (.cons (keeps_pid rfl fits.1) (.cons (Shape.keeps_of_restores rfl coded) .nil)) (by simp) (by simp) rfl
  | engine pid source =>
    exact tagged_record_restores apart rfl Nat.two_pos
      (.cons (keeps_pid rfl fits) (.cons (Shape.keeps_of_restores rfl source.restores) .nil))
      (by simp) (by simp) rfl

end ScriptError

/-! ### Processes -/

namespace ProcessError

/-- The numbers of a process error have the widths of their kinds. -/
def Fits : ProcessError → Prop
  | .construction pid _ | .terminated pid | .notFound pid => Pid.Fits pid
  | .pidExhausted | .queue _ => True
  | .script error => error.Fits
  | .signal error => error.Fits

theorem restores {error : ProcessError} (fits : error.Fits) : decode.Restores 5 error.toJson error := by
  have apart : tagging.content ≠ tagging.tag := by decide
  cases error with
  | construction pid reason =>
    have record : decode.Restores 3 (construction pid reason).toJson (construction pid reason) :=
      tagged_record_restores apart rfl Nat.one_pos
        (.cons (keeps_pid rfl fits) (.cons (keeps_text rfl reason) .nil)) (by simp) (by simp) rfl
    exact record.mono (by decide)
  | terminated pid =>
    have content := Decoder.map_restores (pidDecoder_restores fits) ProcessError.terminated
    exact Decoder.Restores.mono (Decoder.adjacent_restores apart rfl content) (by decide)
  | notFound pid =>
    have content := Decoder.map_restores (pidDecoder_restores fits) ProcessError.notFound
    exact Decoder.Restores.mono (Decoder.adjacent_restores apart rfl content) (by decide)
  | pidExhausted => exact Decoder.Restores.mono (Decoder.adjacent_restores_name rfl) (by decide)
  | queue error =>
    have content := Decoder.map_restores error.restores ProcessError.queue
    exact Decoder.Restores.mono (Decoder.adjacent_restores apart rfl content) (by decide)
  | script error =>
    have content := Decoder.map_restores (ScriptError.restores fits) ProcessError.script
    exact Decoder.adjacent_restores apart rfl content
  | signal error =>
    have content := Decoder.map_restores (SignalError.restores fits) ProcessError.signal
    exact Decoder.Restores.mono (Decoder.adjacent_restores apart rfl content) (by decide)

end ProcessError

/-! ### Outcomes of signals -/

namespace SignalOutcome

/-- The result of a handler is in order, as a value of the host is. -/
def Ordered : SignalOutcome → Prop
  | .handled result => result.Ordered
  | .ignored | .terminated => True

/-- The result of a handler is one whose text reads back: each of its numbers is read from its own text, and it
leaves room for the object around it. -/
def Legible : SignalOutcome → Prop
  | .handled result => result.Plain 127
  | .ignored | .terminated => True

theorem takes {outcome : SignalOutcome} (ordered : outcome.Ordered) :
    decode.TakesAny outcome.toJson outcome := by
  cases outcome with
  | handled result =>
    exact Decoder.choice_takes_key rfl (Decoder.map_takes_any (Decoder.any_takes ordered) SignalOutcome.handled)
  | ignored => exact Decoder.choice_takes_name rfl
  | terminated => exact Decoder.choice_takes_name rfl

theorem plain {outcome : SignalOutcome} (legible : outcome.Legible) : outcome.toJson.Plain 128 := by
  cases outcome with
  | handled result =>
    have inside : result.Plain 127 := legible
    exact .object (by decide) (by simp) (by simpa using inside)
  | ignored => exact (Json.Plain.text _).mono (by decide)
  | terminated => exact (Json.Plain.text _).mono (by decide)

/-- A result that leaves no room for the object around it is refused wherever a text holds it. -/
theorem decode_deep {result : Json} (deep : 127 ≤ result.depth) {tree : Json.Tree}
    (spells : tree.Spells (.members [("handled", result)])) :
    ∃ fault, decode (.stream Json.Tree.depthLimit) tree = .error fault := by
  cases spells with
  | members opening after spelled =>
    cases spelled with
    | @cons _ between inner _ _ _ content others =>
      cases others
      have flawed : inner.flaw? 127 ≠ none := fun none =>
        absurd ((content.flaw 127 (by decide)).mp none) (Nat.not_lt.mpr deep)
      obtain ⟨flaw, found⟩ := Option.ne_none_iff_exists'.mp flawed
      have entered : (Json.Source.stream Json.Tree.depthLimit).enter opening = .ok (.stream 127) := rfl
      have apart : (Json.Source.stream 127).setApart inner = .error (.malformed flaw) := by
        simp only [Json.Source.setApart, found, Json.malformed]
      have keyed : Decoder.keyedVariant
          [("handled", .holding fun source tree => (Decoder.any source tree).map SignalOutcome.handled),
            ("ignored", .bare .ignored), ("terminated", .bare .terminated)]
          (.stream 127) "handled" inner = .error (.malformed flaw) := by
        show (Decoder.any (.stream 127) inner).map SignalOutcome.handled = _
        rw [Decoder.any, apart]
        rfl
      refine ⟨.malformed flaw, ?_⟩
      unfold decode Decoder.choice
      simp only [entered, keyed, bind, Except.bind]

/-- A readable result that leaves no room for the object around it does not come back from its text. -/
theorem run_deep {result : Json} (readable : result.Readable) (deep : 127 ≤ result.depth) :
    ∃ fault, decode.run (SignalOutcome.handled result).toJson.print = .error fault := by
  have inside : (Json.members [("handled", result)]).Readable := .members (by simpa using readable)
  have spells : (Json.Tree.read (handled result).toJson.chars).Spells (.members [("handled", result)]) :=
    (Json.Tree.read_chars inside).spells
  obtain ⟨fault, failed⟩ := decode_deep deep spells
  refine ⟨fault, ?_⟩
  unfold Decoder.run Json.print
  simp only [String.toList_ofList, failed, bind, Except.bind]

end SignalOutcome

end ScriptKernel
