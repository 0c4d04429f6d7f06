/-
**Defaults, a file and the environment over each other.**

* `overlay_eq_ok`: a configuration comes out of the environment exactly when it is what the five variables
  make of the one before, and makes sense;
* `KernelConfig.Layered`: all there is to say of one environment: when it is accepted, what each field becomes,
  and that it changes nothing a second time;
* `KernelConfig.Filed`: what a file makes of the defaults, field by field, at the top and inside the limits of
  the engine;
* `configuration_layered`: both together.
-/

import ScriptKernel.Proofs.Config.Layer
import ScriptKernel.Proofs.Json.Fields

set_option autoImplicit false

namespace ScriptKernel

open Json (Tree Shape Member Given bind_eq_ok map_eq_ok)

/-! ### One variable -/

/-- A variable is read where it is set to a text. -/
def Variables.Legibly {α : Type} (settings : Variables) (name : String) (reads : String → α → Prop) : Prop :=
  ∀ raw, settings.text? name = some raw → ∃ value, reads (trimBlank raw) value

namespace Variables.Governs

variable {α β : Type} {settings : Variables} {name : String} {reads : String → α → Prop}
  {meant : α → β} {kept field : β}

/-- What governs a field is what is read of its variable. -/
theorem iff_parsed {parse : String → Except String α}
    (reading : ∀ text value, parse text = .ok value ↔ reads text value) :
    settings.Governs name reads meant kept field ↔
      ∃ found, settings.parsed? name parse = .ok found ∧ field = found.elim kept meant := by
  unfold Variables.Governs Variables.parsed?
  cases settings.text? name with
  | none => simp
  | some raw =>
    simp only [← reading]
    cases parse (trimBlank raw) with
    | ok value => simp
    | error reason => simp

/-- A variable that governs a field is read where it is set. -/
theorem legibly (governs : settings.Governs name reads meant kept field) :
    settings.Legibly name reads := by
  intro raw set
  unfold Variables.Governs at governs
  rw [set] at governs
  obtain ⟨value, read, -⟩ := governs
  exact ⟨value, read⟩

/-- A variable that is read where it is set governs some field. -/
theorem of_legibly (legibly : settings.Legibly name reads) (meant : α → β) (kept : β) :
    ∃ field, settings.Governs name reads meant kept field := by
  unfold Variables.Governs
  cases set : settings.text? name with
  | none => exact ⟨kept, rfl⟩
  | some raw =>
    obtain ⟨value, read⟩ := legibly raw set
    exact ⟨meant value, value, read, rfl⟩

/-- A variable governs a field in one way only, if a text is read in one way only. -/
theorem unique {parse : String → Except String α} {other : β}
    (reading : ∀ text value, parse text = .ok value ↔ reads text value)
    (governs : settings.Governs name reads meant kept field)
    (too : settings.Governs name reads meant kept other) : field = other := by
  obtain ⟨found, parsed, rfl⟩ := (iff_parsed reading).mp governs
  obtain ⟨again, parsedToo, rfl⟩ := (iff_parsed reading).mp too
  rw [parsed] at parsedToo
  rw [Except.ok.inj parsedToo]

/-- What a variable made of a field it makes of it again. -/
theorem again (governs : settings.Governs name reads meant kept field) :
    settings.Governs name reads meant field field := by
  unfold Variables.Governs at governs ⊢
  cases set : settings.text? name with
  | none => rfl
  | some raw => simpa only [set] using governs

/-- What governs a field as it is read is what is read of its variable, or what was there before. -/
theorem iff_getD {parse : String → Except String α} {kept field : α}
    (reading : ∀ text value, parse text = .ok value ↔ reads text value) :
    settings.Governs name reads id kept field ↔
      ∃ found, settings.parsed? name parse = .ok found ∧ field = found.getD kept := by
  have same : ∀ found : Option α, found.elim kept id = found.getD kept := by
    intro found
    cases found <;> rfl
  rw [iff_parsed reading]
  simp only [same]

theorem iff_size {kept field : Nat} :
    settings.Governs name (Writes (Nat.pow 2 64)) id kept field ↔
      ∃ found, settings.parsed? name parseSize = .ok found ∧ field = found.getD kept :=
  iff_getD fun _ _ => parseSize_eq_ok

theorem iff_policy {kept field : FaultPolicy} :
    settings.Governs name Names id kept field ↔
      ∃ found, settings.parsed? name parsePolicy = .ok found ∧ field = found.getD kept :=
  iff_getD fun _ _ => parsePolicy_eq_ok

end Variables.Governs

/-! ### The environment -/

/-- Each of the five variables that is set to a text is read: as a number of sixty-four bits, or as the name
of a policy. -/
structure Variables.Legible (settings : Variables) : Prop where
  memory : settings.Legibly "JSKERN_MEMORY_LIMIT" (Writes (Nat.pow 2 64))
  stack : settings.Legibly "JSKERN_STACK_SIZE" (Writes (Nat.pow 2 64))
  timeout : settings.Legibly "JSKERN_CALL_TIMEOUT_MS" (Writes (Nat.pow 2 64))
  capacity : settings.Legibly "JSKERN_QUEUE_CAPACITY" (Writes (Nat.pow 2 64))
  policy : settings.Legibly "JSKERN_FAULT_POLICY" Names

namespace KernelConfig

variable {config laid : KernelConfig} {settings : Variables}

/-- The time limit of so many milliseconds, where zero lifts the limit. -/
def limitOf (count : Nat) : Option Duration :=
  if count = 0 then none else some (Duration.ofMilliseconds count)

/-- What the five variables make of a configuration, whether or not it makes sense: a variable that is set to
a text is read and gives its field, and every other field stays what it was. -/
structure Laid (config : KernelConfig) (settings : Variables) (laid : KernelConfig) : Prop where
  memory : settings.Governs "JSKERN_MEMORY_LIMIT" (Writes (Nat.pow 2 64)) id config.engine.memoryLimit
    laid.engine.memoryLimit
  stack : settings.Governs "JSKERN_STACK_SIZE" (Writes (Nat.pow 2 64)) id config.engine.maxStackSize
    laid.engine.maxStackSize
  timeout : settings.Governs "JSKERN_CALL_TIMEOUT_MS" (Writes (Nat.pow 2 64)) limitOf config.callTimeout
    laid.callTimeout
  capacity : settings.Governs "JSKERN_QUEUE_CAPACITY" (Writes (Nat.pow 2 64)) id config.queueCapacity
    laid.queueCapacity
  policy : settings.Governs "JSKERN_FAULT_POLICY" Names id config.faultPolicy laid.faultPolicy
  threshold : laid.engine.gcThreshold = config.engine.gcThreshold

/-- What the environment makes of a configuration it makes of the outcome again. -/
theorem Laid.again (lays : config.Laid settings laid) : laid.Laid settings laid where
  memory := lays.memory.again
  stack := lays.stack.again
  timeout := lays.timeout.again
  capacity := lays.capacity.again
  policy := lays.policy.again
  threshold := rfl

theorem Laid.legible (lays : config.Laid settings laid) : settings.Legible where
  memory := lays.memory.legibly
  stack := lays.stack.legibly
  timeout := lays.timeout.legibly
  capacity := lays.capacity.legibly
  policy := lays.policy.legibly

/-- An environment makes one thing of a configuration. -/
theorem Laid.unique {other : KernelConfig} (lays : config.Laid settings laid)
    (too : config.Laid settings other) : laid = other := by
  have size : ∀ text value, parseSize text = .ok value ↔ Writes (Nat.pow 2 64) text value :=
    fun _ _ => parseSize_eq_ok
  ext1
  · ext1
    · exact lays.memory.unique size too.memory
    · exact lays.stack.unique size too.stack
    · rw [lays.threshold, too.threshold]
  · exact lays.timeout.unique size too.timeout
  · exact lays.capacity.unique size too.capacity
  · exact lays.policy.unique (fun _ _ => parsePolicy_eq_ok) too.policy

/-- An environment that is read makes something of every configuration. -/
theorem exists_laid (legible : settings.Legible) (config : KernelConfig) :
    ∃ laid, config.Laid settings laid := by
  obtain ⟨memory, memoryLaid⟩ := Variables.Governs.of_legibly legible.memory id config.engine.memoryLimit
  obtain ⟨stack, stackLaid⟩ := Variables.Governs.of_legibly legible.stack id config.engine.maxStackSize
  obtain ⟨timeout, timeoutLaid⟩ := Variables.Governs.of_legibly legible.timeout limitOf config.callTimeout
  obtain ⟨capacity, capacityLaid⟩ := Variables.Governs.of_legibly legible.capacity id config.queueCapacity
  obtain ⟨policy, policyLaid⟩ := Variables.Governs.of_legibly legible.policy id config.faultPolicy
  exact ⟨⟨⟨memory, stack, config.engine.gcThreshold⟩, timeout, capacity, policy⟩,
    memoryLaid, stackLaid, timeoutLaid, capacityLaid, policyLaid, rfl⟩

/-- **A configuration comes out of the environment exactly when it is what the five variables make of the one
before, and makes sense.** -/
theorem overlay_eq_ok :
    config.overlay settings = .ok laid ↔ config.Laid settings laid ∧ laid.validate = .ok () := by
  have limit {kept field : Option Duration} :
      settings.Governs "JSKERN_CALL_TIMEOUT_MS" (Writes (Nat.pow 2 64)) limitOf kept field ↔ _ :=
    Variables.Governs.iff_parsed fun _ _ => parseSize_eq_ok
  unfold overlay
  simp only [bind_eq_ok]
  constructor
  · rintro ⟨memory, memoryRead, stack, stackRead, timeout, timeoutRead, capacity, capacityRead, policy,
      policyRead, _, valid, same⟩
    cases same
    refine ⟨⟨?_, ?_, ?_, ?_, ?_, rfl⟩, valid⟩
    · exact Variables.Governs.iff_size.mpr ⟨memory, memoryRead, rfl⟩
    · exact Variables.Governs.iff_size.mpr ⟨stack, stackRead, rfl⟩
    · exact limit.mpr ⟨timeout, timeoutRead, by rcases timeout with _ | _ | count <;> rfl⟩
    · exact Variables.Governs.iff_size.mpr ⟨capacity, capacityRead, rfl⟩
    · exact Variables.Governs.iff_policy.mpr ⟨policy, policyRead, rfl⟩
  · rintro ⟨lays, valid⟩
    obtain ⟨⟨_, _, _⟩, _, _, _⟩ := laid
    obtain ⟨memory, memoryRead, rfl⟩ := Variables.Governs.iff_size.mp lays.memory
    obtain ⟨stack, stackRead, rfl⟩ := Variables.Governs.iff_size.mp lays.stack
    obtain ⟨timeout, timeoutRead, rfl⟩ := limit.mp lays.timeout
    obtain ⟨capacity, capacityRead, rfl⟩ := Variables.Governs.iff_size.mp lays.capacity
    obtain ⟨policy, policyRead, rfl⟩ := Variables.Governs.iff_policy.mp lays.policy
    obtain rfl := lays.threshold
    refine ⟨memory, memoryRead, stack, stackRead, timeout, timeoutRead, capacity, capacityRead, policy,
      policyRead, ?_⟩
    -- a limit of zero milliseconds is lifted in the same way by both
    rcases timeout with _ | _ | count
    all_goals exact ⟨(), valid, rfl⟩

/-- **All there is to say of an environment over a configuration**: it is accepted exactly when every variable
that is set is read and what they make of the configuration makes sense, whether or not the configuration did
before; what comes out then has each field as its variable gives it or as it was, makes sense, and stays as it
is under the same environment. A variable that is set to bytes which are no text counts as not set. -/
structure Layered (config : KernelConfig) (settings : Variables) : Prop where
  accepted : (∃ laid, config.overlay settings = .ok laid) ↔
    settings.Legible ∧ ∀ laid, config.Laid settings laid → laid.validate = .ok ()
  outcome : ∀ laid, config.overlay settings = .ok laid → config.Laid settings laid
  valid : ∀ laid, config.overlay settings = .ok laid → laid.validate = .ok ()
  again : ∀ laid, config.overlay settings = .ok laid → laid.overlay settings = .ok laid

theorem overlay_layered (config : KernelConfig) (settings : Variables) : config.Layered settings where
  accepted := by
    constructor
    · rintro ⟨laid, came⟩
      obtain ⟨lays, valid⟩ := overlay_eq_ok.mp came
      refine ⟨lays.legible, fun other too => ?_⟩
      rwa [← lays.unique too]
    · rintro ⟨legible, sensible⟩
      obtain ⟨laid, lays⟩ := exists_laid legible config
      exact ⟨laid, overlay_eq_ok.mpr ⟨lays, sensible laid lays⟩⟩
  outcome := fun _ came => (overlay_eq_ok.mp came).1
  valid := fun _ came => (overlay_eq_ok.mp came).2
  again := by
    intro laid came
    obtain ⟨lays, valid⟩ := overlay_eq_ok.mp came
    exact overlay_eq_ok.mpr ⟨lays.again, valid⟩

end KernelConfig

/-! ### Parts of a file -/

/-- A part is a number of sixty-four bits, and gives it. -/
def Tree.GivesSize (part : Tree) (size : Nat) : Prop :=
  part.Spells (Json.nat size) ∧ size < Nat.pow 2 64

/-- A part is null and lifts the time limit, or counts its milliseconds. -/
def Tree.GivesLimit (part : Tree) (limit : Option Duration) : Prop :=
  part.Spells .null ∧ limit = none ∨
    ∃ count, Tree.GivesSize part count ∧ limit = some (Duration.ofMilliseconds count)

/-- A part is the name of a policy, alone or as a key to null. -/
def Tree.GivesPolicy (part : Tree) (policy : FaultPolicy) : Prop :=
  part.Spells (.text policy.name) ∨ part.Spells (.members [(policy.name, .null)])

theorem timeoutDecoder_gives {source : Json.Source} {part : Tree} {limit : Option Duration}
    (read : KernelConfig.timeoutDecoder source part = .ok limit) : Tree.GivesLimit part limit := by
  obtain ⟨count, counted, rfl⟩ := map_eq_ok.mp read
  unfold Json.Decoder.optional at counted
  split at counted
  next after =>
    cases counted
    exact .inl ⟨.null after, rfl⟩
  next =>
    obtain ⟨count, natural, rfl⟩ := map_eq_ok.mp counted
    exact .inr ⟨count, Json.Decoder.natural_reads natural, rfl⟩

/-- A name of a policy is the name of that policy. -/
theorem FaultPolicy.name_of_lookup? {name : String} {policy : FaultPolicy}
    (found : Json.lookup? name ([.continue, .terminate].map fun policy : FaultPolicy =>
      (policy.name, policy)) = some policy) : name = policy.name := by
  simp only [List.map_cons, List.map_nil, Json.lookup?] at found
  by_cases first : name = FaultPolicy.continue.name
  · subst first
    cases found
    rfl
  · by_cases second : name = FaultPolicy.terminate.name
    · subst second
      cases found
      rfl
    · simp [first, second] at found

theorem FaultPolicy.decode_gives {depth : Nat} {part : Tree} {policy : FaultPolicy}
    (read : FaultPolicy.decode (.stream depth) part = .ok policy) : Tree.GivesPolicy part policy := by
  obtain ⟨name, found, spells⟩ := Json.Decoder.oneOf_reads read
  rwa [FaultPolicy.name_of_lookup? found] at spells

/-! ### A file -/

namespace EngineLimits

/-- Limits that a part gives: each one given among the parts of its own is as it is given there, each other one
is the usual. -/
def Filed (limits : EngineLimits) (part : Tree) : Prop :=
  ∃ parts, part.parts? ["memory_limit", "max_stack_size", "gc_threshold"] = some parts ∧
    Given parts "memory_limit" Tree.GivesSize ({} : EngineLimits).memoryLimit limits.memoryLimit ∧
    Given parts "max_stack_size" Tree.GivesSize ({} : EngineLimits).maxStackSize limits.maxStackSize ∧
    Given parts "gc_threshold" Tree.GivesSize ({} : EngineLimits).gcThreshold limits.gcThreshold

theorem shape_apart : (shape.fields.map Member.name).Nodup := by
  simp [shape, Member.of]

theorem reads_memory : shape.Reads "memory_limit" memoryLimit Tree.GivesSize := by
  refine Shape.reads_of (.head _) shape_apart (.of (fun _ _ => rfl) fun _ _ _ => Json.Decoder.natural_reads) ?_
  simp only [shape, List.forall_mem_cons]
  exact ⟨fun differs => absurd rfl differs, fun _ => .of fun _ _ => rfl, fun _ => .of fun _ _ => rfl,
    List.forall_mem_nil _⟩

theorem reads_stack : shape.Reads "max_stack_size" maxStackSize Tree.GivesSize := by
  refine Shape.reads_of (.tail _ (.head _)) shape_apart
    (.of (fun _ _ => rfl) fun _ _ _ => Json.Decoder.natural_reads) ?_
  simp only [shape, List.forall_mem_cons]
  exact ⟨fun _ => .of fun _ _ => rfl, fun differs => absurd rfl differs, fun _ => .of fun _ _ => rfl,
    List.forall_mem_nil _⟩

theorem reads_threshold : shape.Reads "gc_threshold" gcThreshold Tree.GivesSize := by
  refine Shape.reads_of (.tail _ (.tail _ (.head _))) shape_apart
    (.of (fun _ _ => rfl) fun _ _ _ => Json.Decoder.natural_reads) ?_
  simp only [shape, List.forall_mem_cons]
  exact ⟨fun _ => .of fun _ _ => rfl, fun _ => .of fun _ _ => rfl, fun differs => absurd rfl differs,
    List.forall_mem_nil _⟩

theorem decode_filed {depth : Nat} {part : Tree} {limits : EngineLimits}
    (read : decode (.stream depth) part = .ok limits) : limits.Filed part := by
  obtain ⟨parts, record, written, built, given⟩ := Shape.decode_given shape_apart read
  cases built
  exact ⟨parts, written, given reads_memory, given reads_stack, given reads_threshold⟩

end EngineLimits

namespace KernelConfig

/-- The configuration that the text of a file gives: each field given at the top is as it is given there, with
the limits of the engine in a part of their own, and each other one is the usual. -/
def Filed (config : KernelConfig) (text : Tree) : Prop :=
  ∃ parts, text.parts? ["engine", "call_timeout", "queue_capacity", "fault_policy"] = some parts ∧
    Given parts "engine" (fun part limits => limits.Filed part) ({} : KernelConfig).engine config.engine ∧
    Given parts "call_timeout" Tree.GivesLimit ({} : KernelConfig).callTimeout config.callTimeout ∧
    Given parts "queue_capacity" Tree.GivesSize ({} : KernelConfig).queueCapacity config.queueCapacity ∧
    Given parts "fault_policy" Tree.GivesPolicy ({} : KernelConfig).faultPolicy config.faultPolicy

theorem shape_apart : (shape.fields.map Member.name).Nodup := by
  simp [shape, Member.of]

theorem reads_engine :
    shape.Reads "engine" engine (fun part limits => limits.Filed part) := by
  refine Shape.reads_of (.head _) shape_apart (.of (fun _ _ => rfl) fun _ _ _ => EngineLimits.decode_filed) ?_
  simp only [shape, List.forall_mem_cons]
  exact ⟨fun differs => absurd rfl differs, fun _ => .of fun _ _ => rfl, fun _ => .of fun _ _ => rfl,
    fun _ => .of fun _ _ => rfl, List.forall_mem_nil _⟩

theorem reads_timeout : shape.Reads "call_timeout" callTimeout Tree.GivesLimit := by
  refine Shape.reads_of (.tail _ (.head _)) shape_apart
    (.of (fun _ _ => rfl) fun _ _ _ => timeoutDecoder_gives) ?_
  simp only [shape, List.forall_mem_cons]
  exact ⟨fun _ => .of fun _ _ => rfl, fun differs => absurd rfl differs, fun _ => .of fun _ _ => rfl,
    fun _ => .of fun _ _ => rfl, List.forall_mem_nil _⟩

theorem reads_capacity : shape.Reads "queue_capacity" queueCapacity Tree.GivesSize := by
  refine Shape.reads_of (.tail _ (.tail _ (.head _))) shape_apart
    (.of (fun _ _ => rfl) fun _ _ _ => Json.Decoder.natural_reads) ?_
  simp only [shape, List.forall_mem_cons]
  exact ⟨fun _ => .of fun _ _ => rfl, fun _ => .of fun _ _ => rfl, fun differs => absurd rfl differs,
    fun _ => .of fun _ _ => rfl, List.forall_mem_nil _⟩

theorem reads_policy : shape.Reads "fault_policy" faultPolicy Tree.GivesPolicy := by
  refine Shape.reads_of (.tail _ (.tail _ (.tail _ (.head _)))) shape_apart
    (.of (fun _ _ => rfl) fun _ _ _ => FaultPolicy.decode_gives) ?_
  simp only [shape, List.forall_mem_cons]
  exact ⟨fun _ => .of fun _ _ => rfl, fun _ => .of fun _ _ => rfl, fun _ => .of fun _ _ => rfl,
    fun differs => absurd rfl differs, List.forall_mem_nil _⟩

theorem decode_filed {depth : Nat} {text : Tree} {config : KernelConfig}
    (read : decode (.stream depth) text = .ok config) : config.Filed text := by
  obtain ⟨parts, record, written, built, given⟩ := Shape.decode_given shape_apart read
  cases built
  exact ⟨parts, written, given reads_engine, given reads_timeout, given reads_capacity, given reads_policy⟩

/-- A configuration that comes from a file is the one its text gives, and makes sense. -/
theorem ofFile_filed {files : FileSystem} {path : String} {filed : KernelConfig}
    (came : ofFile files path = .ok filed) :
    ∃ text, files.read path = .ok text ∧ filed.Filed (Tree.read text.toList) ∧ filed.validate = .ok () := by
  unfold ofFile at came
  split at came
  · cases came
  next text found =>
    split at came
    · cases came
    next config decoded =>
      obtain ⟨_, valid, same⟩ := bind_eq_ok.mp came
      cases same
      obtain ⟨value, read, trailing⟩ := bind_eq_ok.mp decoded
      split at trailing
      · cases trailing
      · cases trailing
        exact ⟨text, found, decode_filed read, valid⟩

/-- **The environment lies over a configuration, and a file over the defaults, field by field**: what an
environment makes of any configuration is said by `Layered`, and the configuration that comes from a file has
every field that is given at the top or inside the limits of the engine as it is given there, every other one
as it is by default, and makes sense. -/
theorem configuration_layered (config : KernelConfig) (settings : Variables) (files : FileSystem)
    (path : String) :
    config.Layered settings ∧
      ∀ filed, ofFile files path = .ok filed →
        ∃ text, files.read path = .ok text ∧ filed.Filed (Tree.read text.toList) ∧
          filed.validate = .ok () :=
  ⟨overlay_layered config settings, fun _ => ofFile_filed⟩

/-- A file that gives a time limit and one limit of the engine, and over it an environment that lifts the
time limit and names a policy. -/
theorem configuration_layered_twice :
    let text := "\x7b\"call_timeout\": 250, \"engine\": \x7b\"memory_limit\": 1024\x7d\x7d"
    let files : FileSystem := ⟨fun _ => .ok text⟩
    let settings : Variables :=
      [("JSKERN_CALL_TIMEOUT_MS", .text "0"), ("JSKERN_FAULT_POLICY", .text " Terminate ")]
    let filed : KernelConfig :=
      { engine := { memoryLimit := 1024 }, callTimeout := some (Duration.ofMilliseconds 250) }
    let laid : KernelConfig :=
      { engine := { memoryLimit := 1024 }, callTimeout := none, faultPolicy := .terminate }
    ofFile files "kernel.json" = .ok filed ∧ filed.Filed (Tree.read text.toList) ∧
      filed.overlay settings = .ok laid ∧ filed.Laid settings laid ∧ laid.overlay settings = .ok laid := by
  intro text files settings filed laid
  have came : ofFile files "kernel.json" = .ok filed := by decide +kernel
  have accepted : filed.overlay settings = .ok laid := by rfl
  obtain ⟨layered, gives⟩ := configuration_layered filed settings files "kernel.json"
  obtain ⟨found, read, given, -⟩ := gives filed came
  cases read
  exact ⟨came, given, accepted, layered.outcome laid accepted, layered.again laid accepted⟩

end KernelConfig

end ScriptKernel
