/-
**Configurations read back from their records.**

* `KernelConfig.Recorded`: the records of a configuration, the fields of each object in any order;
* `KernelConfig.decode_takes`: a record is taken as the configuration with what sixty-four bits hold of the
  milliseconds of its time limit;
* `KernelConfig.record_restored`: while those bits hold all of its milliseconds, the time limit comes back in
  whole ones and everything else as it was, so a time limit of whole milliseconds restores the configuration.
-/

import ScriptKernel.Config.Record
import ScriptKernel.Proofs.Json.Decoding

set_option autoImplicit false

namespace ScriptKernel

open Json (Decoder Shape)

/-! ### Lengths of time -/

namespace Duration

/-- The length of time that a record of its milliseconds stands for. -/
def recorded (duration : Duration) : Duration := ofMilliseconds duration.toMilliseconds

/-- A length of time without what is less than a millisecond. -/
def whole (duration : Duration) : Duration := ofMilliseconds (duration / ofMilliseconds 1)

theorem toMilliseconds_lt (duration : Duration) : duration.toMilliseconds < Nat.pow 2 64 :=
  Nat.mod_lt _ (Nat.pow_pos (by decide))

/-- A record of milliseconds that sixty-four bits hold loses what is less than one. -/
theorem recorded_eq_whole {duration : Duration}
    (held : duration < ofMilliseconds (Nat.pow 2 64)) : duration.recorded = duration.whole := by
  have few : duration / 1000000 < Nat.pow 2 64 :=
    Nat.div_lt_of_lt_mul (by rwa [Nat.mul_comm])
  exact congrArg ofMilliseconds (Nat.mod_eq_of_lt few)

theorem whole_eq_self_iff {duration : Duration} :
    duration.whole = duration ↔ ofMilliseconds 1 ∣ duration :=
  ⟨fun same => ⟨_, (same.symm.trans (Nat.mul_comm _ _))⟩, Nat.div_mul_cancel⟩

theorem whole_pos {duration : Duration} (long : ofMilliseconds 1 ≤ duration) : 0 < duration.whole :=
  Nat.mul_pos (Nat.div_pos long (by decide)) (by decide)

end Duration

/-! ### Limits of an engine -/

namespace EngineLimits

/-- The fields of the record, as they are declared. -/
def fields (limits : EngineLimits) : List (String × Json) :=
  [("memory_limit", Json.nat limits.memoryLimit), ("max_stack_size", Json.nat limits.maxStackSize),
    ("gc_threshold", Json.nat limits.gcThreshold)]

/-- The limits are sizes of sixty-four bits. -/
structure Sized (limits : EngineLimits) : Prop where
  memory : limits.memoryLimit < Nat.pow 2 64
  stack : limits.maxStackSize < Nat.pow 2 64
  threshold : limits.gcThreshold < Nat.pow 2 64

theorem sized_default : Sized {} := ⟨by decide, by decide, by decide⟩

/-- A record of the limits, its fields in any order. -/
def Recorded (limits : EngineLimits) (record : Json) : Prop :=
  ∃ entries, record = .members entries ∧ entries.Perm limits.fields

/-- The names of the fields differ. -/
theorem fields_apart (limits : EngineLimits) : (limits.fields.map Prod.fst).Nodup := by
  simp [fields]

theorem toJson_recorded (limits : EngineLimits) : limits.Recorded limits.toJson :=
  Json.object_members limits.fields_apart

/-- The numbers of a record of limits fit, and it holds nothing but numbers. -/
theorem Recorded.plain {limits : EngineLimits} (sized : limits.Sized) {record : Json}
    (recorded : limits.Recorded record) : record.Integral ∧ record.depth < 2 := by
  obtain ⟨entries, rfl, same⟩ := recorded
  have fields : ∀ entry ∈ entries, entry.2.Integral ∧ entry.2.depth < 1 := by
    intro entry found
    have field := same.mem_iff.mp found
    simp only [EngineLimits.fields, List.mem_cons, List.not_mem_nil, or_false] at field
    rcases field with rfl | rfl | rfl
    · exact ⟨Json.nat_integral sized.memory, Nat.one_pos⟩
    · exact ⟨Json.nat_integral sized.stack, Nat.one_pos⟩
    · exact ⟨Json.nat_integral sized.threshold, Nat.one_pos⟩
  refine ⟨.members fun entry found => (fields entry found).1, Nat.succ_lt_succ ?_⟩
  exact (Json.entriesDepth_lt Nat.one_pos).mpr fun entry found => (fields entry found).2

/-- **A record of limits is taken as the limits.** -/
theorem decode_takes {limits : EngineLimits} (sized : limits.Sized) {record : Json}
    (recorded : limits.Recorded record) : decode.Takes record limits := by
  obtain ⟨entries, rfl, same⟩ := recorded
  have stores : List.Forall₂ shape.Stores limits.fields
      [fun read => { read with memoryLimit := limits.memoryLimit },
        fun read => { read with maxStackSize := limits.maxStackSize },
        fun read => { read with gcThreshold := limits.gcThreshold }] :=
    .cons (Shape.stores_of_takes rfl (Decoder.natural_takes _ sized.memory) rfl)
      (.cons (Shape.stores_of_takes rfl (Decoder.natural_takes _ sized.stack) rfl)
        (.cons (Shape.stores_of_takes rfl (Decoder.natural_takes _ sized.threshold) rfl) .nil))
  refine Shape.decode_takes stores limits.fields_apart ?_ rfl same
  simp only [List.forall_mem_cons, List.not_mem_nil, false_implies, implies_true, and_self]

end EngineLimits

/-! ### The configuration -/

/-- The name of a policy is taken as the policy. -/
theorem FaultPolicy.decode_takes (policy : FaultPolicy) : decode.Takes policy.toJson policy :=
  Decoder.oneOf_takes (by cases policy <;> rfl)

namespace KernelConfig

/-- The record of a time limit. -/
def timeoutRecord (timeout : Option Duration) : Json :=
  Json.ofOption (fun timeout => Json.nat (Duration.toMilliseconds timeout)) timeout

/-- The fields of the record, as they are declared. -/
def fields (config : KernelConfig) (engine : Json) : List (String × Json) :=
  [("engine", engine), ("call_timeout", timeoutRecord config.callTimeout),
    ("queue_capacity", Json.nat config.queueCapacity)] ++
    if config.faultPolicy = .continue then [] else [("fault_policy", config.faultPolicy.toJson)]

/-- The limits and the capacity are sizes of sixty-four bits. -/
structure Sized (config : KernelConfig) : Prop where
  engine : config.engine.Sized
  capacity : config.queueCapacity < Nat.pow 2 64

/-- A record of the configuration, the fields of each object in any order. -/
def Recorded (config : KernelConfig) (record : Json) : Prop :=
  ∃ engine entries, config.engine.Recorded engine ∧ record = .members entries ∧
    entries.Perm (config.fields engine)

/-- The names of the fields differ. -/
theorem fields_apart (config : KernelConfig) (engine : Json) :
    ((config.fields engine).map Prod.fst).Nodup := by
  unfold fields
  split <;> simp

/-- The record with its fields as they are declared. -/
theorem declared_recorded (config : KernelConfig) :
    config.Recorded (.members (config.fields (.members config.engine.fields))) :=
  ⟨_, _, ⟨_, rfl, .refl _⟩, rfl, .refl _⟩

/-- The record with its fields in order of their names. -/
theorem toJson_recorded (config : KernelConfig) : config.Recorded config.toJson := by
  obtain ⟨sorted, made, same⟩ := Json.object_members (config.fields_apart config.engine.toJson)
  exact ⟨_, sorted, config.engine.toJson_recorded, made, same⟩

/-- The numbers of a record fit, and it does not nest deep. -/
theorem Recorded.plain {config : KernelConfig} (sized : config.Sized) {record : Json}
    (recorded : config.Recorded record) : record.Integral ∧ record.depth < 3 := by
  obtain ⟨engine, entries, engineRecorded, rfl, same⟩ := recorded
  have fields : ∀ entry ∈ entries, entry.2.Integral ∧ entry.2.depth < 2 := by
    intro entry found
    have field := same.mem_iff.mp found
    simp only [KernelConfig.fields, List.mem_append, List.mem_cons, List.not_mem_nil, or_false] at field
    rcases field with (rfl | rfl | rfl) | policy
    · exact engineRecorded.plain sized.engine
    · cases config.callTimeout with
      | none => exact ⟨.null, Nat.two_pos⟩
      | some timeout => exact ⟨Json.nat_integral (Duration.toMilliseconds_lt timeout), Nat.two_pos⟩
    · exact ⟨Json.nat_integral sized.capacity, Nat.two_pos⟩
    · split at policy
      · cases policy
      · rw [List.mem_singleton.mp policy]
        exact ⟨.text _, Nat.two_pos⟩
  refine ⟨.members fun entry found => (fields entry found).1, Nat.succ_lt_succ ?_⟩
  exact (Json.entriesDepth_lt Nat.two_pos).mpr fun entry found => (fields entry found).2

/-- A record of a time limit is taken as what it stands for. -/
theorem timeoutDecoder_takes (timeout : Option Duration) :
    timeoutDecoder.Takes (timeoutRecord timeout) (timeout.map Duration.recorded) := by
  unfold timeoutDecoder
  cases timeout with
  | none =>
    have taken := Decoder.optional_takes_null (Decoder.natural "u64" 64)
    simpa only [timeoutRecord, Json.ofOption, Option.map_none] using
      Decoder.map_takes taken (Option.map Duration.ofMilliseconds)
  | some timeout =>
    have small := Duration.toMilliseconds_lt timeout
    have present : Json.nat (Duration.toMilliseconds timeout) ≠ .null := nofun
    have taken := Decoder.optional_takes present (Decoder.natural_takes "u64" small)
    simpa only [timeoutRecord, Json.ofOption, Option.map_some, Duration.recorded] using
      Decoder.map_takes taken (Option.map Duration.ofMilliseconds)

/-- **A record of a configuration is taken as the configuration**, with the time limit it stands for. -/
theorem decode_takes {config : KernelConfig} (sized : config.Sized) {record : Json}
    (recorded : config.Recorded record) :
    decode.Takes record { config with callTimeout := config.callTimeout.map Duration.recorded } := by
  obtain ⟨engine, entries, engineRecorded, rfl, same⟩ := recorded
  have engineTaken := EngineLimits.decode_takes sized.engine engineRecorded
  have stores : List.Forall₂ shape.Stores (config.fields engine)
      ([fun read => { read with engine := config.engine },
        fun read => { read with callTimeout := config.callTimeout.map Duration.recorded },
        fun read => { read with queueCapacity := config.queueCapacity }] ++
        if config.faultPolicy = .continue then []
        else [fun read => { read with faultPolicy := config.faultPolicy }]) := by
    refine List.rel_append ?_ ?_
    · exact .cons (Shape.stores_of_takes rfl engineTaken rfl)
        (.cons (Shape.stores_of_takes rfl (timeoutDecoder_takes _) rfl)
          (.cons (Shape.stores_of_takes rfl (Decoder.natural_takes _ sized.capacity) rfl) .nil))
    · split
      · exact .nil
      · exact .cons (Shape.stores_of_takes rfl (FaultPolicy.decode_takes _) rfl) .nil
  refine Shape.decode_takes stores (config.fields_apart engine) ?_ ?_ same
  · split <;> simp
  · by_cases usual : config.faultPolicy = .continue
    · rw [if_pos usual]
      refine congrArg Except.ok ?_
      show KernelConfig.mk _ _ _ FaultPolicy.continue = _
      rw [usual]
    · rw [if_neg usual]
      rfl

/-- What is read back from a record of a configuration, as a text or as a value. -/
theorem run_recorded {config : KernelConfig} (sized : config.Sized) {record : Json}
    (recorded : config.Recorded record) :
    decode.run record.print = .ok { config with callTimeout := config.callTimeout.map Duration.recorded } ∧
      decode.ofJson record =
        .ok { config with callTimeout := config.callTimeout.map Duration.recorded } := by
  obtain ⟨integral, flat⟩ := recorded.plain sized
  have takes := decode_takes sized recorded
  exact ⟨Decoder.run_print takes integral.readable (flat.trans (by decide)), Decoder.ofJson_takes takes⟩

/-- A time limit without what is less than a millisecond is the same exactly if it is of whole milliseconds. -/
theorem whole_timeout_iff {config : KernelConfig} :
    { config with callTimeout := config.callTimeout.map Duration.whole } = config ↔
      ∀ timeout ∈ config.callTimeout, Duration.ofMilliseconds 1 ∣ timeout := by
  obtain ⟨engine, timeout, capacity, policy⟩ := config
  cases timeout with
  | none => simp
  | some timeout => simp [Duration.whole_eq_self_iff]

/-- A valid configuration stays valid without what is less than a millisecond of its time limit, if anything
is left. -/
theorem whole_timeout_valid {config : KernelConfig} (valid : config.validate = .ok ())
    (long : ∀ timeout ∈ config.callTimeout, Duration.ofMilliseconds 1 ≤ timeout) :
    KernelConfig.validate { config with callTimeout := config.callTimeout.map Duration.whole } =
      .ok () := by
  unfold validate at valid ⊢
  by_cases empty : config.queueCapacity = 0
  · rw [if_pos empty] at valid
    cases valid
  · rw [if_neg empty]
    refine if_neg fun zero => ?_
    obtain ⟨timeout, limit, nothing⟩ := Option.map_eq_some_iff.mp zero
    exact Nat.ne_of_gt (Duration.whole_pos (long timeout limit)) nothing

/-- **A record of a valid configuration, read back as a text or as a value, restores everything but what is
less than a millisecond of the time limit**: the configuration is the same exactly if its time limit is of
whole milliseconds, and it is valid again if its time limit was a millisecond at least. -/
theorem record_restored {config : KernelConfig} (sized : config.Sized)
    (held : ∀ timeout ∈ config.callTimeout, timeout < Duration.ofMilliseconds (Nat.pow 2 64))
    (valid : config.validate = .ok ()) {record : Json} (recorded : config.Recorded record) :
    ∃ restored, decode.run record.print = .ok restored ∧ decode.ofJson record = .ok restored ∧
      restored = { config with callTimeout := config.callTimeout.map Duration.whole } ∧
      (restored = config ↔ ∀ timeout ∈ config.callTimeout, Duration.ofMilliseconds 1 ∣ timeout) ∧
      ((∀ timeout ∈ config.callTimeout, Duration.ofMilliseconds 1 ≤ timeout) →
        restored.validate = .ok ()) := by
  have same : config.callTimeout.map Duration.recorded = config.callTimeout.map Duration.whole :=
    Option.map_congr fun timeout limit => Duration.recorded_eq_whole (held timeout limit)
  obtain ⟨text, value⟩ := run_recorded sized recorded
  rw [same] at text value
  exact ⟨_, text, value, rfl, whole_timeout_iff, whole_timeout_valid valid⟩

/-- One and a half seconds and an unusual policy, written as they are declared. -/
theorem record_restored_declared :
    let config : KernelConfig :=
      { callTimeout := some (Duration.ofMilliseconds 1500), faultPolicy := .terminate }
    let record := Json.members (config.fields (.members config.engine.fields))
    decode.run record.print = .ok config ∧ decode.ofJson record = .ok config ∧
      config.validate = .ok () := by
  intro config record
  have sized : config.Sized := ⟨EngineLimits.sized_default, by decide⟩
  have held : ∀ timeout ∈ config.callTimeout, timeout < Duration.ofMilliseconds (Nat.pow 2 64) := by
    decide
  obtain ⟨restored, text, value, -, same, -⟩ := record_restored sized held rfl config.declared_recorded
  rw [same.mpr (by decide)] at text value
  exact ⟨text, value, rfl⟩

/-- Valid time limits that a record does not restore: one and a half milliseconds come back as one; half a
millisecond, and more milliseconds than sixty-four bits hold, as none at all, which is not valid. -/
theorem record_cut :
    (KernelConfig.validate { callTimeout := some 1500000 } = .ok () ∧
      decode.run (toJson { callTimeout := some 1500000 }).print = .ok { callTimeout := some 1000000 }) ∧
    (KernelConfig.validate { callTimeout := some 500000 } = .ok () ∧
      decode.run (toJson { callTimeout := some 500000 }).print = .ok { callTimeout := some 0 }) ∧
    (KernelConfig.validate { callTimeout := some (Duration.ofMilliseconds (Nat.pow 2 64)) } = .ok () ∧
      decode.run (toJson { callTimeout := some (Duration.ofMilliseconds (Nat.pow 2 64)) }).print =
        .ok { callTimeout := some 0 }) ∧
    KernelConfig.validate { callTimeout := some 0 } ≠ .ok () := by
  have sized : ∀ timeout, KernelConfig.Sized { callTimeout := some timeout } := fun _ =>
    ⟨EngineLimits.sized_default, (by decide : 64 < Nat.pow 2 64)⟩
  have cut := fun timeout => (run_recorded (sized timeout) (toJson_recorded _)).1
  exact ⟨⟨rfl, cut 1500000⟩, ⟨rfl, cut 500000⟩, ⟨rfl, cut _⟩, nofun⟩

end KernelConfig

end ScriptKernel
