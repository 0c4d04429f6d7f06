/-
**What the environment sets.**

* `parseNatural_eq_ok`: a number is read exactly when the text is decimal digits after an optional plus sign
  and the number fits;
* `Settles.parsed`: a reading that needs a variable goes on with what the variable makes of its field, or is
  refused because no value of the field would do;
* `overlay_told`: a configuration comes out exactly when every text among the five variables determines its
  field and the whole makes sense; a variable that is no text is passed over as if it were not set.
-/

import ScriptKernel.Config.Layer
import ScriptKernel.Proofs.Json.Lexeme

set_option autoImplicit false

namespace ScriptKernel

/-! ### Numbers and policies as they may be written -/

/-- The text writes a number below a bound: decimal digits, one at least, after an optional plus sign. -/
def Writes (bound : Nat) (text : String) (value : Nat) : Prop :=
  ∃ digits : List Char, (text.toList = digits ∨ text.toList = '+' :: digits) ∧ digits ≠ [] ∧
    (∀ char ∈ digits, '0' ≤ char ∧ char ≤ '9') ∧ Nat.ofDigitChars 10 digits 0 = value ∧ value < bound

/-- The text names a policy, blanks around it and the case of letters aside. -/
def Names (text : String) (policy : FaultPolicy) : Prop :=
  lowerAscii (trimBlank text) = policy.name

/-- Digits are read exactly when they are decimal and their value stays below the bound. -/
theorem naturalDigits_eq_ok {bound : Nat} {digits : List Char} {start value : Nat} (small : start < bound) :
    naturalDigits bound digits start = .ok value ↔
      (∀ char ∈ digits, '0' ≤ char ∧ char ≤ '9') ∧ Nat.ofDigitChars 10 digits start = value ∧
        value < bound := by
  induction digits generalizing start with
  | nil =>
    simp only [naturalDigits, Nat.ofDigitChars_nil, Except.ok.injEq]
    constructor
    · rintro rfl
      exact ⟨by simp, rfl, small⟩
    · exact fun read => read.2.1
  | cons char rest ih =>
    have step : 10 * start + (char.toNat - '0'.toNat) = start * 10 + (char.toNat - 48) := by
      rw [Nat.mul_comm]; rfl
    rw [naturalDigits, List.forall_mem_cons, Nat.ofDigitChars_cons, step]
    by_cases decimal : '0' ≤ char ∧ char ≤ '9'
    · by_cases next : start * 10 + (char.toNat - 48) < bound
      · rw [if_pos decimal, if_pos next, ih next]
        simp [decimal]
      · -- the value only grows, so a number that is too large stays so with every further digit
        have grown := Numeral.le_ofDigitChars rest (start * 10 + (char.toNat - 48))
        rw [if_pos decimal, if_neg next]
        constructor
        · intro read
          cases read
        · rintro ⟨-, rfl, below⟩
          omega
    · rw [if_neg decimal]
      simp [decimal]

/-- **A number is read exactly when the text writes one.** -/
theorem parseNatural_eq_ok {bound : Nat} (positive : 0 < bound) {text : String} {value : Nat} :
    parseNatural bound text = .ok value ↔ Writes bound text value := by
  unfold parseNatural
  split
  next chars =>
    constructor
    · intro read
      cases read
    · rintro ⟨digits, same | signed, nonempty, -⟩
      · exact absurd (same.symm.trans chars) nonempty
      · simp [chars] at signed
  next chars =>
    constructor
    · intro read
      cases read
    · rintro ⟨digits, same | signed, nonempty, decimal, -⟩
      · have plus := decimal '+' (by rw [← same, chars]; simp)
        exact absurd plus (by decide)
      · rw [chars] at signed
        exact absurd (List.cons.inj signed).2.symm nonempty
  next digits nonempty chars =>
    rw [naturalDigits_eq_ok positive]
    constructor
    · exact fun read => ⟨digits, .inr chars, by rintro rfl; exact nonempty rfl, read⟩
    · rintro ⟨others, same | signed, -, decimal, read⟩
      · have plus := decimal '+' (by rw [← same, chars]; simp)
        exact absurd plus (by decide)
      · rw [chars] at signed
        rw [(List.cons.inj signed).2]
        exact ⟨decimal, read⟩
  next nonempty _ signless =>
    rw [naturalDigits_eq_ok positive]
    constructor
    · exact fun read => ⟨text.toList, .inl rfl, nonempty, read⟩
    · rintro ⟨digits, same | signed, -, read⟩
      · rwa [same]
      · exact absurd signed (signless digits)

theorem mapError_eq_ok {α ε ε' : Type} {answer : Except ε α} {rename : ε → ε'} {value : α} :
    answer.mapError rename = .ok value ↔ answer = .ok value := by
  constructor
  · intro made
    cases answer with
    | ok result =>
      cases made
      rfl
    | error fault => cases made
  · rintro rfl
    rfl

theorem parseSize_eq_ok {text : String} {value : Nat} :
    parseSize text = .ok value ↔ Writes (Nat.pow 2 64) text value := by
  rw [parseSize, mapError_eq_ok, parseNatural_eq_ok (by decide)]

theorem parsePolicy_eq_ok {text : String} {policy : FaultPolicy} :
    parsePolicy text = .ok policy ↔ Names text policy := by
  rw [parsePolicy, mapError_eq_ok, FaultPolicy.parse, Names]
  by_cases lenient : lowerAscii (trimBlank text) = "continue"
  · rw [if_pos lenient, lenient]
    cases policy <;> simp [FaultPolicy.name]
  · by_cases strict : lowerAscii (trimBlank text) = "terminate"
    · rw [if_neg lenient, if_pos strict, strict]
      cases policy <;> simp [FaultPolicy.name]
    · rw [if_neg lenient, if_neg strict]
      cases policy <;> simp [FaultPolicy.name, lenient, strict]

/-! ### One variable and its field -/

/-- How a variable governs a field: a text determines it, and the field keeps what it was when there is
none. -/
def Variables.Governs {α β : Type} (settings : Variables) (name : String) (reads : String → α → Prop)
    (meant : α → β) (kept field : β) : Prop :=
  match settings.text? name with
  | some raw => ∃ value, reads (trimBlank raw) value ∧ field = meant value
  | none => field = kept

/-- An answer gives what fits a description, or is refused as a configuration when nothing fits it. -/
def Settles {α : Type} (answer : Except KernelError α) (fits : α → Prop) : Prop :=
  (∃ given, answer = .ok given ∧ fits given) ∨
    ∃ detail, answer = .error (.configuration detail) ∧ ∀ given, ¬fits given

/-- **A reading that needs a variable goes on with what the variable makes of its field, or is refused
because no value of the field would do.** -/
theorem Settles.parsed {α β γ : Type} {settings : Variables} {name : String} {parse : String → Except String α}
    {reads : String → α → Prop} {meant : α → β} {kept : β} {field : γ → β} {fits : γ → Prop}
    {rest : Option α → Except KernelError γ}
    (reading : ∀ text value, parse text = .ok value ↔ reads text value)
    (needed : ∀ given, fits given → settings.Governs name reads meant kept (field given))
    (next : ∀ found : Option α,
      (∀ value, settings.Governs name reads meant kept value ↔ value = found.elim kept meant) →
        Settles (rest found) fits) :
    Settles (settings.parsed? name parse >>= rest) fits := by
  cases set : settings.text? name with
  | none =>
    have read : settings.parsed? name parse = .ok none := by simp [Variables.parsed?, set]
    rw [read]
    apply next none
    intro value
    simp [Variables.Governs, set]
  | some raw =>
    cases parsed : parse (trimBlank raw) with
    | ok found =>
      have read : settings.parsed? name parse = .ok (some found) := by
        simp [Variables.parsed?, set, parsed]
      rw [read]
      apply next (some found)
      intro value
      simp only [Variables.Governs, set, ← reading, parsed, Except.ok.injEq, Option.elim_some]
      simp
    | error reason =>
      have read : settings.parsed? name parse =
          .error (.configuration (name ++ "=" ++ raw ++ ": " ++ reason)) := by
        simp [Variables.parsed?, set, parsed]
      rw [read]
      refine .inr ⟨_, rfl, ?_⟩
      intro given fitting
      have governed := needed given fitting
      simp only [Variables.Governs, set, ← reading, parsed] at governed
      simp at governed

/-! ### The whole environment -/

attribute [ext] EngineLimits KernelConfig

/-- What five variables make of a configuration: each of them governs its field, a time limit of zero lifts
the limit, and the outcome makes sense. -/
structure KernelConfig.Overlaid (config : KernelConfig) (settings : Variables) (overlaid : KernelConfig) :
    Prop where
  memory : settings.Governs "JSKERN_MEMORY_LIMIT" (Writes (Nat.pow 2 64)) id config.engine.memoryLimit
    overlaid.engine.memoryLimit
  stack : settings.Governs "JSKERN_STACK_SIZE" (Writes (Nat.pow 2 64)) id config.engine.maxStackSize
    overlaid.engine.maxStackSize
  timeout : settings.Governs "JSKERN_CALL_TIMEOUT_MS" (Writes (Nat.pow 2 64))
    (fun count => if count = 0 then none else some (Duration.ofMilliseconds count)) config.callTimeout
    overlaid.callTimeout
  capacity : settings.Governs "JSKERN_QUEUE_CAPACITY" (Writes (Nat.pow 2 64)) id config.queueCapacity
    overlaid.queueCapacity
  policy : settings.Governs "JSKERN_FAULT_POLICY" Names id config.faultPolicy overlaid.faultPolicy
  threshold : overlaid.engine.gcThreshold = config.engine.gcThreshold
  valid : overlaid.validate = .ok ()

theorem validate_cases (config : KernelConfig) :
    config.validate = .ok () ∨ ∃ detail, config.validate = .error (.configuration detail) := by
  unfold KernelConfig.validate
  by_cases empty : config.queueCapacity = 0
  · exact .inr ⟨_, if_pos empty⟩
  · rw [if_neg empty]
    by_cases zero : config.callTimeout = some 0
    · exact .inr ⟨_, if_pos zero⟩
    · exact .inl (if_neg zero)

/-- **A configuration comes out exactly when every text among the five variables determines its field and
the outcome makes sense; otherwise the configuration is refused.** -/
theorem overlay_told (config : KernelConfig) (settings : Variables) :
    (∃ overlaid, config.overlay settings = .ok overlaid ∧ config.Overlaid settings overlaid) ∨
    ∃ detail, config.overlay settings = .error (.configuration detail) ∧
      ∀ overlaid, ¬config.Overlaid settings overlaid := by
  apply Settles.parsed (fun _ _ => parseSize_eq_ok) (fun _ laid => laid.memory)
  intro memory governsMemory
  apply Settles.parsed (fun _ _ => parseSize_eq_ok) (fun _ laid => laid.stack)
  intro stack governsStack
  apply Settles.parsed (fun _ _ => parseSize_eq_ok) (fun _ laid => laid.timeout)
  intro timeout governsTimeout
  apply Settles.parsed (fun _ _ => parseSize_eq_ok) (fun _ laid => laid.capacity)
  intro capacity governsCapacity
  apply Settles.parsed (fun _ _ => parsePolicy_eq_ok) (fun _ laid => laid.policy)
  intro policy governsPolicy
  extract_lets engine overlaid
  have memoryLaid : overlaid.engine.memoryLimit = memory.elim config.engine.memoryLimit id := by
    cases memory <;> rfl
  have stackLaid : overlaid.engine.maxStackSize = stack.elim config.engine.maxStackSize id := by
    cases stack <;> rfl
  have timeoutLaid : overlaid.callTimeout = timeout.elim config.callTimeout
      fun count => if count = 0 then none else some (Duration.ofMilliseconds count) := by
    rcases timeout with _ | _ | count <;> rfl
  have capacityLaid : overlaid.queueCapacity = capacity.elim config.queueCapacity id := by
    cases capacity <;> rfl
  have policyLaid : overlaid.faultPolicy = policy.elim config.faultPolicy id := by
    cases policy <;> rfl
  obtain valid | ⟨detail, invalid⟩ := validate_cases overlaid
  · refine .inl ⟨overlaid, by rw [valid]; rfl, ?_⟩
    exact
      { memory := (governsMemory _).2 memoryLaid
        stack := (governsStack _).2 stackLaid
        timeout := (governsTimeout _).2 timeoutLaid
        capacity := (governsCapacity _).2 capacityLaid
        policy := (governsPolicy _).2 policyLaid
        threshold := rfl
        valid := valid }
  · refine .inr ⟨detail, by rw [invalid]; rfl, ?_⟩
    -- whatever fits has the fields of what was refused
    intro other laid
    have same : other = overlaid := by
      ext
      · exact ((governsMemory _).1 laid.memory).trans memoryLaid.symm
      · exact ((governsStack _).1 laid.stack).trans stackLaid.symm
      · exact laid.threshold
      · rw [(governsTimeout _).1 laid.timeout, timeoutLaid]
      · exact ((governsCapacity _).1 laid.capacity).trans capacityLaid.symm
      · exact ((governsPolicy _).1 laid.policy).trans policyLaid.symm
    have valid := laid.valid
    rw [same, invalid] at valid
    cases valid

/-- A variable that is set to bytes which are no text determines nothing: what the configuration held before
stands, whatever it was. -/
theorem overlay_of_binary :
    Json.lookup? "JSKERN_QUEUE_CAPACITY" [("JSKERN_QUEUE_CAPACITY", Setting.binary)] = some .binary ∧
      KernelConfig.overlay { queueCapacity := 1 } [("JSKERN_QUEUE_CAPACITY", .binary)] =
        .ok { queueCapacity := 1 } ∧
      KernelConfig.overlay { queueCapacity := 64 } [("JSKERN_QUEUE_CAPACITY", .binary)] =
        .ok { queueCapacity := 64 } :=
  ⟨rfl, rfl, rfl⟩

end ScriptKernel
