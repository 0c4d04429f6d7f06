/-
**Binding host functions disturbs nothing.**

* `Run.Silent`: a run that asks the host nothing and answers, from a realm of one kind to a realm of another;
* `Realm.Rooted`: the global object is no array, and its prototype has none; so whether it answers to a name is
  seen in two objects (`Realm.Rooted.untaken_iff`), and setting a name that it does not answer to calls no
  setter (`silent_set`);
* `SyscallTable.silent_bind`: so binding a table asks the host nothing, and answers the names of the table, in
  order, unless it refuses;
* `ScriptProcess.start_ok`: what a process is like that has just come up.
-/

import ScriptKernel.Proofs.Context
import ScriptKernel.ScriptProcess

set_option autoImplicit false

namespace ScriptKernel

namespace Script

variable {α β : Type}

/-! ### Runs that ask nothing -/

/-- **A run that asks the host nothing and answers**, from a realm of one kind to a realm of another. -/
def Run.Silent (before : Realm → Prop) (run : Run α) (after : α → Realm → Prop) : Prop :=
  ∀ memory, memory.panicking = false → before memory.realm →
    ∃ answer memory', run.part memory = .done (.value answer, memory') ∧
      memory'.panicking = false ∧ after answer memory'.realm

namespace Run

variable {before : Realm → Prop} {middle : α → Realm → Prop} {after : β → Realm → Prop}

theorem silent_pure {answer : β} (here : ∀ realm, before realm → after answer realm) :
    (pure answer : Run β).Silent before after :=
  fun memory quiet reached => ⟨answer, memory, rfl, quiet, here memory.realm reached⟩

theorem silent_make {step : Realm → β × Realm}
    (here : ∀ realm, before realm → after (step realm).1 (step realm).2) :
    (make step).Silent before after :=
  fun memory quiet reached =>
    ⟨(step memory.realm).1, ⟨(step memory.realm).2, memory.pending, memory.panicking⟩, rfl, quiet,
      here memory.realm reached⟩

theorem silent_bind {first : Run α} {next : α → Run β} (silent : first.Silent before middle)
    (continues : ∀ answer, (next answer).Silent (middle answer) after) :
    (first >>= next).Silent before after := by
  intro memory quiet reached
  obtain ⟨answer, memory', ended, quiet', reached'⟩ := silent memory quiet reached
  obtain ⟨answer', memory'', ended', quiet'', reached''⟩ := continues answer memory' quiet' reached'
  refine ⟨answer', memory'', ?_, quiet'', reached''⟩
  show Part.andThen _ _ memory = _
  rw [Part.andThen_apply, ended]
  exact ended'

/-- Looking at the realm tells what the realm is like. -/
theorem silent_look (view : Realm → α) :
    (look view).Silent before fun answer realm => before realm ∧ answer = view realm :=
  silent_make fun _ reached => ⟨reached, rfl⟩

end Run

/-! ### The global object -/

namespace Realm

/-- **The global object is no array, and its prototype has none.** -/
structure Rooted (root : Address) (realm : Realm) : Prop where
  globalMade : realm.landmarks.globalObject < realm.objects.size
  rootMade : root < realm.objects.size
  noArray : ∀ items, (realm.object realm.landmarks.globalObject).kind ≠ .array items
  parent : (realm.object realm.landmarks.globalObject).parent = some root
  ends : (realm.object root).parent = none

/-- Nothing on the way from the global object has a field of its own with a key. -/
def Untaken (root : Address) (key : Key) (realm : Realm) : Prop :=
  (realm.object realm.landmarks.globalObject).own? key = none ∧
    (realm.object root).own? key = none

variable {root : Address} {realm : Realm} {key : Key}

/-- On the way from the root there is one object only. -/
theorem Rooted.inherited?_eq (rooted : realm.Rooted root) (key : Key) (limit : Nat) :
    realm.inherited? key (limit + 1) (some root) = (realm.object root).own? key := by
  unfold inherited?
  cases found : (realm.object root).own? key with
  | some property => simp only [found]
  | none =>
    simp only [found, rooted.ends]
    cases limit <;> rfl

/-- Whether the global object answers to a name is seen in two objects. -/
theorem Rooted.untaken_iff (rooted : realm.Rooted root) (key : Key) :
    realm.field? (realm.object realm.landmarks.globalObject) key = none ↔
      realm.Untaken root key := by
  unfold field? Untaken
  rw [rooted.parent, rooted.inherited?_eq]
  cases (realm.object realm.landmarks.globalObject).own? key with
  | some property => exact ⟨nofun, nofun⟩
  | none => exact ⟨fun none => ⟨rfl, none⟩, fun both => both.2⟩

/-- A new object changes none of the others. -/
theorem object_create (realm : Realm) (object : Object) {address : Address}
    (made : address < realm.objects.size) :
    (realm.create object).2.object address = realm.object address := by
  show ((realm.objects.push object)[address]?).getD {} = (realm.objects[address]?).getD {}
  rw [Array.getElem?_push_lt made, Array.getElem?_eq_getElem made]

theorem Rooted.create (rooted : realm.Rooted root) (object : Object) :
    (realm.create object).2.Rooted root := by
  have grown : (realm.create object).2.objects.size = realm.objects.size + 1 :=
    Array.size_push object
  have global : (realm.create object).2.object realm.landmarks.globalObject =
      realm.object realm.landmarks.globalObject := realm.object_create object rooted.globalMade
  refine ⟨?_, ?_, ?_, ?_, ?_⟩
  · exact grown ▸ Nat.lt_succ_of_lt rooted.globalMade
  · exact grown ▸ Nat.lt_succ_of_lt rooted.rootMade
  · exact global ▸ rooted.noArray
  · exact global ▸ rooted.parent
  · rw [realm.object_create object rooted.rootMade]
    exact rooted.ends

theorem Untaken.create (untaken : realm.Untaken root key) (rooted : realm.Rooted root)
    (object : Object) : (realm.create object).2.Untaken root key := by
  have global : (realm.create object).2.object realm.landmarks.globalObject =
      realm.object realm.landmarks.globalObject := realm.object_create object rooted.globalMade
  refine ⟨global ▸ untaken.1, ?_⟩
  rw [realm.object_create object rooted.rootMade]
  exact untaken.2

/-- Putting a field into an object leaves its prototype as it was. -/
theorem define_parent (object : Object) (key : Key) (property : Property) :
    (object.define key property).parent = object.parent := by
  unfold Object.define
  repeat' split
  all_goals rfl

theorem define_noArray {object : Object} (noArray : ∀ items, object.kind ≠ .array items) (key : Key)
    (property : Property) (items : Items) : (object.define key property).kind ≠ .array items := by
  rcases object with ⟨kind, parent, fields, extensible⟩
  cases kind with
  | array others => exact absurd rfl (noArray others)
  | _ => exact noArray items

/-- A field put into an object changes that object only. -/
theorem object_define (realm : Realm) {address : Address} (made : address < realm.objects.size)
    (key : Key) (property : Property) (other : Address) :
    (realm.define address key property).object other =
      if address = other then (realm.object other).define key property else realm.object other := by
  show ((realm.objects.modify address _)[other]?).getD {} = _
  rw [Array.getElem?_modify]
  split
  · rename_i same
    subst same
    unfold object
    rw [Array.getElem?_eq_getElem made]
    rfl
  · rfl

theorem Rooted.define (rooted : realm.Rooted root) (key : Key) (property : Property) :
    (realm.define realm.landmarks.globalObject key property).Rooted root := by
  have same : (realm.define realm.landmarks.globalObject key property).objects.size =
      realm.objects.size := Array.size_modify
  have apart : realm.landmarks.globalObject ≠ root := by
    intro met
    have parent := rooted.parent
    rw [met, rooted.ends] at parent
    cases parent
  have global := realm.object_define rooted.globalMade key property realm.landmarks.globalObject
  rw [if_pos rfl] at global
  refine ⟨?_, ?_, ?_, ?_, ?_⟩
  · exact same ▸ rooted.globalMade
  · exact same ▸ rooted.rootMade
  · exact global ▸ define_noArray rooted.noArray key property
  · show ((realm.define _ key property).object realm.landmarks.globalObject).parent = _
    rw [global, define_parent]
    exact rooted.parent
  · rw [realm.object_define rooted.globalMade, if_neg apart]
    exact rooted.ends

/-- **Setting a name that the global object does not answer to adds a field to it**, or is refused. -/
theorem Rooted.placement_eq (rooted : realm.Rooted root) (untaken : realm.Untaken root key)
    (value : Value) :
    realm.placement realm.globalValue key value =
      .adding realm.landmarks.globalObject (realm.object realm.landmarks.globalObject) key value := by
  have unlisted : (realm.object realm.landmarks.globalObject).isLength key = false := by
    unfold Object.isLength
    split
    · rename_i items array
      exact absurd array (rooted.noArray items)
    · rfl
  unfold placement globalValue
  simp only [unlisted, untaken.1, rooted.parent, rooted.inherited?_eq, untaken.2]
  rfl

end Realm

/-- An ordinary field is added or refused. -/
theorem Placement.adding_eq (address : Address) (object : Object) (key : Key) (value : Value) :
    Placement.adding address object key value = .define address (.plain value) ∨
      ∃ reason, Placement.adding address object key value = .refuse reason := by
  unfold Placement.adding
  dsimp only
  split
  · exact .inr ⟨_, rfl⟩
  · exact (ite_eq_or_eq _ _ _).elim (fun behind => .inr ⟨_, behind⟩) .inl

/-! ### Setting a new global -/

/-- A part that ends at once, by answering or by throwing, is looked at by the host without a panic. -/
theorem guarded_done {run : Run α} {memory left : Memory} {ending : Outcome α}
    (ended : run.part memory = .done (ending, left)) (quiet : left.panicking = false)
    (known : (∃ answer, ending = .value answer) ∨ ∃ exception, ending = .thrown exception) :
    ∃ answer, (guarded run).part memory = .done (.value answer, left) := by
  have heard : run.heard.part memory = .done (ending, left) := by
    show Part.andThen _ _ memory = _
    rw [Part.andThen_apply, ended]
    rcases known with ⟨answer, rfl⟩ | ⟨exception, rfl⟩
    · rfl
    · simp only [Dialogue.bind, quiet]
      rfl
  rcases known with ⟨answer, rfl⟩ | ⟨exception, rfl⟩
  · refine ⟨.ok answer, ?_⟩
    show Part.andThen _ _ memory = _
    rw [Part.andThen_apply, heard]
    rfl
  · refine ⟨.error exception, ?_⟩
    show Part.andThen _ _ memory = _
    rw [Part.andThen_apply, heard]
    rfl

/-- Giving the global object a new field ends at once. -/
theorem set_done (caller : Caller) {memory : Memory} {root : Address} {key : Key}
    (rooted : memory.realm.Rooted root) (untaken : memory.realm.Untaken root key) (value : Value) :
    ∃ ending realm, (set caller true memory.realm.globalValue key value).part memory =
        .done (ending, { memory with realm }) ∧ realm.Rooted root ∧
      ((∃ answer, ending = .value answer) ∨ ∃ exception, ending = .thrown exception) := by
  have looked : (set caller true memory.realm.globalValue key value).part memory =
      (setAt caller true memory.realm.globalValue key value
        (memory.realm.placement memory.realm.globalValue key value)).part memory := rfl
  rw [looked, rooted.placement_eq untaken]
  rcases Placement.adding_eq memory.realm.landmarks.globalObject
    (memory.realm.object memory.realm.landmarks.globalObject) key value with added | ⟨reason, refused⟩
  · rw [added]
    exact ⟨_, _, rfl, rooted.define _ _, .inl ⟨_, rfl⟩⟩
  · rw [refused]
    exact ⟨_, _, rfl, rooted.create _, .inr ⟨_, rfl⟩⟩

end Script

/-! ### Binding -/

namespace SyscallTable

open Script (Run Realm Key)

/-- Binding one host function asks nothing. -/
theorem silent_install (root : Script.Address) (index : Nat) (name : String) :
    (install index name).Silent (fun realm => realm.Rooted root) fun _ realm => realm.Rooted root := by
  refine Run.silent_bind (Run.silent_look _) fun taken => ?_
  cases taken with
  | true => exact Run.silent_pure fun _ reached => reached.1
  | false =>
    have created : (createFunction index name).Silent
        (fun realm => realm.Rooted root ∧ false = (realm.field?
          (realm.object realm.landmarks.globalObject) (Key.ofString name)).isSome)
        fun _ realm => realm.Rooted root ∧ realm.Untaken root (Key.ofString name) := by
      refine Run.silent_make fun realm reached => ?_
      have untaken : realm.Untaken root (Key.ofString name) :=
        (reached.1.untaken_iff _).mp (Option.isSome_eq_false_iff.mp reached.2.symm |> Option.isNone_iff_eq_none.mp)
      exact ⟨reached.1.create _, untaken.create reached.1 _⟩
    refine Run.silent_bind created fun function => ?_
    refine Run.silent_bind (Run.silent_look Realm.globalValue) fun place => ?_
    have given : (Script.guarded (Script.set .standard true place (Key.ofString name) function)).Silent
        (fun realm => (realm.Rooted root ∧ realm.Untaken root (Key.ofString name)) ∧
          place = realm.globalValue) fun _ realm => realm.Rooted root := by
      rintro memory quiet ⟨⟨rooted, untaken⟩, rfl⟩
      obtain ⟨ending, realm, ended, rooted', known⟩ :=
        Script.set_done .standard rooted untaken function
      obtain ⟨answer, guarded⟩ := Script.guarded_done ended quiet known
      exact ⟨answer, _, guarded, quiet, rooted'⟩
    refine Run.silent_bind given fun outcome => ?_
    cases outcome with
    | ok done => exact Run.silent_pure fun _ reached => reached
    | error exception => exact Run.silent_pure fun _ reached => reached

/-- Binding host functions in turn asks nothing. -/
theorem silent_installFrom (root : Script.Address) (index : Nat) (names : List String) :
    (installFrom index names).Silent (fun realm => realm.Rooted root)
      fun _ realm => realm.Rooted root := by
  induction names generalizing index with
  | nil => exact Run.silent_pure fun _ reached => reached
  | cons name rest ih =>
    refine Run.silent_bind (silent_install root index name) fun outcome => ?_
    cases outcome with
    | ok done => exact ih (index + 1)
    | error error => exact Run.silent_pure fun _ reached => reached

/-- **Binding a table asks nothing, and answers its names** unless it refuses. -/
theorem silent_bind (table : SyscallTable) (root : Script.Address) :
    table.bind.Silent (fun realm => realm.Rooted root)
      fun answer _ => ∀ symbols, answer = .ok symbols → symbols = table.names := by
  unfold bind
  cases table.flaw? with
  | some error => exact Run.silent_pure fun _ _ => nofun
  | none =>
    refine Run.silent_bind (silent_installFrom root 0 table.names) fun outcome => ?_
    cases outcome with
    | ok done =>
      refine Run.silent_pure fun _ _ symbols same => ?_
      cases same
      rfl
    | error error => exact Run.silent_pure fun _ _ => nofun

end SyscallTable

/-- The prototype of the global object of a new realm is the last. -/
theorem Script.Realm.initial_rooted :
    Script.Realm.initial.Rooted Script.Realm.initial.landmarks.objectParent where
  globalMade := by decide +kernel
  rootMade := by decide +kernel
  noArray := by
    have noArray : Script.Realm.initial.isArray Script.Realm.initial.globalValue = false := by
      decide +kernel
    intro items array
    unfold Script.Realm.isArray Script.Realm.globalValue at noArray
    simp only [array] at noArray
    cases noArray
  parent := by decide +kernel
  ends := by decide +kernel

/-! ### Processes that have just come up -/

/-- **A process that has just come up**: its host functions are bound, and nothing else has happened. -/
structure ScriptProcess.Fresh (spec : ProcessSpec) (terminal : TerminalRef) (table : SyscallTable)
    (config : KernelConfig) (process : ScriptProcess) : Prop where
  path : process.path = spec.path
  symbols : process.symbols = table.names
  faultPolicy : process.faultPolicy = config.faultPolicy
  resident : process.resident =
    .fresh spec.pid spec.args ⟨spec.envp⟩ terminal (ScriptProcess.queueLabel spec.pid)
  pid : process.executor.pid = spec.pid
  callTimeout : process.executor.callTimeout = config.callTimeout
  table : process.executor.table = table
  sound : process.executor.engine.Sound

/-- A new engine has a new realm. -/
theorem Engine.create_ok {limits : EngineLimits} {engine : Engine}
    (made : Engine.create limits = .ok engine) :
    engine = ⟨some { realm := Script.Realm.initial }⟩ := by
  unfold Engine.create at made
  split at made
  · cases made
  · cases made
    rfl

/-- Binding a table to a new engine leaves the context alone. -/
theorem Engine.enter_binding (table : SyscallTable) (context : SyscallContext) :
    ∃ answer engine, Engine.enter ⟨some { realm := Script.Realm.initial }⟩ table table.bind context =
        (.ok (.value answer), engine, context) ∧
      engine.Sound ∧ ∀ symbols, answer = .ok symbols → symbols = table.names := by
  obtain ⟨answer, memory, ended, quiet, named⟩ := table.silent_bind
    Script.Realm.initial.landmarks.objectParent { realm := Script.Realm.initial } rfl
    Script.Realm.initial_rooted
  refine ⟨answer, ⟨some memory⟩, ?_, ⟨memory, rfl, quiet⟩, named⟩
  unfold Engine.enter
  simp only [ended, Script.Dialogue.run_done]

/-- **A process that has come up is fresh, and nothing has happened around it.** -/
theorem ScriptProcess.start_ok {spec : ProcessSpec} {terminal : TerminalRef} {table : SyscallTable}
    {config : KernelConfig} {site : Site} {process : ScriptProcess}
    (started : (ScriptProcess.start spec terminal table config site).1 = .ok process) :
    process.Fresh spec terminal table config ∧
      (ScriptProcess.start spec terminal table config site).2 = site := by
  unfold ScriptProcess.start at *
  cases made : Engine.create config.engine with
  | error error =>
    rw [made] at started
    cases started
  | ok engine =>
    obtain ⟨answer, bound, entered, sound, named⟩ := Engine.enter_binding table
      (.of (.fresh spec.pid spec.args ⟨spec.envp⟩ terminal (ScriptProcess.queueLabel spec.pid)) site)
    simp only [made, Engine.create_ok made, entered] at started ⊢
    cases answer with
    | error error => cases started
    | ok symbols =>
      cases started
      exact ⟨⟨rfl, named symbols rfl, rfl, rfl, rfl, rfl, rfl, sound⟩, rfl⟩

end ScriptKernel
