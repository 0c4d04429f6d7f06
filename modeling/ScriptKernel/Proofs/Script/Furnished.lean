/-
**What binding leaves in the memory of a script.**

* `Realm.Furnished`: a new realm whose global object answers to names with host functions, in order, and in
  which nothing else has changed; its errors and prototypes are as they were (`Furnished.intact`), and a host
  function is found under its name (`Furnished.binds`);
* `ends_bind`: binding a table to a new realm leaves such a realm;
* `ScriptProcess.start_furnished`: so has every process that has just come up.
-/

import ScriptKernel.Proofs.Script.Delivery

set_option autoImplicit false

namespace ScriptKernel

namespace Script

/-! ### Fields put into an object -/

/-- A field that is put into an object is found. -/
theorem Object.find?_put_self (key : Key) (property : Property) (fields : List (Key × Property)) :
    find? key (put key property fields) = some property := by
  induction fields with
  | nil =>
    unfold put find?
    simp
  | cons field rest ih =>
    obtain ⟨other, old⟩ := field
    unfold put
    split
    · unfold find?
      simp
    · rename_i different
      unfold find? at ih ⊢
      rwa [List.find?_cons_of_neg (by simpa using different)]

/-- The fields with other keys are as they were. -/
theorem Object.find?_put_other {key other : Key} (different : other ≠ key) (property : Property)
    (fields : List (Key × Property)) : find? key (put other property fields) = find? key fields := by
  induction fields with
  | nil =>
    unfold put find?
    simp [different]
  | cons field rest ih =>
    obtain ⟨name, old⟩ := field
    unfold put
    split
    · rename_i same
      subst same
      unfold find?
      rw [List.find?_cons_of_neg (by simpa using different),
        List.find?_cons_of_neg (by simpa using different)]
    · unfold find? at ih ⊢
      by_cases here : name = key
      · rw [List.find?_cons_of_pos (by simpa using here), List.find?_cons_of_pos (by simpa using here)]
      · rw [List.find?_cons_of_neg (by simpa using here), List.find?_cons_of_neg (by simpa using here)]
        exact ih

/-- Whether an object is a plain one is seen. -/
theorem ObjectClass.eq_plain {kind : ObjectClass}
    (seen : (match kind with | .plain => true | _ => false) = true) : kind = .plain := by
  cases kind with
  | plain => rfl
  | _ => cases seen

/-- A plain object has the fields it holds. -/
theorem Object.own?_plain {object : Object} (plain : object.kind = .plain) (key : Key) :
    object.own? key = find? key object.fields := by
  unfold own?
  rw [plain]

/-- A plain object gets a field among the others. -/
theorem Object.define_plain {object : Object} (plain : object.kind = .plain) (key : Key)
    (property : Property) :
    object.define key property = { object with fields := put key property object.fields } := by
  obtain ⟨kind, parent, fields, extensible⟩ := object
  cases plain
  rfl

/-- A plain object that gets a field has that field, and the others it had. -/
theorem Object.own?_define {object : Object} (plain : object.kind = .plain) (key other : Key)
    (property : Property) :
    (object.define key property).own? other = if key = other then some property else object.own? other := by
  have still : (object.define key property).kind = .plain := by
    rw [define_plain plain]
    exact plain
  rw [own?_plain still, own?_plain plain, define_plain plain]
  split
  · rename_i same
    subst same
    exact find?_put_self ..
  · rename_i different
    exact find?_put_other different ..

namespace Realm

/-! ### Furnished realms -/

/-- **A new realm whose global object answers to names with host functions**, in order; nothing else has
changed. -/
structure Furnished (names : List String) (realm : Realm) : Prop where
  landmarks : realm.landmarks = initial.landmarks
  idle : realm.jobs = []
  size_le : initial.objects.size ≤ realm.objects.size
  others : ∀ address < initial.objects.size, address ≠ initial.landmarks.globalObject →
    realm.object address = initial.object address
  plain : (realm.object initial.landmarks.globalObject).kind = .plain
  extensible : (realm.object initial.landmarks.globalObject).extensible = true
  parent : (realm.object initial.landmarks.globalObject).parent = some initial.landmarks.objectParent
  bound : ∀ index name, names[index]? = some name → ∃ address,
    (realm.object initial.landmarks.globalObject).own? (.ofString name) =
        some (.plain (.object address)) ∧
      (realm.object address).kind = .host index name

variable {realm : Realm} {names : List String}

/-- A new realm is furnished with nothing. -/
theorem initial_furnished : initial.Furnished [] where
  landmarks := rfl
  idle := by decide +kernel
  size_le := Nat.le_refl _
  others _ _ _ := rfl
  plain := ObjectClass.eq_plain (by decide +kernel)
  extensible := by decide +kernel
  parent := by decide +kernel
  bound _ _ := nofun

theorem Furnished.globalMade (furnished : realm.Furnished names) :
    initial.landmarks.globalObject < realm.objects.size :=
  Nat.lt_of_lt_of_le initial_rooted.globalMade furnished.size_le

theorem root_ne_global : initial.landmarks.objectParent ≠ initial.landmarks.globalObject := by
  decide +kernel

theorem Furnished.rooted (furnished : realm.Furnished names) :
    realm.Rooted initial.landmarks.objectParent where
  globalMade := by
    rw [furnished.landmarks]
    exact furnished.globalMade
  rootMade := Nat.lt_of_lt_of_le initial_rooted.rootMade furnished.size_le
  noArray items array := by
    rw [furnished.landmarks, furnished.plain] at array
    cases array
  parent := by
    rw [furnished.landmarks]
    exact furnished.parent
  ends := (congrArg Object.parent (furnished.others _ initial_rooted.rootMade root_ne_global)).trans
    initial_rooted.ends

/-- A new object does not matter. -/
theorem Furnished.create (furnished : realm.Furnished names) (object : Object) :
    (realm.create object).2.Furnished names := by
  have grown := Grown.create realm object
  have global := grown.object_eq furnished.globalMade
  refine ⟨grown.landmarks_eq.trans furnished.landmarks, grown.jobs_eq.trans furnished.idle,
    Nat.le_trans furnished.size_le grown.size_le, fun address made other => ?_, ?_, ?_, ?_, ?_⟩
  · rw [grown.object_eq (Nat.lt_of_lt_of_le made furnished.size_le)]
    exact furnished.others address made other
  · rw [global]
    exact furnished.plain
  · rw [global]
    exact furnished.extensible
  · rw [global]
    exact furnished.parent
  · intro index name here
    obtain ⟨address, found, host⟩ := furnished.bound index name here
    refine ⟨address, ?_, ?_⟩
    · rw [global]
      exact found
    · rw [grown.object_eq (made_of_host host)]
      exact host

/-- **A host function under a new name is one more.** -/
theorem Furnished.define (furnished : realm.Furnished names) {name : String} {address : Address}
    (free : (realm.object initial.landmarks.globalObject).own? (.ofString name) = none)
    (host : (realm.object address).kind = .host names.length name) :
    (realm.define initial.landmarks.globalObject (.ofString name)
      (.plain (.object address))).Furnished (names ++ [name]) := by
  have changed := realm.object_define furnished.globalMade (.ofString name) (.plain (.object address))
  have global := changed initial.landmarks.globalObject
  rw [if_pos rfl] at global
  have others : ∀ other, other ≠ initial.landmarks.globalObject →
      (realm.define initial.landmarks.globalObject (.ofString name)
        (.plain (.object address))).object other = realm.object other := by
    intro other different
    rw [changed, if_neg (Ne.symm different)]
  -- the global object is no host function
  have apart : ∀ {place index label}, (realm.object place).kind = .host index label →
      place ≠ initial.landmarks.globalObject := by
    rintro place index label here rfl
    rw [furnished.plain] at here
    cases here
  refine ⟨furnished.landmarks, furnished.idle, ?_, fun other made different => ?_, ?_, ?_, ?_, ?_⟩
  · exact Nat.le_trans furnished.size_le (Nat.le_of_eq Array.size_modify.symm)
  · rw [others other different]
    exact furnished.others other made different
  · rw [global, Object.define_plain furnished.plain]
    exact furnished.plain
  · rw [global, Object.define_plain furnished.plain]
    exact furnished.extensible
  · rw [global, define_parent]
    exact furnished.parent
  · intro index label here
    rw [global]
    rcases Nat.lt_or_ge index names.length with before | after
    · rw [List.getElem?_append_left before] at here
      obtain ⟨place, found, host'⟩ := furnished.bound index label here
      have different : Key.ofString name ≠ .ofString label := by
        intro same
        rw [same, found] at free
        cases free
      refine ⟨place, ?_, ?_⟩
      · rw [Object.own?_define furnished.plain, if_neg different]
        exact found
      · rw [others place (apart host')]
        exact host'
    · rw [List.getElem?_append_right after, List.getElem?_singleton] at here
      split at here
      · cases here
        have last : index = names.length := by omega
        refine ⟨address, ?_, ?_⟩
        · rw [Object.own?_define furnished.plain, if_pos rfl]
        · rw [others address (apart host), host, last]
      · cases here

/-- **A furnished realm finds its host functions by their names.** -/
theorem Furnished.binds (furnished : realm.Furnished names) {index : Nat} {name : String}
    (here : names[index]? = some name) : realm.Binds name index := by
  obtain ⟨address, found, host⟩ := furnished.bound index name here
  refine ⟨.plain (.object address), address, true, ?_, rfl, host⟩
  rw [furnished.landmarks]
  unfold field?
  rw [found]

/-- The errors of a new realm answer to their own names. -/
theorem initial_names : ∀ kind ∈ hostErrors,
    initial.errorParent kind < initial.objects.size ∧
      initial.errorParent kind ≠ initial.landmarks.globalObject ∧
      (initial.object (initial.errorParent kind)).own? nameKey =
        some (.hidden (.ofString kind.name)) := by
  decide +kernel

/-- The prototype of arrays is no global object, and its own prototype is that of objects. -/
theorem initial_rows : initial.landmarks.arrayParent < initial.objects.size ∧
    initial.landmarks.arrayParent ≠ initial.landmarks.globalObject ∧
    (initial.object initial.landmarks.arrayParent).own? speech = none ∧
    (initial.object initial.landmarks.arrayParent).parent = some initial.landmarks.objectParent ∧
    (initial.object initial.landmarks.objectParent).own? speech = none := by
  decide +kernel

/-- **A furnished realm has its errors and prototypes as they were.** -/
theorem Furnished.intact (furnished : realm.Furnished names) : realm.Intact := by
  obtain ⟨rowMade, rowOther, rowOwn, rowParent, rootOwn⟩ := initial_rows
  have rooted := furnished.rooted
  have row := furnished.others _ rowMade rowOther
  have root := furnished.others _ initial_rooted.rootMade root_ne_global
  have said {first second : Object} (same : first = second) (own : second.own? speech = none) :
      first.own? speech = none := same ▸ own
  have silent : realm.Mute speech (some initial.landmarks.objectParent) := by
    refine .further rooted.rootMade (said root rootOwn) ?_
    rw [rooted.ends]
    exact .ends
  constructor
  · constructor
    · rw [furnished.landmarks]
      exact silent
    · rw [furnished.landmarks]
      refine .further (Nat.lt_of_lt_of_le rowMade furnished.size_le) (said row rowOwn) ?_
      rw [congrArg Object.parent row, rowParent]
      exact silent
  · intro kind known
    obtain ⟨made, other, named⟩ := initial_names kind known
    have same : realm.errorParent kind = initial.errorParent kind := by
      unfold errorParent
      rw [furnished.landmarks]
    rw [same]
    refine ⟨Nat.lt_of_lt_of_le made furnished.size_le, .hidden (.ofString kind.name), true, ?_, rfl⟩
    exact (congrArg (fun object => Object.own? object nameKey)
      (furnished.others _ made other)).trans named

end Realm

/-! ### Binding -/

/-- An ordinary field is added to a plain object that can get more. -/
theorem Placement.adding_plain {object : Object} (plain : object.kind = .plain)
    (extensible : object.extensible = true) (address : Address) (key : Key) (value : Value) :
    Placement.adding address object key value = .define address (.plain value) := by
  unfold Placement.adding
  rw [plain, extensible]
  rfl

/-- A realm with the function of one more host function, which has no name yet. -/
def Realm.withFunction (realm : Realm) (index : Nat) (name : String) : Realm :=
  (realm.create { kind := .host index name, parent := some realm.landmarks.functionParent }).2

variable {memory : Memory} {names : List String}

/-- **A free name of the global object gets a value.** -/
theorem ends_set_global (caller : Caller) (furnished : memory.realm.Furnished names) {key : Key}
    (untaken : memory.realm.Untaken Realm.initial.landmarks.objectParent key) (value : Value) :
    (set caller true memory.realm.globalValue key value).Ends memory (.value ())
      { memory with
        realm := memory.realm.define Realm.initial.landmarks.globalObject key (.plain value) } := by
  have placed : memory.realm.placement memory.realm.globalValue key value =
      .define Realm.initial.landmarks.globalObject (.plain value) := by
    rw [furnished.rooted.placement_eq untaken, furnished.landmarks]
    exact Placement.adding_plain furnished.plain furnished.extensible ..
  refine (Run.ends_look (fun realm => realm.placement memory.realm.globalValue key value)
    memory).bind ?_
  rw [placed]
  rfl

/-- **One host function is bound**, if its name is free. -/
theorem ends_install (furnished : memory.realm.Furnished names) (name : String) :
    ∃ answer after, (SyscallTable.install names.length name).Ends memory (.value answer) after ∧
      after.panicking = memory.panicking ∧
      (answer = .ok () → after.realm.Furnished (names ++ [name])) := by
  have looked := Run.ends_look (fun realm =>
    (realm.field? (realm.object realm.landmarks.globalObject) (.ofString name)).isSome) memory
  cases taken : memory.realm.field? (memory.realm.object memory.realm.landmarks.globalObject)
      (.ofString name) with
  | some property =>
    rw [taken] at looked
    exact ⟨_, memory, looked.bind (Run.ends_pure _ memory), rfl, nofun⟩
  | none =>
    rw [taken] at looked
    have created : (SyscallTable.createFunction names.length name).Ends memory
        (.value (.object memory.realm.objects.size))
        { memory with realm := memory.realm.withFunction names.length name } := rfl
    have grown : (memory.realm.withFunction names.length name).Furnished names := furnished.create _
    have untaken : (memory.realm.withFunction names.length name).Untaken
        Realm.initial.landmarks.objectParent (.ofString name) :=
      ((furnished.rooted.untaken_iff _).mp taken).create furnished.rooted _
    have free := untaken.1
    rw [grown.landmarks] at free
    have given := @ends_set_global { memory with realm := memory.realm.withFunction names.length name }
      names .standard grown _ untaken (.object memory.realm.objects.size)
    refine ⟨.ok (), { memory with
      realm := (memory.realm.withFunction names.length name).define
        Realm.initial.landmarks.globalObject (.ofString name)
        (.plain (.object memory.realm.objects.size)) }, ?_, rfl, fun _ => grown.define free ?_⟩
    · exact looked.bind (created.bind ((Run.ends_look Realm.globalValue _).bind
        ((ends_guarded given).bind (Run.ends_pure _ _))))
    · exact congrArg Object.kind (memory.realm.object_created _)

/-- **Host functions are bound in turn**, up to the first whose name is not free. -/
theorem ends_installFrom (rest : List String) (furnished : memory.realm.Furnished names) :
    ∃ answer after, (SyscallTable.installFrom names.length rest).Ends memory (.value answer) after ∧
      after.panicking = memory.panicking ∧
      (answer = .ok () → after.realm.Furnished (names ++ rest)) := by
  induction rest generalizing memory names with
  | nil =>
    exact ⟨.ok (), memory, Run.ends_pure _ memory, rfl, fun _ => (List.append_nil names).symm ▸ furnished⟩
  | cons name rest ih =>
    obtain ⟨answer, middle, installed, quiet, bound⟩ := ends_install furnished name
    cases answer with
    | error flaw => exact ⟨.error flaw, middle, installed.bind (Run.ends_pure _ middle), quiet, nofun⟩
    | ok done =>
      obtain ⟨answer, after, others, quiet', bound'⟩ := ih (bound rfl)
      rw [List.length_append] at others
      rw [List.append_assoc] at bound'
      exact ⟨answer, after, installed.bind others, quiet'.trans quiet, bound'⟩

/-- **Binding a table to a new realm** leaves a realm that is furnished with its names, unless it refuses. -/
theorem ends_bind (table : SyscallTable) :
    ∃ answer after, table.bind.Ends { realm := Realm.initial } (.value answer) after ∧
      after.panicking = false ∧
      ∀ symbols, answer = .ok symbols → after.realm.Furnished table.names := by
  unfold SyscallTable.bind
  cases table.flaw? with
  | some flaw => exact ⟨.error flaw, _, Run.ends_pure _ _, rfl, nofun⟩
  | none =>
    obtain ⟨answer, after, installed, quiet, bound⟩ :=
      @ends_installFrom { realm := Realm.initial } [] table.names Realm.initial_furnished
    cases answer with
    | error flaw => exact ⟨.error flaw, after, installed.bind (Run.ends_pure _ after), quiet, nofun⟩
    | ok done =>
      exact ⟨.ok table.names, after, installed.bind (Run.ends_pure _ after), quiet, fun _ _ => bound rfl⟩

end Script

/-- **A process that has just come up has a new realm that is furnished with its host functions.** -/
theorem ScriptProcess.start_furnished {spec : ProcessSpec} {terminal : TerminalRef}
    {table : SyscallTable} {config : KernelConfig} {site : Site} {process : ScriptProcess}
    (started : (start spec terminal table config site).1 = .ok process) :
    ∃ memory, process.executor.engine.memory = some memory ∧ memory.panicking = false ∧
      memory.realm.Furnished table.names := by
  unfold start at started
  cases made : Engine.create config.engine with
  | error error =>
    rw [made] at started
    cases started
  | ok engine =>
    obtain ⟨answer, after, ends, quiet, furnished⟩ := Script.ends_bind table
    have entered : ∀ context, Engine.enter ⟨some { realm := Script.Realm.initial }⟩ table table.bind
        context = (.ok (.value answer), ⟨some after⟩, context) := by
      intro context
      unfold Engine.enter
      simp only [show table.bind.part { realm := Script.Realm.initial } = _ from ends,
        Script.Dialogue.run_done]
    simp only [made, Engine.create_ok made, entered] at started
    cases answer with
    | error error => cases started
    | ok symbols =>
      cases started
      exact ⟨after, rfl, quiet, furnished symbols rfl⟩

end ScriptKernel
