/-
**Structured values on their way out of a script.**

* `Run.Settles`: a part that ends at once and leaves the memory as it was, unless it has an excuse to throw;
* `Realm.Literal`: a realm in which objects and arrays are written as they are;
* `settles_draftOf`: the draft of what stands for a value is the draft of that value in some order, and only a
  value that nests too deep is an excuse to throw.
-/

import ScriptKernel.Proofs.Script.Exchange

set_option autoImplicit false

namespace ScriptKernel.Script

open List (Forall₂)

/-! ### Parts that settle -/

namespace Run

variable {α β σ : Type}

/-- **A part that ends at once with an answer of some kind and the memory as it was**, or throws, for which it
needs an excuse. -/
def Settles (run : Run α) (memory : Memory) (kind : α → Prop) (excuse : Prop) : Prop :=
  (∃ answer, kind answer ∧ run.Ends memory (.value answer) memory) ∨
    (excuse ∧ ∃ exception after, run.Ends memory (.thrown exception) after ∧ memory.Grown after)

variable {memory : Memory} {excuse : Prop}

theorem settles_pure {answer : α} {kind : α → Prop} (here : kind answer) :
    (pure answer : Run α).Settles memory kind excuse := .inl ⟨answer, here, ends_pure answer memory⟩

theorem Ends.settles {run : Run α} {answer : α} {kind : α → Prop}
    (ends : run.Ends memory (.value answer) memory) (here : kind answer) :
    run.Settles memory kind excuse := .inl ⟨answer, here, ends⟩

theorem Settles.bind {first : Run α} {next : α → Run β} {kind : α → Prop} {next' : β → Prop}
    (settles : first.Settles memory kind excuse)
    (continues : ∀ answer, kind answer → (next answer).Settles memory next' excuse) :
    (first >>= next).Settles memory next' excuse := by
  rcases settles with ⟨answer, here, ends⟩ | ⟨excused, exception, after, ends, same⟩
  · rcases continues answer here with ⟨later, there, ends'⟩ | ⟨excused, exception, after, ends', same⟩
    · exact .inl ⟨later, there, ends.bind ends'⟩
    · exact .inr ⟨excused, exception, after, ends.bind ends', same⟩
  · exact .inr ⟨excused, exception, after, ends.bind_thrown next, same⟩

/-- A part settles behind one that answers and leaves the memory as it was. -/
theorem Ends.settles_bind {first : Run α} {next : α → Run β} {answer : α} {kind : β → Prop}
    (ends : first.Ends memory (.value answer) memory)
    (continues : (next answer).Settles memory kind excuse) :
    (first >>= next).Settles memory kind excuse :=
  Settles.bind (ends.settles rfl : first.Settles memory (· = answer) excuse)
    fun _ same => same ▸ continues

theorem Settles.imp {run : Run α} {kind wider : α → Prop} {weaker : Prop}
    (settles : run.Settles memory kind excuse) (answers : ∀ answer, kind answer → wider answer)
    (excuses : excuse → weaker) : run.Settles memory wider weaker := by
  rcases settles with ⟨answer, here, ends⟩ | ⟨excused, rest⟩
  · exact .inl ⟨answer, answers answer here, ends⟩
  · exact .inr ⟨excuses excused, rest⟩

/-- What settles for every item settles for all of them, in order. -/
theorem settles_each {γ : Type} {work : α → Run β} {related : α → γ → Prop} {items : List α}
    {others : List γ} (kind : γ → β → Prop) (pairs : Forall₂ related items others)
    (settles : ∀ item other, related item other → (work item).Settles memory (kind other) excuse) :
    (each work items).Settles memory (Forall₂ kind others) excuse := by
  induction pairs with
  | nil => exact settles_pure .nil
  | cons pair _ ih =>
    refine (settles _ _ pair).bind fun made here => ?_
    exact ih.bind fun others later => settles_pure (.cons here later)

/-- One repetition and the rest of them. -/
theorem settles_iterate_succ {step : σ → Run (σ ⊕ α)} {state : σ} {limit : Nat} {kind : α → Prop}
    (between : σ ⊕ α → Prop) (first : (step state).Settles memory between excuse)
    (again : ∀ state, between (.inl state) → (iterate step limit state).Settles memory kind excuse)
    (ready : ∀ answer, between (.inr answer) → kind answer) :
    (iterate step (limit + 1) state).Settles memory kind excuse := by
  have unrolled : ∀ outcome after, (step state >>= fun answer =>
      answer.elim (iterate step limit) pure).Ends memory outcome after →
      (iterate step (limit + 1) state).Ends memory outcome after := by
    intro outcome after ends
    show Part.iterate step (limit + 1) state memory = _
    rw [Part.iterate_succ]
    refine Eq.trans ?_ ends
    show Part.andThen _ _ _ = Part.andThen _ _ _
    congr 2
    funext answer
    cases answer <;> rfl
  have whole : (step state >>= fun answer => answer.elim (iterate step limit) pure).Settles memory
      kind excuse := by
    refine first.bind fun answer here => ?_
    cases answer with
    | inl state => exact again state here
    | inr answer => exact settles_pure (ready answer here)
  rcases whole with ⟨answer, here, ends⟩ | ⟨excused, exception, after, ends, same⟩
  · exact .inl ⟨answer, here, unrolled _ _ ends⟩
  · exact .inr ⟨excused, exception, after, unrolled _ _ ends, same⟩

/-- What settles for every number below a bound settles for all of them, in order. -/
theorem settles_count {bound : Nat} {work : σ → Nat → Run σ} {kind : Nat → σ → Prop} {start : σ}
    (settles : ∀ index state, index < bound → kind index state →
      (work state index).Settles memory (kind (index + 1)) excuse) (first : kind 0 start) :
    (count bound work start).Settles memory (kind bound) excuse := by
  have all : ∀ left index state, index + left = bound → kind index state →
      (iterate (fun reached : Nat × σ => do
        if reached.1 < bound then return .inl (reached.1 + 1, ← work reached.2 reached.1)
        else return .inr reached.2)
        (left + 1) (index, state)).Settles memory (kind bound) excuse := by
    intro left
    induction left with
    | zero =>
      intro index state reached here
      refine settles_iterate_succ (fun answer => answer = .inr state) ?_ nofun ?_
      · dsimp only
        rw [if_neg (by omega)]
        exact settles_pure rfl
      · intro answer same
        cases same
        exact (show index = bound by omega) ▸ here
    | succ left ih =>
      intro index state reached here
      refine settles_iterate_succ
        (fun answer => ∃ later, answer = .inl (index + 1, later) ∧ kind (index + 1) later) ?_ ?_ ?_
      · dsimp only
        rw [if_pos (by omega)]
        exact (settles index state (by omega) here).bind fun later there =>
          settles_pure ⟨later, rfl, there⟩
      · rintro answer ⟨later, same, there⟩
        cases same
        exact ih (index + 1) later (by omega) there
      · rintro answer ⟨later, same, there⟩
        cases same
  exact all bound 0 start (Nat.zero_add bound) first

end Run

/-! ### What objects and arrays say of themselves -/

/-- The key of the method that speaks for an object. -/
def speech : Key := .ofString "toJSON"

/-- **A realm in which objects and arrays are written as they are**: no prototype speaks for them. -/
structure Realm.Literal (realm : Realm) : Prop where
  objects : realm.Mute speech (some realm.landmarks.objectParent)
  arrays : realm.Mute speech (some realm.landmarks.arrayParent)

theorem Realm.Literal.grown {before after : Realm} (literal : before.Literal)
    (grown : before.Grown after) : after.Literal where
  objects := grown.landmarks_eq ▸ literal.objects.grown grown
  arrays := grown.landmarks_eq ▸ literal.arrays.grown grown

/-- An array of its own has no method that speaks for it. -/
theorem Realm.own?_row (realm : Realm) (values : List Value) : (realm.row values).own? speech = none := by
  rfl

/-- **What stands for a value is what is written for it.** -/
theorem ends_replaced (caller : Caller) {memory : Memory} (literal : memory.realm.Literal)
    {json : Json} {value : Value} (holds : memory.realm.Holds json value) (holder : Value) (key : Units) :
    (({} : Selection).replaced caller holder key value).Ends memory (.value value) memory := by
  refine Run.Ends.bind ?_ (Run.ends_pure _ memory)
  have spoken : ∀ address, value = .object address → (∃ found,
      (get caller (.object address) speech).Ends memory (.value found) memory ∧
        memory.realm.isCallable found = false) →
      (represented caller key value).Ends memory (.value value) memory := by
    rintro address rfl ⟨found, ends, idle⟩
    refine ends.bind (.bind (Run.ends_look _ memory) ?_)
    rw [idle]
    exact Run.ends_pure _ memory
  cases json with
  | null | boolean _ | number _ | text _ =>
    cases holds
    rfl
  | list items =>
    obtain ⟨address, values, rfl, made, object, below, parts⟩ := holds
    refine spoken address rfl (ends_get_mute caller ?_ ?_)
    · rw [object, Realm.own?_row]
      exact nofun
    · rw [object]
      exact literal.arrays
  | members entries =>
    obtain ⟨address, fields, rfl, made, object, below, parts⟩ := holds
    refine spoken address rfl (ends_get_mute caller ?_ ?_)
    · rw [object]
      intro property found
      obtain ⟨name, value, member, rfl⟩ := Object.own?_record_mem found
      obtain ⟨entry, -, -, holds⟩ := Realm.holdsEntries_mem parts member
      exact ⟨value, true, rfl, holds.inert⟩
    · rw [object]
      exact literal.objects

/-! ### Drafts -/

/-- The draft of a value in some order, if its numbers are integers that doubles hold. -/
def Drafts (json : Json) (draft : Option Draft) : Prop :=
  json.Whole → ∃ same, same.Stands json ∧ draft = some (.ofJson same)

/-- What stands for a value is drafted as that value, unless it nests too deep. -/
def DraftsBack (caller : Caller) (memory : Memory) (json : Json) : Prop :=
  ∀ value limit above holder key, memory.realm.Holds json value →
    (∀ other ∈ above, value.Below other) →
    (draftOf caller {} limit above holder key value).Settles memory (Drafts json)
      (limit ≤ json.depth)

/-- An object below those around it is none of them. -/
theorem unseen {above : List Address} {address : Address}
    (free : ∀ other ∈ above, (Value.object address).Below other) :
    above.contains address = false := by
  rw [List.contains_eq_mem, decide_eq_false_iff_not]
  exact fun member => Nat.lt_irrefl _ (free address member address rfl)

/-- What is below an object is below those around it. -/
theorem below_cons {above : List Address} {address : Address} {value : Value}
    (free : ∀ other ∈ above, (Value.object address).Below other) (within : value.Below address) :
    ∀ other ∈ address :: above, value.Below other :=
  List.forall_mem_cons.mpr
    ⟨within, fun other member => within.mono (Nat.le_of_lt (free other member address rfl))⟩

/-- Without a level left, drafting throws. -/
theorem settles_exhausted (caller : Caller) (memory : Memory) {kind : Option Draft → Prop}
    {excuse : Prop} (excused : excuse) (above : List Address) (holder : Value) (key : Units)
    (value : Value) :
    (draftOf caller {} 0 above holder key value).Settles memory kind excuse :=
  .inr ⟨excused, _, _, Run.ends_raise .internal "stack overflow" memory, .create memory _⟩

/-- A simple value is drafted as itself. -/
theorem drafts_simple {caller : Caller} {memory : Memory} {json : Json} (normal : json.normal = json)
    (drafted : ∀ value, memory.realm.Holds json value → ∀ limit above holder key, ∃ draft,
      (draftOf caller {} (limit + 1) above holder key value).Ends memory (.value draft) memory ∧
        (json.Whole → draft = some (.ofJson json))) : DraftsBack caller memory json := by
  intro value limit above holder key holds _
  cases limit with
  | zero => exact settles_exhausted caller memory (Nat.zero_le _) above holder key value
  | succ limit =>
    obtain ⟨draft, ends, same⟩ := drafted value holds limit above holder key
    exact ends.settles fun whole => ⟨json, .simple whole normal, same whole⟩

/-- The items of an array are found by their indices. -/
theorem ends_itemAt (caller : Caller) {memory : Memory} {address : Address} {values : List Value}
    (object : memory.realm.object address = memory.realm.row values) {index : Nat} {value : Value}
    (found : values[index]? = some value) (usable : value ≠ .panic) :
    (itemAt caller address index).Ends memory (.value value) memory := by
  refine .bind (Run.ends_look _ memory) ?_
  have ordinary : (Items.ofList (values.map some)).item? index = some value := by
    show ((values.map some).toArray[index]?).join = _
    rw [List.getElem?_toArray, List.getElem?_map, found]
    rfl
  rw [object]
  dsimp only [Realm.row]
  rw [ordinary]
  exact ends_usable usable memory

/-- The drafts of the first items, the last in front. -/
def DraftsItems (items : List Json) (count : Nat) (drafts : List Draft) : Prop :=
  (∀ item ∈ items, item.Whole) →
    ∃ sames, Forall₂ Json.Stands sames (items.take count) ∧ drafts.reverse = Draft.ofItems sames

theorem draftsItems_nil (items : List Json) : DraftsItems items 0 [] := fun _ => ⟨[], .nil, rfl⟩

theorem DraftsItems.snoc {items : List Json} {index : Nat} {drafts : List Draft}
    (drafted : DraftsItems items index drafts) {item : Json} {draft : Option Draft}
    (found : items[index]? = some item) (next : Drafts item draft) :
    DraftsItems items (index + 1) (draft.getD .null :: drafts) := by
  intro whole
  obtain ⟨sames, stands, reversed⟩ := drafted whole
  obtain ⟨same, stand, rfl⟩ := next (whole item (List.mem_of_getElem? found))
  refine ⟨sames ++ [same], ?_, ?_⟩
  · rw [List.take_add_one, found]
    exact List.rel_append stands (.cons stand .nil)
  · rw [List.reverse_cons, reversed, Draft.ofItems_eq, Draft.ofItems_eq, List.map_append]
    rfl

/-- A list is drafted item by item. -/
theorem drafts_list {caller : Caller} {memory : Memory} (literal : memory.realm.Literal)
    {items : List Json} (parts : ∀ item ∈ items, DraftsBack caller memory item) :
    DraftsBack caller memory (.list items) := by
  intro value limit above holder key holds free
  cases limit with
  | zero => exact settles_exhausted caller memory (Nat.zero_le _) above holder key value
  | succ limit =>
    have spoken := ends_replaced caller literal holds holder key
    obtain ⟨address, values, rfl, made, object, below, parts'⟩ := holds
    rw [draftOf]
    refine spoken.settles_bind ?_
    refine (Run.ends_look _ memory).settles_bind ?_
    rw [object]
    show Run.Settles (if above.contains address then _ else _) _ _ _
    rw [unseen free, if_neg (by decide)]
    rw [Realm.holdsItems_iff] at parts'
    have length : (Items.ofList (values.map some)).length = values.length := by
      show (values.map some).toArray.size = _
      rw [List.size_toArray, List.length_map]
    have kind : (memory.realm.row values).kind = .array (.ofList (values.map some)) := rfl
    simp only [kind]
    rw [length, ← parts'.length_eq]
    refine (Run.settles_count (fun index drafts few here => ?_) (draftsItems_nil items)).bind ?_
    · obtain ⟨item, value, isItem, isValue, stands⟩ := forall₂_getElem? parts' few
      have found := List.mem_of_getElem? isItem
      have usable : value ≠ .panic := stands.inert.usable
      refine (ends_itemAt caller object isValue usable).settles_bind ?_
      have drafted := parts item found value limit (address :: above) (.object address)
        (Units.ofString (toString index)) stands
        (below_cons free (below value (List.mem_of_getElem? isValue)))
      refine (drafted.imp (fun _ => id) fun few => ?_).bind fun draft next => ?_
      · exact Nat.lt_of_le_of_lt few (Json.depth_lt_list found)
      · exact Run.settles_pure (here.snoc isItem next)
    · intro drafts drafted
      refine Run.settles_pure fun whole => ?_
      cases whole with | list whole =>
      obtain ⟨sames, stand, reversed⟩ := drafted whole
      rw [List.take_length] at stand
      exact ⟨.list sames, .list stand, by rw [reversed, Draft.ofJson]⟩

/-- The draft of a field in some order. -/
def DraftsEntry (entry : String × Json) (draft : Option (Units × Draft)) : Prop :=
  entry.2.Whole →
    ∃ same : Json, same.Stands entry.2 ∧ draft = some (Units.ofString entry.1, Draft.ofJson same)

/-- The drafts of fields. -/
theorem draftsEntries {entries : List (String × Json)} {drafts : List (Option (Units × Draft))}
    (drafted : Forall₂ DraftsEntry entries drafts) (whole : ∀ entry ∈ entries, entry.2.Whole) :
    ∃ sames : List (String × Json),
      Forall₂ (fun same entry => same.1 = entry.1 ∧ same.2.Stands entry.2) sames entries ∧
        drafts.filterMap id = Draft.ofEntries sames := by
  induction drafted with
  | nil => exact ⟨[], .nil, rfl⟩
  | @cons entry _ _ _ here _ ih =>
    obtain ⟨same, stand, rfl⟩ := here (whole entry List.mem_cons_self)
    obtain ⟨sames, stands, listed⟩ := ih fun other found => whole other (List.mem_cons_of_mem _ found)
    refine ⟨(entry.1, same) :: sames, .cons ⟨rfl, stand⟩ stands, ?_⟩
    rw [List.filterMap_cons, id, listed, Draft.ofEntries, Draft.ofEntry]

/-- The fields of an object that stands for entries have the names of those. -/
theorem names_eq {realm : Realm} {entries : List (String × Json)} {fields : List (String × Value)}
    (parts : Forall₂ (fun entry field => field.1 = entry.1 ∧ realm.Holds entry.2 field.2) entries
      fields) : fields.map Prod.fst = entries.map Prod.fst := by
  induction parts with
  | nil => rfl
  | cons here _ ih => rw [List.map_cons, List.map_cons, here.1, ih]

/-- A name that is listed, and the entry of the field it names. -/
def Names (realm : Realm) (entries : List (String × Json)) (fields : List (String × Value))
    (name : Units) (entry : String × Json) : Prop :=
  name = Units.ofString entry.1 ∧ entry ∈ entries ∧
    ∃ value, (entry.1, value) ∈ fields ∧ realm.Holds entry.2 value

/-- **The names that are listed are those of the entries, in some order.** -/
theorem listed_order (realm : Realm) {entries : List (String × Json)}
    {fields : List (String × Value)} (apart : (fields.map Prod.fst).Nodup)
    (parts : Forall₂ (fun entry field => field.1 = entry.1 ∧ realm.Holds entry.2 field.2) entries
      fields) :
    ∃ order, Forall₂ (Names realm entries fields) (realm.record fields).listed order ∧
      order.Perm entries := by
  have named : ∀ others rest, (∀ entry ∈ others, entry ∈ entries) → (∀ field ∈ rest, field ∈ fields) →
      Forall₂ (fun entry field => field.1 = entry.1 ∧ realm.Holds entry.2 field.2) others rest →
      Forall₂ (Names realm entries fields) (rest.map fun field => Units.ofString field.1) others := by
    intro others rest some here pairs
    induction pairs with
    | nil => exact .nil
    | @cons entry field _ _ pair _ ih =>
      refine .cons ⟨congrArg Units.ofString pair.1, some entry List.mem_cons_self, field.2, ?_, pair.2⟩
        (ih (fun entry found => some entry (List.mem_cons_of_mem _ found))
          fun field found => here field (List.mem_cons_of_mem _ found))
      rw [← pair.1]
      exact here field List.mem_cons_self
  exact List.perm_comp_forall₂ (Object.listed_perm apart)
    (named entries fields (fun _ => id) (fun _ => id) parts)

/-- An object is drafted field by field, in the order in which its fields are listed. -/
theorem drafts_members {caller : Caller} {memory : Memory} (literal : memory.realm.Literal)
    {entries : List (String × Json)} (ascends : (entries.map Prod.fst).Pairwise (· < ·))
    (parts : ∀ entry ∈ entries, DraftsBack caller memory entry.2) :
    DraftsBack caller memory (.members entries) := by
  intro value limit above holder key holds free
  cases limit with
  | zero => exact settles_exhausted caller memory (Nat.zero_le _) above holder key value
  | succ limit =>
    have spoken := ends_replaced caller literal holds holder key
    obtain ⟨address, fields, rfl, made, object, below, parts'⟩ := holds
    rw [draftOf]
    refine spoken.settles_bind ?_
    refine (Run.ends_look _ memory).settles_bind ?_
    rw [object]
    show Run.Settles (if above.contains address then _ else _) _ _ _
    rw [unseen free, if_neg (by decide)]
    have kind : (memory.realm.record fields).kind = .plain := rfl
    simp only [kind]
    rw [Realm.holdsEntries_iff] at parts'
    have names : fields.map Prod.fst = entries.map Prod.fst := names_eq parts'
    have apart : (fields.map Prod.fst).Nodup := names ▸ ascends.imp ne_of_lt
    obtain ⟨order, pairs, same⟩ := listed_order memory.realm apart parts'
    refine (Run.settles_each DraftsEntry pairs ?_).bind ?_
    · rintro name entry ⟨rfl, found, value, member, stands⟩
      have field : memory.realm.field? (memory.realm.object address) (.text (Units.ofString entry.1)) =
          some (.plain value) := by
        have own : (memory.realm.record fields).own? (.text (Units.ofString entry.1)) =
            some (.plain value) := Object.own?_record apart member
        unfold Realm.field?
        rw [object, own]
      refine (ends_get caller field rfl stands.inert.usable).settles_bind ?_
      have drafted := parts entry found value limit (address :: above) (.object address)
        (Units.ofString entry.1) stands (below_cons free (below _ member))
      refine (drafted.imp (fun _ => id) fun few => ?_).bind fun draft next => ?_
      · exact Nat.lt_of_le_of_lt few (Json.depth_lt_members found)
      · refine Run.settles_pure fun whole => ?_
        obtain ⟨same, stand, rfl⟩ := next whole
        exact ⟨same, stand, rfl⟩
    · intro drafts drafted
      refine Run.settles_pure fun whole => ?_
      cases whole with | members whole =>
      obtain ⟨sames, stand, listed⟩ :=
        draftsEntries drafted fun entry found => whole entry (same.mem_iff.mp found)
      exact ⟨.members sames, .members ascends same stand, by rw [listed, Draft.ofJson]⟩

/-- **What stands for a value is drafted as that value in some order**, and throws only if it nests too deep. -/
theorem drafts_back (caller : Caller) {memory : Memory} (literal : memory.realm.Literal) {json : Json}
    (ordered : json.Ordered) : DraftsBack caller memory json := by
  induction ordered with
  | null =>
    refine drafts_simple rfl fun value holds limit above holder key => ?_
    have written := ends_replaced caller literal holds holder key
    cases holds
    exact ⟨_, written.bind (Run.ends_pure _ memory), fun _ => rfl⟩
  | boolean flag =>
    refine drafts_simple rfl fun value holds limit above holder key => ?_
    have written := ends_replaced caller literal holds holder key
    cases holds
    exact ⟨_, written.bind (Run.ends_pure _ memory), fun _ => rfl⟩
  | number number =>
    refine drafts_simple rfl fun value holds limit above holder key => ?_
    have written := ends_replaced caller literal holds holder key
    cases holds
    refine ⟨_, written.bind (Run.ends_pure _ memory), fun whole => ?_⟩
    cases whole with | number small =>
    exact congrArg some (if_pos (by rw [numberValue, Double.ofInt_eq small]; rfl))
  | text text =>
    refine drafts_simple rfl fun value holds limit above holder key => ?_
    have written := ends_replaced caller literal holds holder key
    cases holds
    exact ⟨_, written.bind (Run.ends_pure _ memory), fun _ => rfl⟩
  | list _ ih => exact drafts_list literal ih
  | members ascends _ ih => exact drafts_members literal ascends ih

end ScriptKernel.Script
