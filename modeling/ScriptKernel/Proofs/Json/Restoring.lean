/-
**What decoders restore.**

* `Json.Plain`: a value whose text reads back, nested less deep than a limit;
* `Decoder.Restores`: a decoder makes a value of a plain record of it, the fields of each object in any order;
* `natural_restores`, `integer_restores`, `text_restores`, `oneOf_restores`, `list_restores`, `table_restores`:
  the plain shapes;
* `Shape.decode_restores`: records;
* `choice_takes_key`, `adjacent_restores`, `internal_restores`: variants under a key, beside their content and
  among their fields;
* `Restores.run_print`, `Restores.ofJson`: what a decoder restores it restores from a text and from a value.
-/

import Mathlib.Data.List.Permutation
import ScriptKernel.Proofs.Json.Decoding
import ScriptKernel.Proofs.Json.Reordered

set_option autoImplicit false

namespace ScriptKernel.Json

/-! ### Plain values -/

/-- A value whose text reads back, and which is nested less deep than a limit. -/
structure Plain (limit : Nat) (json : Json) : Prop where
  readable : json.Readable
  shallow : json.depth < limit

namespace Plain

variable {limit : Nat}

theorem mono {more : Nat} {json : Json} (plain : json.Plain limit) (less : limit ≤ more) : json.Plain more :=
  ⟨plain.readable, plain.shallow.trans_le less⟩

theorem text (value : String) : (Json.text value).Plain 1 := ⟨.text value, Nat.one_pos⟩

theorem integer {value : Int} (within : Number.InRange value) : (Json.int value).Plain 1 :=
  ⟨.number within.readable, Nat.one_pos⟩

theorem list (positive : 0 < limit) {items : List Json} (plain : ∀ item ∈ items, item.Plain limit) :
    (Json.list items).Plain (limit + 1) :=
  ⟨.list fun item found => (plain item found).readable,
    Nat.succ_lt_succ ((itemsDepth_lt positive).mpr fun item found => (plain item found).shallow)⟩

theorem members (positive : 0 < limit) {entries : List (String × Json)}
    (plain : ∀ entry ∈ entries, entry.2.Plain limit) : (Json.members entries).Plain (limit + 1) :=
  ⟨.members fun entry found => (plain entry found).readable,
    Nat.succ_lt_succ ((entriesDepth_lt positive).mpr fun entry found => (plain entry found).shallow)⟩

/-- An object of plain fields is plain. -/
theorem object (positive : 0 < limit) {entries : List (String × Json)}
    (apart : (entries.map Prod.fst).Nodup) (plain : ∀ entry ∈ entries, entry.2.Plain limit) :
    (Json.object entries).Plain (limit + 1) := by
  obtain ⟨sorted, made, same⟩ := object_members apart
  rw [made]
  exact .members positive fun entry found => plain entry (same.mem_iff.mp found)

/-- The fields of a plain object are plain. -/
theorem of_object {entries : List (String × Json)} (apart : (entries.map Prod.fst).Nodup)
    (plain : (Json.object entries).Plain limit) : ∀ entry ∈ entries, entry.2.Plain limit := by
  intro entry found
  obtain ⟨sorted, made, same⟩ := object_members apart
  have here : entry ∈ sorted := same.mem_iff.mpr found
  rw [made] at plain
  cases plain.readable with
  | members readable => exact ⟨readable entry here, (depth_lt_members here).trans plain.shallow⟩

theorem reordered {record json : Json} (plain : json.Plain limit) (same : record.Reordered json) :
    record.Plain limit :=
  ⟨same.readable plain.readable, by rw [same.depth_eq]; exact plain.shallow⟩

end Plain

/-- In a part that was set aside there is room for every value. -/
theorem Source.setAside_holds (json : Json) : Source.setAside.Holds json := by
  simp [Source.Holds]

/-- Where there is room for a list, it is entered, and there is room for each of its items. -/
theorem Source.Holds.enterList {source : Source} {items : List Json} (room : source.Holds (.list items))
    (opening : List Char) :
    ∃ inner, source.enter opening = .ok inner ∧ ∀ item ∈ items, inner.Holds item := by
  cases source with
  | whole => exact ⟨.whole, rfl, by simp [Holds]⟩
  | setAside => exact ⟨.setAside, rfl, fun item _ => setAside_holds item⟩
  | stream depth =>
    have deep : itemsDepth items + 1 < depth := room depth rfl
    refine ⟨.stream (depth - 1), if_neg (by omega), fun item found less same => ?_⟩
    cases same
    exact (itemsDepth_lt (by omega)).mp (by omega) item found

/-- What is written like a value is set apart without a flaw where there is room for it. -/
theorem Source.Holds.setApart {source : Source} {json : Json} (room : source.Holds json) {tree : Tree}
    (spells : tree.Spells json) : source.setApart tree = .ok () := by
  unfold Source.setApart
  cases source with
  | whole => rfl
  | setAside => rfl
  | stream depth =>
    have deep := room depth rfl
    simp only [(spells.flaw depth (by omega)).mpr deep]

namespace Decoder

variable {α β : Type} {limit : Nat} {json : Json} {value : α}

/-- A decoder takes a record as a value, the fields of each object in any order. -/
def TakesAny (decode : Decoder α) (json : Json) (value : α) : Prop :=
  ∀ record, record.Reordered json → decode.Takes record value

/-- **A decoder restores a value from a plain record**, the fields of each object in any order. -/
structure Restores (decode : Decoder α) (limit : Nat) (json : Json) (value : α) : Prop where
  takes : decode.TakesAny json value
  plain : json.Plain limit

theorem Restores.mono {decode : Decoder α} {more : Nat} (restores : decode.Restores limit json value)
    (less : limit ≤ more) : decode.Restores more json value :=
  ⟨restores.takes, restores.plain.mono less⟩

/-! ### Plain shapes -/

/-- An integer in range is taken. -/
theorem integer_takes (type : String) {low high value : Int} (within : low ≤ value ∧ value < high) :
    (integer type low high).TakesAny (Json.int value) value := by
  intro record same source tree _ spells
  cases same
  cases spells
  exact if_pos within

theorem integer_restores (type : String) {low high value : Int} (within : low ≤ value ∧ value < high)
    (bounds : -(Nat.pow 2 63 : Nat) ≤ low ∧ high ≤ (Nat.pow 2 64 : Nat)) :
    (integer type low high).Restores 1 (Json.int value) value :=
  ⟨integer_takes type within, .integer ⟨bounds.1.trans within.1, within.2.trans_le bounds.2⟩⟩

theorem natural_restores (type : String) {bits value : Nat} (small : value < Nat.pow 2 bits)
    (few : bits ≤ 64) : (natural type bits).Restores 1 (Json.nat value) value := by
  refine ⟨fun record same => ?_, .integer ⟨by omega, ?_⟩⟩
  · cases same
    exact natural_takes type small
  · exact Int.ofNat_lt.mpr (small.trans_le (Nat.pow_le_pow_right (by decide) few))

theorem text_restores (expected value : String) : (textAs expected).Restores 1 (.text value) value := by
  refine ⟨fun record same source tree _ spells => ?_, .text value⟩
  cases same
  cases spells
  rfl

/-- Any value in order is taken. -/
theorem any_takes (ordered : json.Ordered) : any.TakesAny json json := by
  intro record same source tree room spells
  unfold any
  rw [room.setApart spells, spells.value, same.normal_eq ordered]
  rfl

theorem map_takes_any {decode : Decoder α} (takes : decode.TakesAny json value) (make : α → β) :
    TakesAny (fun source tree => (decode source tree).map make) json (make value) :=
  fun record same => map_takes (takes record same) make

theorem map_restores {decode : Decoder α} (restores : decode.Restores limit json value) (make : α → β) :
    Restores (fun source tree => (decode source tree).map make) limit json (make value) :=
  ⟨map_takes_any restores.takes make, restores.plain⟩

theorem oneOf_restores {values : List (String × α)} {name : String}
    (found : lookup? name values = some value) : (oneOf values).Restores 1 (.text name) value := by
  refine ⟨fun record same => ?_, .text name⟩
  cases same
  exact oneOf_takes found

/-! ### Lists and tables -/

theorem items_take {decode : Decoder α} {source : Source} {items : List Json} {values : List α}
    (takes : List.Forall₂ decode.Takes items values) (room : ∀ item ∈ items, source.Holds item)
    {trees : List Tree} (spells : Tree.SpellsItems trees items) :
    Decoder.items decode source trees = .ok values := by
  induction takes generalizing trees with
  | nil =>
    cases spells
    rfl
  | cons first _ ih =>
    cases spells with
    | cons spelled rest =>
      have taken := first source _ (room _ List.mem_cons_self) spelled
      have others := ih (fun item found => room item (.tail _ found)) rest
      simp only [Decoder.items, taken, others]
      rfl

/-- A list is restored item by item. -/
theorem list_restores (positive : 0 < limit) {decode : Decoder α} {items : List Json} {values : List α}
    (restores : List.Forall₂ (decode.Restores limit) items values) :
    (list decode).Restores (limit + 1) (.list items) values := by
  have plain : ∀ item ∈ items, item.Plain limit :=
    ((List.forall₂_and_left _ _).mp (restores.imp fun _ _ restored => ⟨restored.plain, restored⟩)).1
  refine ⟨fun record same => ?_, .list positive plain⟩
  cases same with
  | @list others _ same =>
    have takes : List.Forall₂ decode.Takes others values := by
      clear plain
      induction restores generalizing others with
      | nil =>
        cases same
        exact .nil
      | cons first _ ih =>
        cases same with
        | cons here rest => exact .cons (first.takes _ here) (ih rest)
    intro source tree room spells
    cases spells with
    | list opening after spelled =>
      obtain ⟨inner, entered, within⟩ := room.enterList opening
      simp only [list, entered, items_take takes within spelled, Tree.listFlaw?, refuse, bind, Except.bind]
      rfl

theorem entries_take {decode : Decoder α} {source : Source} {entries : List (String × Json)}
    {values : List (String × α)}
    (takes : List.Forall₂ (fun entry value => entry.1 = value.1 ∧ decode.Takes entry.2 value.2) entries values)
    (room : ∀ entry ∈ entries, source.Holds entry.2) {trees : List (Tree × Tree)}
    (spells : Tree.SpellsEntries trees entries) (built : List (String × α)) :
    Decoder.entries decode source trees built =
      .ok (values.foldl (fun built value => insert value.1 value.2 built) built) := by
  induction takes generalizing trees built with
  | nil =>
    cases spells
    rfl
  | cons first _ ih =>
    cases spells with
    | cons spelled rest =>
      have taken := first.2 source _ (room _ List.mem_cons_self) spelled
      have others := ih (fun entry found => room entry (.tail _ found)) rest
      simp only [Decoder.entries, Tree.keyFlaw?, refuse, Tree.keyText, taken, List.foldl_cons, ← first.1]
      exact others _

/-- A table whose names ascend is restored, whatever the order in which it is written. -/
theorem table_restores (positive : 0 < limit) {decode : Decoder α} {encode : α → Json}
    {values : List (String × α)} (ascends : (values.map Prod.fst).Pairwise (· < ·))
    (restores : ∀ value ∈ values, decode.Restores limit (encode value.2) value.2) :
    (table decode).Restores (limit + 1) (object (values.map fun value => (value.1, encode value.2))) values := by
  have names : (values.map fun value => (value.1, encode value.2)).map Prod.fst = values.map Prod.fst := by
    simp
  have apart : ((values.map fun value => (value.1, encode value.2)).map Prod.fst).Nodup := by
    rw [names]
    exact ascends.imp fun below => ne_of_lt below
  have plain : ∀ entry ∈ values.map fun value => (value.1, encode value.2), entry.2.Plain limit := by
    intro entry found
    obtain ⟨value, here, rfl⟩ := List.mem_map.mp found
    exact (restores value here).plain
  refine ⟨fun record same => ?_, .object positive apart plain⟩
  obtain ⟨entries, kept, rfl, spelt, placed⟩ := same.of_object apart
  have each : List.Forall₂ (fun (entry : String × Json) (value : String × α) =>
      entry.1 = value.1 ∧ decode.TakesAny entry.2 value.2)
      (values.map fun value => (value.1, encode value.2)) values := by
    rw [List.forall₂_map_left_iff, List.forall₂_same]
    exact fun value here => ⟨rfl, (restores value here).takes⟩
  obtain ⟨others, each, moved⟩ := List.perm_comp_forall₂ placed each
  have takes : List.Forall₂ (fun (entry : String × Json) (value : String × α) =>
      entry.1 = value.1 ∧ decode.Takes entry.2 value.2) entries others :=
    spelt.forall₂ (fun _ _ _ _ here taken => ⟨taken.1, taken.2 _ here⟩) each
  intro source tree room spells
  cases spells with
  | members opening after spelled =>
    obtain ⟨inner, entered, within⟩ := room.enter opening
    simp only [table, entered, entries_take takes within spelled, insertAll_perm ascends moved,
      Tree.objectFlaw?, refuse, bind, Except.bind]
    rfl

end Decoder

/-! ### Records -/

namespace Shape

variable {ρ α : Type} {shape : Shape ρ α} {limit : Nat}

/-- A record stores a plain field, the fields inside of it in any order. -/
structure Keeps (shape : Shape ρ α) (limit : Nat) (field : String × Json) (put : ρ → ρ) : Prop where
  stores : ∀ record, record.Reordered field.2 → shape.Stores (field.1, record) put
  plain : field.2.Plain limit

/-- A member whose decoder restores the value keeps the field. -/
theorem keeps_of_restores {β : Type} {name : String} {decode : Decoder β} {store : β → ρ → ρ} {json : Json}
    {value : β} (found : shape.fields.find? (·.name == name) = some (.of name decode store))
    (restores : decode.Restores limit json value) : shape.Keeps limit (name, json) (store value) :=
  ⟨fun record same => stores_of_takes found (restores.takes record same) rfl, restores.plain⟩

/-- **A record is restored from its fields in any order**, if it makes the value of what they leave. -/
theorem decode_restores (positive : 0 < limit) {fields : List (String × Json)} {puts : List (ρ → ρ)} {value : α}
    (keeps : List.Forall₂ (shape.Keeps limit) fields puts) (apart : (fields.map Prod.fst).Nodup)
    (commute : ∀ first ∈ puts, ∀ second ∈ puts, ∀ record, second (first record) = first (second record))
    (built : shape.build (puts.foldl (fun record put => put record) shape.start) = .ok value) :
    shape.decode.Restores (limit + 1) (object fields) value := by
  have plain : ∀ field ∈ fields, field.2.Plain limit :=
    ((List.forall₂_and_left _ _).mp (keeps.imp fun _ _ kept => ⟨kept.plain, kept⟩)).1
  refine ⟨fun record same => ?_, .object positive apart plain⟩
  obtain ⟨entries, kept, rfl, spelt, placed⟩ := same.of_object apart
  obtain ⟨others, keeps, moved⟩ := List.perm_comp_forall₂ placed keeps
  have stores : List.Forall₂ shape.Stores entries others :=
    spelt.forall₂ (fun _ _ _ _ here kept => kept.stores _ here) keeps
  refine decode_takes stores ?_ ?_ ?_ (.refl entries)
  · rw [spelt.names_eq]
    exact (placed.map Prod.fst).nodup_iff.mpr apart
  · exact fun first here second there record =>
      commute first (moved.subset here) second (moved.subset there) record
  · rw [← built]
    exact congrArg shape.build (moved.foldl_eq' (fun first here second there record =>
      commute first (moved.subset here) second (moved.subset there) record) shape.start)

/-- A record that is only read by name is restored as well. -/
theorem decodeNamed_restores {fields : List (String × Json)} {value : α}
    (restores : shape.decode.Restores limit (object fields) value) :
    shape.decodeNamed.Restores limit (object fields) value := by
  refine ⟨fun record same source tree room spells => ?_, restores.plain⟩
  have taken := restores.takes record same source tree room spells
  cases same with
  | members =>
    cases spells with
    | members => exact taken

end Shape

/-! ### Variants under a key -/

namespace Decoder

variable {α : Type} {limit : Nat} {json : Json} {value : α}

/-- A bare name is taken. -/
theorem choice_takes_name {variants : List (String × Variant α)} {name : String}
    (found : lookup? name variants = some (.bare value)) : (choice variants).TakesAny (.text name) value := by
  intro record same source tree _ spells
  cases same
  cases spells
  unfold choice
  simp only [bareVariant, found]

/-- A name with a value is taken as a key over the value. -/
theorem choice_takes_key {variants : List (String × Variant α)} {name : String} {decode : Decoder α}
    (found : lookup? name variants = some (.holding decode)) (takes : decode.TakesAny json value) :
    (choice variants).TakesAny (object [(name, json)]) value := by
  intro record same source tree room spells
  cases same with
  | members entries placed =>
    have one := List.perm_singleton.mp placed
    subst one
    cases entries with
    | cons here none =>
      cases none
      cases spells with
      | @members trees _ opening after spelled =>
        obtain ⟨inner, entered, within⟩ := room.enter opening
        cases spelled with
        | @cons _ between tree _ _ _ first others =>
          cases others
          have taken := takes _ here inner tree (within _ List.mem_cons_self) first
          have keyed : keyedVariant variants inner name tree = .ok value := by
            rw [keyedVariant, found]
            exact taken
          unfold choice
          cases source with
          | stream depth =>
            simp only [entered, keyed, bind, Except.bind]
            rfl
          | whole =>
            cases entered
            exact keyed
          | setAside =>
            cases entered
            exact keyed

/-! ### Variants beside their content -/

/-- The field with the name comes next. -/
theorem nextRelevant_tag (tagging : Tagging) (source : Source) (ending : Ending) (between : List Char)
    (tree : Tree) (rest : List (Tree × Tree)) :
    nextRelevant tagging source ending ((.text (.ok tagging.tag) between, tree) :: rest) =
      .ok (some (true, tree, rest)) := by
  unfold nextRelevant
  simp only [Tree.keyFlaw?, Tree.keyText, if_true]
  rfl

/-- The field with the content comes next. -/
theorem nextRelevant_content {tagging : Tagging} (apart : tagging.content ≠ tagging.tag) (source : Source)
    (ending : Ending) (between : List Char) (tree : Tree) (rest : List (Tree × Tree)) :
    nextRelevant tagging source ending ((.text (.ok tagging.content) between, tree) :: rest) =
      .ok (some (false, tree, rest)) := by
  unfold nextRelevant
  simp only [Tree.keyFlaw?, Tree.keyText, if_neg apart, if_true]
  rfl

/-- A variant without content is restored from its name. -/
theorem adjacent_restores_name {tagging : Tagging} {variants : List (String × Content α)} {name label : String}
    (found : lookup? name variants = some (.none label value)) :
    (adjacent tagging variants).Restores 2 (object [(tagging.tag, .text name)]) value := by
  have plain : (object [(tagging.tag, .text name)]).Plain 2 :=
    .object Nat.one_pos (by simp) (by simpa using Plain.text name)
  refine ⟨fun record same source tree room spells => ?_, plain⟩
  cases same with
  | members entries placed =>
    have one := List.perm_singleton.mp placed
    subst one
    cases entries with
    | cons here none =>
      cases none
      cases here
      cases spells with
      | members opening after spelled =>
        obtain ⟨inner, entered, within⟩ := room.enter opening
        cases spelled with
        | cons named others =>
          cases others
          have chosen := oneOf_takes found inner _ (within _ List.mem_cons_self) named
          have nothing : nextRelevant tagging inner (.closed after) [] = .ok none := rfl
          unfold adjacent
          simp only [entered, nextRelevant_tag, chosen, nothing, bind, Except.bind]
          rfl

/-- **A variant with content is restored**, whichever of its name and its content comes first. -/
theorem adjacent_restores {tagging : Tagging} {variants : List (String × Content α)} {name : String}
    {chosen : Content α} (apart : tagging.content ≠ tagging.tag)
    (found : lookup? name variants = some chosen) (restores : (content chosen).Restores limit json value) :
    (adjacent tagging variants).Restores (limit + 1)
      (object [(tagging.tag, .text name), (tagging.content, json)]) value := by
  have positive : 0 < limit := (Nat.zero_le _).trans_lt restores.plain.shallow
  have names : ([(tagging.tag, Json.text name), (tagging.content, json)].map Prod.fst).Nodup := by
    simpa using fun same => apart same.symm
  have plain : (object [(tagging.tag, .text name), (tagging.content, json)]).Plain (limit + 1) := by
    refine .object positive names ?_
    simp only [List.forall_mem_cons]
    exact ⟨(Plain.text name).mono positive, restores.plain, List.forall_mem_nil _⟩
  refine ⟨fun record same source tree room spells => ?_, plain⟩
  obtain ⟨entries, kept, rfl, spelt, placed⟩ := same.of_object names
  have nothing : ∀ inner after, nextRelevant tagging inner (.closed after) [] = .ok none := fun _ _ => rfl
  rcases List.perm_pair.mp placed with rfl | rfl
  · -- the name tells how the content is to be read
    cases spelt with
    | cons nameSame spelt =>
      cases spelt with
      | cons bodySame spelt =>
        cases spelt
        cases nameSame
        cases spells with
        | members opening after spelled =>
          obtain ⟨inner, entered, within⟩ := room.enter opening
          cases spelled with
          | cons named others =>
            cases others with
            | cons body none =>
              cases none
              have chose := oneOf_takes found inner _ (within _ List.mem_cons_self) named
              have taken := restores.takes _ bodySame inner _ (within _ (.tail _ List.mem_cons_self)) body
              unfold adjacent
              simp only [entered, nextRelevant_tag, nextRelevant_content apart, chose, taken, noneLeft, nothing,
                bind, Except.bind]
              rfl
  · -- the content is set aside until the name is known
    cases spelt with
    | cons bodySame spelt =>
      cases spelt with
      | cons nameSame spelt =>
        cases spelt
        cases nameSame
        cases spells with
        | members opening after spelled =>
          obtain ⟨inner, entered, within⟩ := room.enter opening
          cases spelled with
          | cons body others =>
            cases others with
            | cons named none =>
              cases none
              have chose := oneOf_takes found inner _ (within _ (.tail _ List.mem_cons_self)) named
              have kept := (within _ List.mem_cons_self).setApart body
              have taken := restores.takes _ bodySame .setAside _ (Source.setAside_holds _) body
              unfold adjacent
              simp only [entered, nextRelevant_tag, nextRelevant_content apart, chose, kept, taken, noneLeft,
                nothing, bind, Except.bind]
              rfl

/-! ### Variants among their fields -/

/-- Fields of other names are set aside, in their order. -/
theorem splitTag_others {tag : String} (variants : List (String × Content α)) {source : Source}
    {trees : List (Tree × Tree)} {entries : List (String × Json)} (spells : Tree.SpellsEntries trees entries)
    (room : ∀ entry ∈ entries, source.Holds entry.2) (apart : tag ∉ entries.map Prod.fst)
    (rest : List (Tree × Tree)) (chosen : Option (Content α)) (others : List (Tree × Tree)) :
    splitTag tag variants source (trees ++ rest) chosen others =
      splitTag tag variants source rest chosen (trees.reverse ++ others) := by
  induction entries generalizing trees others with
  | nil =>
    cases spells
    rfl
  | cons entry entries ih =>
    cases spells with
    | @cons key between tree trees item _ spelled later =>
      rw [List.map_cons, List.mem_cons, not_or] at apart
      have other : key ≠ tag := fun same => apart.1 same.symm
      have kept := (room _ List.mem_cons_self).setApart spelled
      have next := ih later (fun entry found => room entry (.tail _ found)) apart.2
        ((.text (.ok key) between, tree) :: others)
      rw [List.cons_append, List.reverse_cons, List.append_assoc, List.singleton_append, ← next, splitTag]
      simp only [Tree.keyFlaw?, refuse, Tree.keyText, if_neg other, kept, bind, Except.bind]

/-- The name is found wherever it stands among the fields, and the others are set aside without it. -/
theorem splitTag_finds {tag name : String} {variants : List (String × Content α)} {chosen : Content α}
    {source : Source} {before after : List (String × Json)}
    (found : lookup? name variants = some chosen) (apartBefore : tag ∉ before.map Prod.fst)
    (apartAfter : tag ∉ after.map Prod.fst)
    (room : ∀ entry ∈ before ++ (tag, Json.text name) :: after, source.Holds entry.2)
    {trees : List (Tree × Tree)}
    (spells : Tree.SpellsEntries trees (before ++ (tag, .text name) :: after)) :
    ∃ others, splitTag tag variants source trees none [] = .ok (some chosen, others) ∧
      Tree.SpellsEntries others (before ++ after) := by
  obtain ⟨front, back, rfl, first, second⟩ := Tree.spellsEntries_append.mp spells
  cases second with
  | @cons _ between tree back _ _ named last =>
    cases named
    have roomBefore : ∀ entry ∈ before, source.Holds entry.2 := fun entry here =>
      room entry (List.mem_append_left _ here)
    have roomAfter : ∀ entry ∈ after, source.Holds entry.2 := fun entry here =>
      room entry (List.mem_append_right _ (.tail _ here))
    refine ⟨front ++ back, ?_, Tree.spellsEntries_append.mpr ⟨front, back, rfl, first, last⟩⟩
    have rest : splitTag tag variants source back (some chosen) (front.reverse ++ []) =
        splitTag tag variants source [] (some chosen) (back.reverse ++ (front.reverse ++ [])) := by
      have read := splitTag_others variants last roomAfter apartAfter [] (some chosen) (front.reverse ++ [])
      rwa [List.append_nil] at read
    rw [splitTag_others variants first roomBefore apartBefore, splitTag]
    simp only [Tree.keyFlaw?, refuse, Tree.keyText, if_true, Option.isSome_none, Bool.false_eq_true, if_false,
      textAs, found, rest, bind, Except.bind]
    simp [splitTag]

/-- **A variant named among its fields is restored**, wherever its name stands. -/
theorem internal_restores {type tag name : String} {variants : List (String × Content α)} {chosen : Content α}
    {fields : List (String × Json)} (positive : 0 < limit) (found : lookup? name variants = some chosen)
    (apart : (((tag, Json.text name) :: fields).map Prod.fst).Nodup)
    (plain : ∀ field ∈ fields, field.2.Plain limit)
    (takes : ∀ trees record, record.Reordered (object fields) →
      (Tree.object [] trees (.closed [])).Spells record →
        internalContent chosen (.object [] trees (.closed [])) = .ok value) :
    (internal type tag variants).Restores (limit + 1) (object ((tag, .text name) :: fields)) value := by
  have plainAll : ∀ field ∈ (tag, Json.text name) :: fields, field.2.Plain limit :=
    List.forall_mem_cons.mpr ⟨(Plain.text name).mono positive, plain⟩
  refine ⟨fun record same source tree room spells => ?_, .object positive apart plainAll⟩
  obtain ⟨entries, kept, rfl, spelt, placed⟩ := same.of_object apart
  obtain ⟨before, after, rfl⟩ := List.append_of_mem (placed.mem_iff.mpr List.mem_cons_self)
  obtain ⟨front, back, rfl, frontSame, backSame⟩ := reorderedEntries_append.mp spelt
  have left : (before ++ after).Perm fields := List.perm_middle.symm.trans placed |>.cons_inv
  have new : tag ∉ fields.map Prod.fst := (List.nodup_cons.mp apart).1
  have newBefore : tag ∉ before.map Prod.fst := fun old =>
    new ((left.map Prod.fst).mem_iff.mp (by simp [old]))
  have newAfter : tag ∉ after.map Prod.fst := fun old => new ((left.map Prod.fst).mem_iff.mp (by simp [old]))
  cases backSame with
  | @cons _ item _ back _ here backSame =>
    cases here
    cases spells with
    | members opening ending spelled =>
      obtain ⟨inner, entered, within⟩ := room.enter opening
      obtain ⟨others, split, kept⟩ := splitTag_finds found (by rwa [frontSame.names_eq])
        (by rwa [backSame.names_eq]) within spelled
      have body := Reordered.to_object (List.nodup_cons.mp apart).2
        (reorderedEntries_append.mpr ⟨front, back, rfl, frontSame, backSame⟩) left
      unfold internal
      simp only [entered, split, Tree.objectFlaw?, refuse, bind, Except.bind]
      exact takes others _ body (.members [] [] kept)

/-- A variant without fields of its own is restored from its name. -/
theorem internal_restores_name {type tag name label : String} {variants : List (String × Content α)}
    (positive : 0 < limit) (found : lookup? name variants = some (.none label value)) :
    (internal type tag variants).Restores (limit + 1) (object [(tag, .text name)]) value :=
  internal_restores positive found (by simp) (List.forall_mem_nil _) fun _ _ _ _ => rfl

/-- A variant that is a record is restored with its name among the fields. -/
theorem internal_restores_record {type tag name : String} {variants : List (String × Content α)}
    {decode : Decoder α} {fields : List (String × Json)}
    (apart : (((tag, Json.text name) :: fields).map Prod.fst).Nodup)
    (found : lookup? name variants = some (.record decode))
    (restores : decode.Restores limit (object fields) value) :
    (internal type tag variants).Restores (limit + 1) (object ((tag, .text name) :: fields)) value :=
  internal_restores ((Nat.zero_le _).trans_lt restores.plain.shallow) found apart
    (.of_object (List.nodup_cons.mp apart).2 restores.plain)
    fun _ record same spells => restores.takes record same .setAside _ (Source.setAside_holds record) spells

end Decoder

/-! ### Texts and values -/

namespace Decoder

variable {α : Type} {decode : Decoder α} {limit : Nat} {json record : Json} {value : α}

/-- **What a decoder restores it restores from a text**, the fields of each object in any order. -/
theorem Restores.run_print (restores : decode.Restores limit json value) (few : limit ≤ Tree.depthLimit)
    (same : record.Reordered json) : decode.run record.print = .ok value := by
  have plain := restores.plain.reordered same
  exact Decoder.run_print (restores.takes record same) plain.readable (plain.shallow.trans_le few)

/-- **What a decoder takes in any order it takes as a value.** -/
theorem TakesAny.ofJson (takes : decode.TakesAny json value) (same : record.Reordered json) :
    decode.ofJson record = .ok value := ofJson_takes (takes record same)

end Decoder

end ScriptKernel.Json
