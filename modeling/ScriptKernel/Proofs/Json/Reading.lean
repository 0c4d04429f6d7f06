/-
**Structured text reads back.**

* `Tree.Spells`: a tree without defects that is written like the value, part by part; it holds the value in
  order, and has a flaw exactly if the value nests beyond the limit;
* `Tree.ofJson_spells`: a value set aside as a tree is written like itself;
* `Tree.value_chars`: the text of a value reads as such a tree, whatever delimiter follows it;
* `parse_chars`: a whole text reads back, or nests too deep.
-/

import ScriptKernel.Json.Tree
import ScriptKernel.Proofs.Json.Number

set_option autoImplicit false

namespace ScriptKernel.Json

/-! ### Where a value starts -/

/-- A character that a value can start with: neither a blank nor a closing bracket. -/
def Opens (char : Char) : Prop :=
  ¬ (char = ' ' ∨ char = '\n' ∨ char = '\t' ∨ char = '\r') ∧ char ≠ ']' ∧ char ≠ '\x7d'

instance (char : Char) : Decidable (Opens char) := by unfold Opens; infer_instance

/-- A character that a number starts with. -/
def Numeric (char : Char) : Prop := char = '-' ∨ char.isDigit = true

theorem Numeric.ne {char : Char} (numeric : Numeric char) (other : Char) (notMinus : other ≠ '-')
    (notDigit : other.isDigit = false) : char ≠ other := by
  rintro rfl
  rcases numeric with minus | decimal
  · exact notMinus minus
  · rw [decimal] at notDigit
    cases notDigit

theorem Numeric.opens {char : Char} (numeric : Numeric char) : Opens char := by
  refine ⟨?_, numeric.ne _ (by decide) (by decide), numeric.ne _ (by decide) (by decide)⟩
  rintro (blank | blank | blank | blank)
  all_goals exact numeric.ne _ (by decide) (by decide) blank

/-- The text of a number that reads back starts like a number. -/
theorem print_numeric {value : Number} (readable : value.Readable) :
    ∃ first others, value.print.toList = first :: others ∧ Numeric first :=
  Lexeme.numeric_of_number readable

/-- The text of a value starts with a character that values start with. -/
theorem chars_opens {value : Json} (readable : value.Readable) :
    ∃ first others, chars value = first :: others ∧ Opens first := by
  cases readable with
  | null => exact ⟨_, _, rfl, by decide⟩
  | boolean value => cases value <;> exact ⟨_, _, rfl, by decide⟩
  | number readable =>
    obtain ⟨first, others, written, numeric⟩ := print_numeric readable
    exact ⟨first, others, written, numeric.opens⟩
  | text _ | list _ | members _ => exact ⟨_, _, rfl, by decide⟩

/-- The text of items starts like a value. -/
theorem itemChars_opens {first : Json} (readable : first.Readable) (others : List Json)
    (rest : List Char) :
    ∃ head tail, itemChars (first :: others) ++ rest = head :: tail ∧ Opens head := by
  obtain ⟨head, tail, written, opens⟩ := chars_opens readable
  cases others with
  | nil => exact ⟨head, _, by rw [itemChars, written, List.cons_append], opens⟩
  | cons => exact ⟨head, _, by rw [itemChars, written, List.cons_append, List.cons_append], opens⟩

/-- The text of a field. -/
theorem fieldChars_append (key : String) (json : Json) (rest : List Char) :
    fieldChars (key, json) ++ rest = printText key ++ ':' :: (chars json ++ rest) := by
  rw [fieldChars, List.append_assoc, List.cons_append]

/-- The text of fields starts with a quote. -/
theorem entryChars_opens (first : String × Json) (others : List (String × Json))
    (rest : List Char) :
    ∃ head tail, entryChars (first :: others) ++ rest = head :: tail ∧ Opens head := by
  obtain ⟨key, json⟩ := first
  have quote : Opens '"' := by decide
  cases others with
  | nil => exact ⟨'"', _, by rw [entryChars, fieldChars_append]; rfl, quote⟩
  | cons =>
    exact ⟨'"', _, by rw [entryChars, List.append_assoc, fieldChars_append]; rfl, quote⟩

/-- A comma or a closing bracket ends what stands before it. -/
theorem delimited_cons {char : Char} (delimiter : char = ',' ∨ char = ']' ∨ char = '\x7d')
    (rest : List Char) : Delimited (char :: rest) := by
  intro other same
  cases same
  exact delimiter

namespace Tree

theorem skipBlanks_opens {char : Char} (opens : Opens char) (rest : List Char) :
    skipBlanks (char :: rest) = char :: rest := if_neg opens.1

/-! ### Trees of printed values -/

mutual

/-- **A tree that is written like the value**: no part is defective, and all that is open is closed. -/
inductive Spells : Tree → Json → Prop
  | null (after : List Char) : Spells (.null after) .null
  | boolean (value : Bool) (after : List Char) : Spells (.boolean value after) (.boolean value)
  | number (value : Number) (after : List Char) : Spells (.number (.ok value) after) (.number value)
  | text (value : String) (after : List Char) : Spells (.text (.ok value) after) (.text value)
  | list {trees : List Tree} {items : List Json} (opening after : List Char) :
      SpellsItems trees items → Spells (.list opening trees (.closed after)) (.list items)
  | members {trees : List (Tree × Tree)} {entries : List (String × Json)}
      (opening after : List Char) :
      SpellsEntries trees entries → Spells (.object opening trees (.closed after)) (.members entries)

/-- Trees that are written like the items. -/
inductive SpellsItems : List Tree → List Json → Prop
  | nil : SpellsItems [] []
  | cons {tree : Tree} {trees : List Tree} {item : Json} {items : List Json} :
      Spells tree item → SpellsItems trees items → SpellsItems (tree :: trees) (item :: items)

/-- Trees that are written like the fields. -/
inductive SpellsEntries : List (Tree × Tree) → List (String × Json) → Prop
  | nil : SpellsEntries [] []
  | cons {key : String} {between : List Char} {tree : Tree} {trees : List (Tree × Tree)}
      {item : Json} {entries : List (String × Json)} :
      Spells tree item → SpellsEntries trees entries →
        SpellsEntries ((.text (.ok key) between, tree) :: trees) ((key, item) :: entries)

end

mutual

/-- A tree that is written like a value holds it, in order. -/
theorem Spells.value {tree : Tree} {json : Json} : tree.Spells json → tree.toJson = json.normal
  | .null _ | .boolean _ _ | .number _ _ | .text _ _ => rfl
  | .list _ _ items => by rw [toJson, items.value, normal]
  | .members _ _ entries => by
    rw [toJson, entries.value, normal]
    rfl

theorem SpellsItems.value {trees : List Tree} {items : List Json} :
    SpellsItems trees items → itemValues trees = itemsNormal items
  | .nil => rfl
  | .cons first others => by rw [itemValues, first.value, others.value, itemsNormal]

theorem SpellsEntries.value {trees : List (Tree × Tree)} {entries : List (String × Json)} :
    SpellsEntries trees entries → ∀ built, entryValues trees built =
      (entriesNormal entries).foldl (fun built entry => insert entry.1 entry.2 built) built
  | .nil, _ => rfl
  | .cons first others, built => by
    rw [entryValues, first.value, others.value, entriesNormal, List.foldl_cons]
    rfl

end

mutual

/-- A tree that is written like a value has a flaw exactly if the value nests beyond the limit. -/
theorem Spells.flaw {tree : Tree} {json : Json} :
    tree.Spells json → ∀ limit, 0 < limit → (tree.flaw? limit = none ↔ json.depth < limit)
  | .null _, _, positive | .boolean _ _, _, positive | .number _ _, _, positive
  | .text _ _, _, positive => by simp [flaw?, depth, positive]
  | .list _ _ items, limit, positive => by
    rw [flaw?, depth]
    split
    · simp; omega
    · rw [← Nat.lt_sub_iff_add_lt, ← items.flaw _ (by omega)]
      cases itemFlaw? (limit - 1) _ with
      | none => simp [listFlaw?]
      | some flaw => simp
  | .members _ _ entries, limit, positive => by
    rw [flaw?, depth]
    split
    · simp; omega
    · rw [← Nat.lt_sub_iff_add_lt, ← entries.flaw _ (by omega)]
      cases entryFlaw? (limit - 1) _ with
      | none => simp [objectFlaw?]
      | some flaw => simp

theorem SpellsItems.flaw {trees : List Tree} {items : List Json} :
    SpellsItems trees items →
      ∀ limit, 0 < limit → (itemFlaw? limit trees = none ↔ itemsDepth items < limit)
  | .nil, limit, positive => by simp [itemFlaw?, itemsDepth, positive]
  | @SpellsItems.cons tree _ _ _ first others, limit, positive => by
    rw [itemFlaw?, itemsDepth, max_lt_iff, ← first.flaw limit positive, ← others.flaw limit positive]
    cases tree.flaw? limit with
    | none => simp
    | some flaw => simp

theorem SpellsEntries.flaw {trees : List (Tree × Tree)} {entries : List (String × Json)} :
    SpellsEntries trees entries →
      ∀ limit, 0 < limit → (entryFlaw? limit trees = none ↔ entriesDepth entries < limit)
  | .nil, limit, positive => by simp [entryFlaw?, entriesDepth, positive]
  | @SpellsEntries.cons key between tree _ item _ first others, limit, positive => by
    have spelled : keyFlaw? (.text (.ok key) between, tree) = none := rfl
    rw [entryFlaw?, spelled, entriesDepth, max_lt_iff, ← others.flaw limit positive]
    show _ ↔ item.depth < limit ∧ _
    rw [← first.flaw limit positive]
    dsimp only
    cases tree.flaw? limit with
    | none => simp
    | some flaw => simp

end

/-- Fields one after the other are written each like itself. -/
theorem spellsEntries_append {trees : List (Tree × Tree)} {first second : List (String × Json)} :
    SpellsEntries trees (first ++ second) ↔
      ∃ front back, trees = front ++ back ∧ SpellsEntries front first ∧ SpellsEntries back second := by
  constructor
  · intro spells
    induction first generalizing trees with
    | nil => exact ⟨[], trees, rfl, .nil, spells⟩
    | cons entry first ih =>
      cases spells with
      | cons here rest =>
        obtain ⟨front, back, rfl, before, after⟩ := ih rest
        exact ⟨_ :: front, back, rfl, .cons here before, after⟩
  · rintro ⟨front, back, rfl, before, after⟩
    induction first generalizing front with
    | nil =>
      cases before
      exact after
    | cons entry first ih =>
      cases before with
      | cons here rest => exact .cons here (ih _ rest)

/-- A value set aside as a tree is written like itself. -/
theorem ofJson_spells (json : Json) : (ofJson json).Spells json := by
  induction json with
  | null => exact .null []
  | boolean value => exact .boolean value []
  | number value => exact .number value []
  | text value => exact .text value []
  | list items ih =>
    refine .list [] [] ?_
    induction items with
    | nil => exact .nil
    | cons item rest tail =>
      exact .cons (ih item List.mem_cons_self) (tail fun item found => ih item (.tail _ found))
  | members entries ih =>
    refine .members [] [] ?_
    induction entries with
    | nil => exact .nil
    | cons entry rest tail =>
      exact .cons (ih entry List.mem_cons_self) (tail fun entry found => ih entry (.tail _ found))

/-- The tree of a printed value: written like it, and ended where its text ends. -/
structure Reads (tree : Tree) (json : Json) (after : List Char) : Prop where
  spells : tree.Spells json
  rest : tree.rest? = some after

/-! ### Leaves -/

/-- A word reads as its leaf. -/
theorem word_append (leaf : List Char → Tree) (start letters rest : List Char) :
    word leaf start letters (letters ++ rest) = leaf rest := by
  induction letters with
  | nil => rfl
  | cons letter letters ih => rw [List.cons_append, word, if_pos rfl, ih]

/-- What starts like a number is read as one. -/
theorem value_number {first : Char} (numeric : Numeric first) (fuel : Nat) (rest : List Char) :
    value (fuel + 1) (first :: rest) =
      leaf .number (first :: rest) (Lexeme.number (first :: rest)) := by
  rw [value, skipBlanks_opens numeric.opens]
  split
  all_goals rename_i same
  all_goals cases same
  · exact absurd rfl (numeric.ne 'n' (by decide) (by decide))
  · exact absurd rfl (numeric.ne 't' (by decide) (by decide))
  · exact absurd rfl (numeric.ne 'f' (by decide) (by decide))
  · exact absurd rfl (numeric.ne '"' (by decide) (by decide))
  · exact absurd rfl (numeric.ne '[' (by decide) (by decide))
  · exact absurd rfl (numeric.ne '\x7b' (by decide) (by decide))
  · rw [if_pos (numeric.imp_right fun decimal => by rw [Lexeme.digit?_of_isDigit decimal]; rfl)]

/-- A quoted text is read as one. -/
theorem value_text (fuel : Nat) (quoted : String) (rest : List Char) :
    value (fuel + 1) (printText quoted ++ rest) = .text (.ok quoted) rest := by
  have shape : printText quoted ++ rest =
      '"' :: (quoted.toList.flatMap escapeChar ++ '"' :: rest) := by
    simp [printText]
  rw [shape, value]
  show leaf .text _ (Lexeme.text _) = _
  rw [Lexeme.text_print]
  rfl

/-! ### Lists and objects -/

/-- What a value reads as, whatever delimiter follows it, if there is fuel for its text. -/
def ReadsBack (json : Json) : Prop :=
  ∀ fuel rest, Delimited rest → 3 * (chars json).length ≤ fuel →
    (value fuel (chars json ++ rest)).Reads json rest

/-- Reading goes on behind an item. -/
theorem item_eq {fuel : Nat} {input after : List Char}
    (rest : (value fuel input).rest? = some after) :
    item (fuel + 1) input = (value fuel input :: (nextItem fuel after).1, (nextItem fuel after).2) := by
  rw [item, rest]

/-- Behind a comma there is another item. -/
theorem nextItem_comma {first : Char} (opens : Opens first) (fuel : Nat) (rest : List Char) :
    nextItem (fuel + 1) (',' :: first :: rest) = item fuel (first :: rest) := by
  rw [nextItem, skipBlanks_opens (by decide)]
  simp only [skipBlanks_opens opens]
  split
  · rename_i same
    cases same
  · rename_i same
    cases same
    exact absurd rfl opens.2.1
  · rfl

/-- The first item of a list. -/
theorem firstItem_opens {first : Char} (opens : Opens first) (fuel : Nat) (rest : List Char) :
    firstItem (fuel + 1) (first :: rest) = item fuel (first :: rest) := by
  rw [firstItem, skipBlanks_opens opens]
  split
  · rename_i same
    cases same
  · rename_i same
    cases same
    exact absurd rfl opens.2.1
  · rfl

/-- Items read back up to the closing bracket. -/
theorem item_chars (first : Json) (others : List Json)
    (readable : ∀ json ∈ first :: others, json.Readable)
    (read : ∀ json ∈ first :: others, ReadsBack json) (fuel : Nat) (rest : List Char)
    (enough : 3 * (itemChars (first :: others)).length + 1 < fuel) :
    ∃ trees, item fuel (itemChars (first :: others) ++ ']' :: rest) = (trees, .closed rest) ∧
      SpellsItems trees (first :: others) := by
  obtain ⟨fuel, rfl⟩ : ∃ less, fuel = less + 2 := ⟨fuel - 2, by omega⟩
  induction others generalizing first fuel with
  | nil =>
    have reads := read first List.mem_cons_self (fuel + 1) (']' :: rest)
      (delimited_cons (.inr (.inl rfl)) rest) (by rw [itemChars] at enough; omega)
    exact ⟨_, item_eq reads.rest, .cons reads.spells .nil⟩
  | cons next others ih =>
    have length : (itemChars (first :: next :: others)).length =
        (chars first).length + (itemChars (next :: others)).length + 1 := by
      rw [itemChars, List.length_append, List.length_cons]
      omega
    rw [length] at enough
    have reads := read first List.mem_cons_self (fuel + 1)
      (',' :: (itemChars (next :: others) ++ ']' :: rest)) (delimited_cons (.inl rfl) _) (by omega)
    obtain ⟨fuel, rfl⟩ : ∃ less, fuel = less + 2 := ⟨fuel - 2, by omega⟩
    obtain ⟨trees, later, readLater⟩ := ih next
      (fun json found => readable json (List.mem_cons_of_mem _ found))
      (fun json found => read json (List.mem_cons_of_mem _ found)) fuel (by omega)
    obtain ⟨head, tail, shape, opens⟩ :=
      itemChars_opens (readable next (by simp)) others (']' :: rest)
    have further := nextItem_comma opens (fuel + 2) tail
    rw [← shape, later] at further
    refine ⟨_, ?_, .cons reads.spells readLater⟩
    rw [itemChars, List.append_assoc, List.cons_append, item_eq reads.rest, further]

/-- Reading goes on behind a field. -/
theorem entry_eq {fuel : Nat} (key : String) {input after : List Char}
    (rest : (value (fuel + 1) input).rest? = some after) :
    entry (fuel + 2) (printText key ++ ':' :: input) =
      ((.text (.ok key) (':' :: input), value (fuel + 1) input) :: (nextEntry (fuel + 1) after).1,
        (nextEntry (fuel + 1) after).2) := by
  have head : ((printText key ++ ':' :: input).head? == some '"') = true := by simp [printText]
  have opens : Opens ':' := by decide
  have behind : (Tree.text (.ok key) (':' :: input)).rest? = some (':' :: input) := rfl
  rw [entry, head, value_text]
  simp only [behind, skipBlanks_opens opens, rest]

/-- Behind a comma there is another field. -/
theorem nextEntry_comma {first : Char} (opens : Opens first) (fuel : Nat) (rest : List Char) :
    nextEntry (fuel + 1) (',' :: first :: rest) = entry fuel (first :: rest) := by
  rw [nextEntry, skipBlanks_opens (by decide)]
  simp only [skipBlanks_opens opens]
  split
  · rename_i same
    cases same
  · rename_i same
    cases same
    exact absurd rfl opens.2.2
  · rfl

/-- The first field of an object. -/
theorem firstEntry_opens {first : Char} (opens : Opens first) (fuel : Nat) (rest : List Char) :
    firstEntry (fuel + 1) (first :: rest) = entry fuel (first :: rest) := by
  rw [firstEntry, skipBlanks_opens opens]
  split
  · rename_i same
    cases same
  · rename_i same
    cases same
    exact absurd rfl opens.2.2
  · rfl

/-- Fields read back up to the closing brace. -/
theorem entry_chars (first : String × Json) (others : List (String × Json))
    (read : ∀ entry ∈ first :: others, ReadsBack entry.2) (fuel : Nat) (rest : List Char)
    (enough : 3 * (entryChars (first :: others)).length + 1 < fuel) :
    ∃ trees, entry fuel (entryChars (first :: others) ++ '\x7d' :: rest) = (trees, .closed rest) ∧
      SpellsEntries trees (first :: others) := by
  obtain ⟨fuel, rfl⟩ : ∃ less, fuel = less + 2 := ⟨fuel - 2, by omega⟩
  induction others generalizing first fuel with
  | nil =>
    obtain ⟨key, json⟩ := first
    have length : (chars json).length ≤ (entryChars [(key, json)]).length := by
      rw [entryChars, fieldChars, List.length_append, List.length_cons]
      omega
    have reads := read (key, json) List.mem_cons_self (fuel + 1) ('\x7d' :: rest)
      (delimited_cons (.inr (.inr rfl)) rest) (by dsimp only; omega)
    have read := entry_eq key reads.rest
    rw [← fieldChars_append] at read
    exact ⟨_, read, .cons reads.spells .nil⟩
  | cons next others ih =>
    obtain ⟨key, json⟩ := first
    have length : (chars json).length + (entryChars (next :: others)).length + 2 ≤
        (entryChars ((key, json) :: next :: others)).length := by
      rw [entryChars, fieldChars, List.length_append, List.length_append, List.length_cons,
        List.length_cons]
      omega
    have reads := read (key, json) List.mem_cons_self (fuel + 1)
      (',' :: (entryChars (next :: others) ++ '\x7d' :: rest)) (delimited_cons (.inl rfl) _)
      (by dsimp only; omega)
    obtain ⟨fuel, rfl⟩ : ∃ less, fuel = less + 2 := ⟨fuel - 2, by omega⟩
    obtain ⟨trees, later, readLater⟩ := ih next
      (fun entry found => read entry (List.mem_cons_of_mem _ found)) fuel (by omega)
    obtain ⟨head, tail, shape, opens⟩ := entryChars_opens next others ('\x7d' :: rest)
    have further := nextEntry_comma opens (fuel + 2) tail
    rw [← shape, later] at further
    have text : entryChars ((key, json) :: next :: others) ++ '\x7d' :: rest =
        fieldChars (key, json) ++ ',' :: (entryChars (next :: others) ++ '\x7d' :: rest) := by
      rw [entryChars, List.append_assoc, List.cons_append]
    have read := entry_eq key reads.rest
    rw [further, ← fieldChars_append, ← text] at read
    exact ⟨_, read, .cons reads.spells readLater⟩

/-! ### Values -/

/-- What is read as its leaf reads back. -/
theorem ReadsBack.of_leaf {json : Json} (tree : List Char → Tree) (written : 0 < (chars json).length)
    (read : ∀ fuel rest, Delimited rest → value (fuel + 1) (chars json ++ rest) = tree rest)
    (reads : ∀ rest, (tree rest).Reads json rest) : ReadsBack json := by
  intro fuel rest delimited enough
  obtain ⟨fuel, rfl⟩ : ∃ less, fuel = less + 1 := ⟨fuel - 1, by omega⟩
  rw [read fuel rest delimited]
  exact reads rest

/-- A number that is read from its own text reads back. -/
theorem number_chars {number : Number} (readable : number.Readable) : ReadsBack (.number number) := by
  obtain ⟨first, others, written, numeric⟩ := print_numeric readable
  have printed : chars (.number number) = first :: others := by rw [chars, written]
  refine .of_leaf (.number (.ok number)) ?_ (fun fuel rest delimited => ?_) fun rest =>
    ⟨.number _ rest, rfl⟩
  · rw [printed, List.length_cons]
    exact Nat.succ_pos _
  · rw [printed, List.cons_append, value_number numeric, ← List.cons_append, ← written,
      readable.read delimited]
    rfl

/-- A list of items that read back reads back. -/
theorem list_chars {items : List Json} (readable : ∀ json ∈ items, json.Readable)
    (read : ∀ json ∈ items, ReadsBack json) : ReadsBack (.list items) := by
  intro fuel rest _ enough
  have length : (chars (.list items)).length = (itemChars items).length + 2 := by
    rw [chars, List.cons_append, List.length_cons, List.length_append, List.length_singleton]
  obtain ⟨fuel, rfl⟩ : ∃ less, fuel = less + 2 := ⟨fuel - 2, by omega⟩
  have opened : value (fuel + 2) (chars (.list items) ++ rest) =
      .list ('[' :: (itemChars items ++ ']' :: rest))
        (firstItem (fuel + 1) (itemChars items ++ ']' :: rest)).1
        (firstItem (fuel + 1) (itemChars items ++ ']' :: rest)).2 := by
    rw [chars, List.cons_append, List.cons_append, List.append_assoc, value,
      skipBlanks_opens (by decide)]
    rfl
  rw [opened]
  cases items with
  | nil => exact ⟨.list _ rest .nil, rfl⟩
  | cons first others =>
    obtain ⟨trees, read, reads⟩ := item_chars first others readable read fuel rest (by omega)
    obtain ⟨head, tail, shape, opens⟩ :=
      itemChars_opens (readable first List.mem_cons_self) others (']' :: rest)
    have started := firstItem_opens opens fuel tail
    rw [← shape, read] at started
    rw [started]
    exact ⟨.list _ rest reads, rfl⟩

/-- An object of fields that read back reads back. -/
theorem members_chars {entries : List (String × Json)}
    (read : ∀ entry ∈ entries, ReadsBack entry.2) : ReadsBack (.members entries) := by
  intro fuel rest _ enough
  have length : (chars (.members entries)).length = (entryChars entries).length + 2 := by
    rw [chars, List.cons_append, List.length_cons, List.length_append, List.length_singleton]
  obtain ⟨fuel, rfl⟩ : ∃ less, fuel = less + 2 := ⟨fuel - 2, by omega⟩
  have opened : value (fuel + 2) (chars (.members entries) ++ rest) =
      .object ('\x7b' :: (entryChars entries ++ '\x7d' :: rest))
        (firstEntry (fuel + 1) (entryChars entries ++ '\x7d' :: rest)).1
        (firstEntry (fuel + 1) (entryChars entries ++ '\x7d' :: rest)).2 := by
    rw [chars, List.cons_append, List.cons_append, List.append_assoc, value,
      skipBlanks_opens (by decide)]
    rfl
  rw [opened]
  cases entries with
  | nil => exact ⟨.members _ rest .nil, rfl⟩
  | cons first others =>
    obtain ⟨trees, read, reads⟩ := entry_chars first others read fuel rest (by omega)
    obtain ⟨head, tail, shape, opens⟩ := entryChars_opens first others ('\x7d' :: rest)
    have started := firstEntry_opens opens fuel tail
    rw [← shape, read] at started
    rw [started]
    exact ⟨.members _ rest reads, rfl⟩

/-- **The text of a value reads back, whatever delimiter follows it.** -/
theorem value_chars {json : Json} (readable : json.Readable) : ReadsBack json := by
  induction readable with
  | null =>
    exact .of_leaf .null (by decide) (fun _ rest _ => word_append .null _ ['u', 'l', 'l'] rest)
      fun rest => ⟨.null rest, rfl⟩
  | boolean flag =>
    refine .of_leaf (.boolean flag) (by cases flag <;> decide) (fun _ rest _ => ?_) fun rest =>
      ⟨.boolean flag rest, rfl⟩
    cases flag with
    | true => exact word_append (.boolean true) _ ['r', 'u', 'e'] rest
    | false => exact word_append (.boolean false) _ ['a', 'l', 's', 'e'] rest
  | number readable => exact number_chars readable
  | text quoted =>
    exact .of_leaf (.text (.ok quoted)) (Nat.succ_pos _) (fun fuel rest _ => value_text fuel quoted rest)
      fun rest => ⟨.text quoted rest, rfl⟩
  | list readable ih => exact list_chars readable ih
  | members _ ih => exact members_chars ih

/-- A whole text reads as the tree of its value. -/
theorem read_chars {json : Json} (readable : json.Readable) : (read (chars json)).Reads json [] := by
  have reads := value_chars readable (3 * (chars json).length + 3) [] nofun (Nat.le_add_right _ _)
  rwa [List.append_nil] at reads

/-- Nothing follows the value of a whole text. -/
theorem Reads.trailing {tree : Tree} {json : Json} (reads : tree.Reads json []) :
    tree.trailing? = none := by
  unfold trailing?
  rw [reads.rest]
  rfl

end Tree

/-- **A printed value reads back in order, unless it nests too deep.** -/
theorem parse_chars {json : Json} (readable : json.Readable) :
    (json.depth < Tree.depthLimit → parse (String.ofList (chars json)) = .ok json.normal) ∧
      (Tree.depthLimit ≤ json.depth → ∃ fault, parse (String.ofList (chars json)) = .error fault) := by
  have reads := Tree.read_chars readable
  have flaw := reads.spells.flaw Tree.depthLimit (by decide)
  unfold parse
  rw [String.toList_ofList]
  constructor
  · intro shallow
    simp only [flaw.mpr shallow, reads.trailing, reads.spells.value]
  · intro deep
    have flawed : (Tree.read (chars json)).flaw? Tree.depthLimit ≠ none := fun none =>
      absurd (flaw.mp none) (Nat.not_lt.mpr deep)
    obtain ⟨flaw, found⟩ := Option.ne_none_iff_exists'.mp flawed
    exact ⟨.malformed flaw, by simp only [found]⟩

end ScriptKernel.Json
