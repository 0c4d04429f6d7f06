/-
**Structured text as a tree that keeps its defects.**

Reading never fails: where the text is defective the tree has a leaf that says so and ends there. Whoever
walks the tree in reading order meets a value that does not fit before a defect that comes later.

* `Tree.read`: the tree of the value at the front of a text;
* `Tree.flaw?`: the first flaw in reading order, counting nesting beyond the limit as one;
* `Tree.looseFlaw?`: the first flaw that matters when the value is skipped;
* `Json.parse`: a whole text as a value.
-/

import ScriptKernel.Json.Lexeme

set_option autoImplicit false

namespace ScriptKernel.Json

/-- How the items of a list or an object end. -/
inductive Ending
  | closed (after : List Char)
  | atEnd
  | stray (rest : List Char)
  | commaClosed (rest : List Char)
  | commaEnd
  deriving Repr, Inhabited

/-- A value as written; each part keeps what follows it. -/
inductive Tree
  | null (after : List Char)
  | boolean (value : Bool) (after : List Char)
  | number (value : Except Flaw Number) (after : List Char)
  | text (value : Except Flaw String) (after : List Char)
  | list (opening : List Char) (items : List Tree) (ending : Ending)
  | object (opening : List Char) (entries : List (Tree × Tree)) (ending : Ending)
  | broken (start : List Char) (strict loose : Flaw)
  deriving Inhabited

namespace Tree

/-- The greatest number of nested lists and objects, plus one. -/
def depthLimit : Nat := 128

/-- Skips the blanks of structured text. -/
def skipBlanks : List Char → List Char
  | char :: rest =>
    if char = ' ' ∨ char = '\n' ∨ char = '\t' ∨ char = '\r' then skipBlanks rest else char :: rest
  | [] => []

/-- A leaf with one flaw in both readings, of a value that starts here. -/
def flawed (start : List Char) (flaw : Flaw) : Tree := .broken start flaw flaw

/-- Where reading goes on after the value. -/
def rest? : Tree → Option (List Char)
  | .null after | .boolean _ after | .number _ after | .text _ after => some after
  | .list _ _ (.closed after) | .object _ _ (.closed after) => some after
  | _ => none

/-- The rest of a word, after its first letter. -/
def word (leaf : List Char → Tree) (start : List Char) : List Char → List Char → Tree
  | [], input => leaf input
  | _ :: _, [] => flawed start (Lexeme.flawAt .endOfValue [])
  | letter :: letters, char :: rest =>
    if char = letter then word leaf start letters rest
    else flawed start (Lexeme.flawAt .unknownWord rest)

/-- The leaf of a lexeme. -/
def leaf {α : Type} (make : Except Flaw α → List Char → Tree) (start : List Char)
    (lexeme : Lexeme α) : Tree :=
  match lexeme.strict, lexeme.loose with
  | strict, .ok after => make strict after
  | .error strict, .error loose => .broken start strict loose
  | .ok _, .error loose => flawed start loose

mutual

/-- The value at the front of the input. -/
def value : Nat → List Char → Tree
  | 0, input => flawed [] (Lexeme.flawAt .endOfValue input)
  | fuel + 1, input =>
    match skipBlanks input with
    | [] => flawed [] (Lexeme.flawAt .endOfValue [])
    | 'n' :: rest => word .null ('n' :: rest) ['u', 'l', 'l'] rest
    | 't' :: rest => word (.boolean true) ('t' :: rest) ['r', 'u', 'e'] rest
    | 'f' :: rest => word (.boolean false) ('f' :: rest) ['a', 'l', 's', 'e'] rest
    | '"' :: rest => leaf .text ('"' :: rest) (Lexeme.text rest)
    | '[' :: rest =>
      let (items, ending) := firstItem fuel rest
      .list ('[' :: rest) items ending
    | '\x7b' :: rest =>
      let (entries, ending) := firstEntry fuel rest
      .object ('\x7b' :: rest) entries ending
    | char :: rest =>
      if char = '-' ∨ (Lexeme.digit? char).isSome then
        leaf .number (char :: rest) (Lexeme.number (char :: rest))
      else flawed (char :: rest) (Lexeme.flawPast .valueMissing (char :: rest))

/-- The items after the opening bracket. -/
def firstItem : Nat → List Char → List Tree × Ending
  | 0, _ => ([], .atEnd)
  | fuel + 1, input =>
    match skipBlanks input with
    | [] => ([], .atEnd)
    | ']' :: rest => ([], .closed rest)
    | other => item fuel other

/-- One item and those after it. -/
def item : Nat → List Char → List Tree × Ending
  | 0, _ => ([], .atEnd)
  | fuel + 1, input =>
    let first := value fuel input
    match first.rest? with
    | none => ([first], .atEnd)
    | some rest =>
      let (others, ending) := nextItem fuel rest
      (first :: others, ending)

/-- The items after an item. -/
def nextItem : Nat → List Char → List Tree × Ending
  | 0, _ => ([], .atEnd)
  | fuel + 1, input =>
    match skipBlanks input with
    | [] => ([], .atEnd)
    | ']' :: rest => ([], .closed rest)
    | ',' :: rest =>
      match skipBlanks rest with
      | [] => ([], .commaEnd)
      | ']' :: after => ([], .commaClosed (']' :: after))
      | other => item fuel other
    | other => ([], .stray other)

/-- The fields after the opening brace. -/
def firstEntry : Nat → List Char → List (Tree × Tree) × Ending
  | 0, _ => ([], .atEnd)
  | fuel + 1, input =>
    match skipBlanks input with
    | [] => ([], .atEnd)
    | '\x7d' :: rest => ([], .closed rest)
    | other => entry fuel other

/-- One field and those after it; a key that is no text has the flaw in the place of its value. -/
def entry : Nat → List Char → List (Tree × Tree) × Ending
  | 0, _ => ([], .atEnd)
  | fuel + 1, input =>
    let key := value fuel input
    match input.head? == some '"', key.rest? with
    | false, _ => ([(key, flawed [] (Lexeme.flawPast .keyNotText input))], .atEnd)
    | true, none => ([(key, key)], .atEnd)
    | true, some rest =>
      match skipBlanks rest with
      | [] => ([(key, flawed [] (Lexeme.flawAt .endOfObject []))], .atEnd)
      | ':' :: rest =>
        let first := value fuel rest
        match first.rest? with
        | none => ([(key, first)], .atEnd)
        | some rest =>
          let (others, ending) := nextEntry fuel rest
          ((key, first) :: others, ending)
      | other => ([(key, flawed other (Lexeme.flawPast .colonMissing other))], .atEnd)

/-- The fields after a field. -/
def nextEntry : Nat → List Char → List (Tree × Tree) × Ending
  | 0, _ => ([], .atEnd)
  | fuel + 1, input =>
    match skipBlanks input with
    | [] => ([], .atEnd)
    | '\x7d' :: rest => ([], .closed rest)
    | ',' :: rest =>
      match skipBlanks rest with
      | [] => ([], .commaEnd)
      | '\x7d' :: after => ([], .commaClosed ('\x7d' :: after))
      | other => entry fuel other
    | other => ([], .stray other)

end

/-- The tree of the value at the front of a text. -/
def read (source : List Char) : Tree := value (3 * source.length + 3) source

/-! ### Flaws -/

/-- The flaw of the end of a list. -/
def listFlaw? : Ending → Option Flaw
  | .closed _ => none
  | .atEnd => some (Lexeme.flawAt .endOfList [])
  | .stray rest => some (Lexeme.flawPast .listCommaMissing rest)
  | .commaClosed rest => some (Lexeme.flawPast .trailingComma rest)
  | .commaEnd => some (Lexeme.flawAt .endOfValue [])

/-- The flaw of the end of an object. -/
def objectFlaw? : Ending → Option Flaw
  | .closed _ => none
  | .atEnd => some (Lexeme.flawAt .endOfObject [])
  | .stray rest => some (Lexeme.flawPast .objectCommaMissing rest)
  | .commaClosed rest => some (Lexeme.flawPast .trailingComma rest)
  | .commaEnd => some (Lexeme.flawAt .endOfValue [])

/-- The flaw of a list that ends before its reader expects it to. -/
def earlyListFlaw? (remaining : List Tree) : Ending → Option Flaw
  | .closed _ => if remaining.isEmpty then none else some ⟨.trailingCharacters, 0⟩
  | .atEnd => if remaining.isEmpty then some ⟨.endOfList, 0⟩ else some ⟨.trailingCharacters, 0⟩
  | .commaClosed rest =>
    if remaining.isEmpty then some (Lexeme.flawPast .trailingComma rest)
    else some ⟨.trailingCharacters, 0⟩
  | _ => some ⟨.trailingCharacters, 0⟩

/-- The flaw of the key of a field, read strictly. -/
def keyFlaw? : Tree × Tree → Option Flaw
  | (.text (.ok _) _, _) => none
  | (.text (.error flaw) _, _) => some flaw
  | (.broken _ strict _, .broken _ other _) =>
    if other.defect = .keyNotText then some other else some strict
  | (.broken _ strict _, _) => some strict
  | (_, .broken _ strict _) => some strict
  | (_, _) => some ⟨.keyNotText, 0⟩

/-- The text of a key. -/
def keyText : Tree → String
  | .text (.ok key) _ => key
  | _ => ""

mutual

/-- The first flaw in reading order, with so many containers left to open. -/
def flaw? (depth : Nat) : Tree → Option Flaw
  | .null _ | .boolean _ _ => none
  | .number (.ok _) _ | .text (.ok _) _ => none
  | .number (.error flaw) _ | .text (.error flaw) _ => some flaw
  | .broken _ strict _ => some strict
  | .list opening items ending =>
    if depth ≤ 1 then some (Lexeme.flawPast .tooDeep opening)
    else match itemFlaw? (depth - 1) items with
      | some flaw => some flaw
      | none => listFlaw? ending
  | .object opening entries ending =>
    if depth ≤ 1 then some (Lexeme.flawPast .tooDeep opening)
    else match entryFlaw? (depth - 1) entries with
      | some flaw => some flaw
      | none => objectFlaw? ending

/-- The first flaw among the items of a list. -/
def itemFlaw? (depth : Nat) : List Tree → Option Flaw
  | [] => none
  | first :: rest =>
    match flaw? depth first with
    | some flaw => some flaw
    | none => itemFlaw? depth rest

/-- The first flaw among the fields of an object. -/
def entryFlaw? (depth : Nat) : List (Tree × Tree) → Option Flaw
  | [] => none
  | (key, first) :: rest =>
    match keyFlaw? (key, first) with
    | some flaw => some flaw
    | none =>
      match flaw? depth first with
      | some flaw => some flaw
      | none => entryFlaw? depth rest

end

/-- The flaw of a key that is skipped. -/
def looseKeyFlaw? : Tree × Tree → Option Flaw
  | (.text _ _, _) => none
  | (.broken _ _ loose, .broken _ other _) =>
    if other.defect = .keyNotText then some other else some loose
  | (.broken _ _ loose, _) => some loose
  | (_, .broken _ _ loose) => some loose
  | (_, _) => some ⟨.keyNotText, 0⟩

/-- The flaw of a skipped list's end. -/
def looseListFlaw? : Ending → Option Flaw
  | .commaClosed rest => some (Lexeme.flawPast .valueMissing rest)
  | ending => listFlaw? ending

/-- The flaw of a skipped object's end. -/
def looseObjectFlaw? : Ending → Option Flaw
  | .commaClosed rest => some (Lexeme.flawPast .keyNotText rest)
  | .commaEnd => some (Lexeme.flawAt .endOfObject [])
  | ending => objectFlaw? ending

mutual

/-- The first flaw that matters when the value is skipped. -/
def looseFlaw? : Tree → Option Flaw
  | .null _ | .boolean _ _ | .number _ _ | .text _ _ => none
  | .broken _ _ loose => some loose
  | .list _ items ending =>
    match looseItemFlaw? items with
    | some flaw => some flaw
    | none => looseListFlaw? ending
  | .object _ entries ending =>
    match looseEntryFlaw? entries with
    | some flaw => some flaw
    | none => looseObjectFlaw? ending

/-- The first flaw among skipped items. -/
def looseItemFlaw? : List Tree → Option Flaw
  | [] => none
  | first :: rest =>
    match looseFlaw? first with
    | some flaw => some flaw
    | none => looseItemFlaw? rest

/-- The first flaw among skipped fields. -/
def looseEntryFlaw? : List (Tree × Tree) → Option Flaw
  | [] => none
  | (key, first) :: rest =>
    match looseKeyFlaw? (key, first) with
    | some flaw => some flaw
    | none =>
      match looseFlaw? first with
      | some flaw => some flaw
      | none => looseEntryFlaw? rest

end

/-! ### Values -/

mutual

/-- The value of a tree without flaws. -/
def toJson : Tree → Json
  | .null _ => .null
  | .boolean value _ => .boolean value
  | .number (.ok value) _ => .number value
  | .text (.ok value) _ => .text value
  | .list _ items _ => .list (itemValues items)
  | .object _ entries _ => .members (entryValues entries [])
  | .number (.error _) _ | .text (.error _) _ | .broken .. => .null

/-- The values of the items. -/
def itemValues : List Tree → List Json
  | [] => []
  | first :: rest => toJson first :: itemValues rest

/-- The fields, the last of two equal keys winning. -/
def entryValues : List (Tree × Tree) → List (String × Json) → List (String × Json)
  | [], built => built
  | (key, first) :: rest, built =>
    entryValues rest (Json.insert (keyText key) (toJson first) built)

end

mutual

/-- A value as a tree of its own, as if read and set aside. -/
def ofJson : Json → Tree
  | .null => .null []
  | .boolean value => .boolean value []
  | .number value => .number (.ok value) []
  | .text value => .text (.ok value) []
  | .list items => .list [] (ofItems items) (.closed [])
  | .members entries => .object [] (ofEntries entries) (.closed [])

/-- The trees of the items. -/
def ofItems : List Json → List Tree
  | [] => []
  | first :: rest => ofJson first :: ofItems rest

/-- The trees of the fields. -/
def ofEntries : List (String × Json) → List (Tree × Tree)
  | [] => []
  | (key, value) :: rest => (.text (.ok key) [], ofJson value) :: ofEntries rest

end

/-- The flaw of what follows the value of a whole text. -/
def trailing? (tree : Tree) : Option Flaw :=
  match tree.rest? with
  | none => none
  | some rest =>
    match skipBlanks rest with
    | [] => none
    | other => some (Lexeme.flawPast .trailingCharacters other)

end Tree

/-- The value of a whole text. -/
def parse (source : String) : Except Fault Json :=
  let tree := Tree.read source.toList
  match tree.flaw? Tree.depthLimit with
  | some flaw => .error (.malformed flaw)
  | none =>
    match tree.trailing? with
    | some flaw => .error (.malformed flaw)
    | none => .ok tree.toJson

end ScriptKernel.Json
