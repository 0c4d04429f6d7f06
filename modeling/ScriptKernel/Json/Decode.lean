/-
**Reading typed values from structured text.**

A decoder walks a tree in reading order, so of several faults the one written first is reported. A tree is
read straight from the text, where nesting is limited, from a value that was read before, or from a part
that was set aside.

* `Decoder.natural`, `integer`, `text`, `list`, `table`, `optional`: the plain shapes;
* `Shape.decode`: records, by field name or by position;
* `Decoder.choice`: one of several variants named by a text or by a single key;
* `Decoder.adjacent`: a variant named by one field, with its content in another;
* `Decoder.internal`: a variant named by a field among its own.
-/

import ScriptKernel.Json.Printer
import ScriptKernel.Json.Tree
import ScriptKernel.Text.Quoted

set_option autoImplicit false

namespace ScriptKernel.Json

/-- Where a tree is read from: a text that may open so many more containers, a whole value, or a part of
either that was set aside. -/
inductive Source
  | stream (depth : Nat)
  | whole
  | setAside
  deriving DecidableEq, Repr

/-- A count of elements. -/
def elementCount (count : Nat) : String :=
  if count = 1 then "1 element" else toString count ++ " elements"

/-- Reads a value of a type from a tree. -/
def Decoder (α : Type) : Type := Source → Tree → Except Fault α

/-- A fault of a value that does not fit. -/
def unfit {α : Type} (message : String) : Except Fault α := .error (.unfit message 0)

/-- A fault of the text. -/
def malformed {α : Type} (flaw : Flaw) : Except Fault α := .error (.malformed flaw)

namespace Source

/-- The source of the parts of a container, or the flaw of nesting too deeply. -/
def enter (source : Source) (opening : List Char) : Except Fault Source :=
  match source with
  | .whole => .ok .whole
  | .setAside => .ok .setAside
  | .stream depth =>
    if depth ≤ 1 then malformed (Lexeme.flawPast .tooDeep opening) else .ok (.stream (depth - 1))

/-- Skips a value nobody asks for. -/
def skip (source : Source) (tree : Tree) : Except Fault Unit :=
  match source with
  | .whole | .setAside => .ok ()
  | .stream _ =>
    match tree.looseFlaw? with
    | some flaw => malformed flaw
    | none => .ok ()

/-- Reads a value whole, to be decoded later. -/
def setApart (source : Source) (tree : Tree) : Except Fault Unit :=
  match source with
  | .whole | .setAside => .ok ()
  | .stream depth =>
    match tree.flaw? depth with
    | some flaw => malformed flaw
    | none => .ok ()

/-- Complains about the items of a list that its reader left over, of so many. -/
def finish (source : Source) (count : Nat) (rest : List Tree) (ending : Ending) : Except Fault Unit :=
  let long (expected : String) : Except Fault Unit :=
    if rest.isEmpty then .ok ()
    else unfit ("invalid length " ++ toString count ++ ", expected " ++ expected)
  match source with
  | .whole => long "fewer elements in array"
  | .setAside => long (elementCount (count - rest.length) ++ " in sequence")
  | .stream _ =>
    match Tree.earlyListFlaw? rest ending with
    | some flaw => malformed flaw
    | none => .ok ()

end Source

namespace Decoder

/-- The wording of a number in a fault. -/
def numberPhrase : Number → String
  | .integer value => "integer `" ++ toString value ++ "`"
  | .double value => "floating point `" ++ Number.print (.double value) ++ "`"

/-- The fault of a value of the wrong type. -/
def mismatch {α : Type} (expected : String) (tree : Tree) : Except Fault α :=
  let wrong (phrase : String) : Except Fault α :=
    unfit ("invalid type: " ++ phrase ++ ", expected " ++ expected)
  match tree with
  | .null _ => wrong "null"
  | .boolean value _ => wrong ("boolean `" ++ toString value ++ "`")
  | .number (.ok value) _ => wrong (numberPhrase value)
  | .text (.ok value) _ => wrong ("string " ++ quoted value)
  | .list .. => wrong "sequence"
  | .object .. => wrong "map"
  | .number (.error flaw) _ | .text (.error flaw) _ | .broken _ flaw _ => malformed flaw

/-- An integer from `low` up to `high - 1`. -/
def integer (type : String) (low high : Int) : Decoder Int := fun _ tree =>
  match tree with
  | .number (.ok (.integer value)) _ =>
    if low ≤ value ∧ value < high then .ok value
    else unfit ("invalid value: integer `" ++ toString value ++ "`, expected " ++ type)
  | other => mismatch type other

/-- A natural number of so many bits. -/
def natural (type : String) (bits : Nat) : Decoder Nat := fun source tree =>
  (integer type 0 (Nat.pow 2 bits) source tree).map Int.toNat

/-- A text. -/
def textAs (expected : String) : Decoder String := fun _ tree =>
  match tree with
  | .text (.ok value) _ => .ok value
  | other => mismatch expected other

/-- A text. -/
def text : Decoder String := textAs "a string"

/-- A path. -/
def path : Decoder String := textAs "path string"

/-- Any value. -/
def any : Decoder Json := fun source tree => do
  source.setApart tree
  return tree.toJson

/-- Nothing, written as null. -/
def unit : Decoder Unit := fun _ tree =>
  match tree with
  | .null _ => .ok ()
  | other => mismatch "unit" other

/-- A value, or null for none. -/
def optional {α : Type} (decode : Decoder α) : Decoder (Option α) := fun source tree =>
  match tree with
  | .null _ => .ok none
  | other => (decode source other).map some

/-- Decodes each item in turn. -/
def items {α : Type} (decode : Decoder α) (source : Source) : List Tree → Except Fault (List α)
  | [] => .ok []
  | first :: rest => do
    let value ← decode source first
    let others ← items decode source rest
    return value :: others

/-- The flaw, if there is one. -/
def refuse (flaw : Option Flaw) : Except Fault Unit :=
  match flaw with
  | some flaw => malformed flaw
  | none => .ok ()

/-- A list. -/
def list {α : Type} (decode : Decoder α) : Decoder (List α) := fun source tree =>
  match tree with
  | .list opening trees ending => do
    let inner ← source.enter opening
    let values ← items decode inner trees
    refuse (Tree.listFlaw? ending)
    return values
  | other => mismatch "a sequence" other

/-- Decodes each field in turn into a table. -/
def entries {α : Type} (decode : Decoder α) (source : Source) :
    List (Tree × Tree) → List (String × α) → Except Fault (List (String × α))
  | [], built => .ok built
  | (key, tree) :: rest, built => do
    refuse (Tree.keyFlaw? (key, tree))
    let value ← decode source tree
    entries decode source rest (insert (Tree.keyText key) value built)

/-- A table from names to values. -/
def table {α : Type} (decode : Decoder α) : Decoder (List (String × α)) := fun source tree =>
  match tree with
  | .object opening fields ending => do
    let inner ← source.enter opening
    let values ← entries decode inner fields []
    refuse (Tree.objectFlaw? ending)
    return values
  | other => mismatch "a map" other

/-- Names in backquotes, as alternatives. -/
def alternatives (names : List String) : String :=
  let marked := names.map fun name => "`" ++ name ++ "`"
  match marked with
  | [] => "there are no variants"
  | [only] => only
  | [first, second] => first ++ " or " ++ second
  | many => "one of " ++ ", ".intercalate many

/-- The fault of a variant nobody knows. -/
def unknownVariant {α : Type} (name : String) (names : List String) : Except Fault α :=
  unfit ("unknown variant `" ++ name ++ "`, expected " ++ alternatives names)

/-- The fault of a field that is not there. -/
def missingField {α : Type} (name : String) : Except Fault α :=
  unfit ("missing field `" ++ name ++ "`")

/-- The fault of a field written twice. -/
def duplicateField {α : Type} (name : String) : Except Fault α :=
  unfit ("duplicate field `" ++ name ++ "`")

end Decoder

/-! ### Records -/

/-- A field of a record: its name, and how its value goes into the fields read so far. -/
structure Member (ρ : Type) where
  name : String
  store : Source → Tree → ρ → Except Fault ρ

/-- A field whose value is decoded and put in its place. -/
def Member.of {ρ α : Type} (name : String) (decode : Decoder α) (put : α → ρ → ρ) : Member ρ :=
  ⟨name, fun source tree record => (decode source tree).map fun value => put value record⟩

/-- How a record is read: its fields in order, what stands for no field read, and the value made of the
fields read, or the name of the first one missing. -/
structure Shape (ρ α : Type) where
  expected : String
  fields : List (Member ρ)
  start : ρ
  /-- Whether absent fields have defaults. -/
  lenient : Bool
  build : ρ → Except String α

namespace Shape

open Decoder

variable {ρ α : Type}

/-- Reads fields by position; the items left over. -/
def positional (shape : Shape ρ α) (source : Source) (ending : Ending) :
    List (Member ρ) → List Tree → ρ → Except Fault (ρ × List Tree)
  | [], rest, record => .ok (record, rest)
  | _ :: fields, [], record =>
    match Tree.listFlaw? ending with
    | some flaw => malformed flaw
    | none =>
      if shape.lenient then positional shape source ending fields [] record
      else
        let place := shape.fields.length - (fields.length + 1)
        unfit ("invalid length " ++ toString place ++ ", expected " ++ shape.expected ++ " with " ++
          elementCount shape.fields.length)
  | field :: fields, tree :: rest, record => do
    let record ← field.store source tree record
    positional shape source ending fields rest record

/-- Reads fields by name. -/
def named (shape : Shape ρ α) (source : Source) :
    List (Tree × Tree) → List String → ρ → Except Fault ρ
  | [], _, record => .ok record
  | (key, tree) :: rest, seen, record => do
    match Tree.keyFlaw? (key, tree), shape.fields.find? (·.name == Tree.keyText key) with
    | none, some field =>
      if seen.contains field.name then duplicateField field.name
      else
        let record ← field.store source tree record
        named shape source rest (field.name :: seen) record
    | none, none =>
      source.skip tree
      named shape source rest seen record
    | some flaw, _ => malformed flaw

/-- The value of the fields read. -/
def finish (shape : Shape ρ α) (record : ρ) : Except Fault α :=
  match shape.build record with
  | .ok value => .ok value
  | .error name => missingField name

/-- A record written as an object. -/
def decodeNamed (shape : Shape ρ α) : Decoder α := fun source tree =>
  match tree with
  | .object opening entries ending => do
    let inner ← source.enter opening
    let record ← shape.named inner entries [] shape.start
    refuse (Tree.objectFlaw? ending)
    shape.finish record
  | other => mismatch shape.expected other

/-- A record written as an object, or as a list of its fields in order. -/
def decode (shape : Shape ρ α) : Decoder α := fun source tree =>
  match tree with
  | .list opening trees ending => do
    let inner ← source.enter opening
    let (record, rest) ← shape.positional inner ending shape.fields trees shape.start
    let value ← shape.finish record
    source.finish trees.length rest ending
    return value
  | other => shape.decodeNamed source other

end Shape

/-! ### Variants -/

/-- A variant of a choice: a bare name, or a name with a value. -/
inductive Variant (α : Type)
  | bare (value : α)
  | holding (decode : Decoder α)

namespace Decoder

variable {α : Type}

/-- The names of variants. -/
def names {β : Type} (variants : List (String × β)) : List String := variants.map Prod.fst

/-- A variant named by a text alone. -/
def bareVariant (variants : List (String × Variant α)) (name : String) : Except Fault α :=
  match lookup? name variants with
  | none => unknownVariant name (names variants)
  | some (.bare value) => .ok value
  | some (.holding _) => unfit "invalid type: unit variant, expected newtype variant"

/-- Nothing, written as null or, in a part set aside, as an empty object. -/
def emptyContent : Decoder Unit := fun source tree =>
  match source, tree with
  | .setAside, .object _ [] _ => .ok ()
  | source, tree => unit source tree

/-- A variant named by a key, with its value. -/
def keyedVariant (variants : List (String × Variant α)) (source : Source) (name : String)
    (tree : Tree) : Except Fault α :=
  match lookup? name variants with
  | none => unknownVariant name (names variants)
  | some (.bare value) => (emptyContent source tree).map fun _ => value
  | some (.holding decode) => decode source tree

/-- One of several variants: a text, or an object with one key. -/
def choice (variants : List (String × Variant α)) : Decoder α := fun source tree =>
  match source, tree with
  | _, .text (.ok name) _ => bareVariant variants name
  | .stream _, .text (.error flaw) _ => malformed flaw
  | .stream _, .object opening entries ending => do
    let inner ← source.enter opening
    match entries with
    | [] =>
      match ending with
      | .atEnd => malformed ⟨.endOfValue, 0⟩
      | _ => malformed ⟨.valueMissing, 0⟩
    | (.text (.ok name) _, content) :: rest =>
      let value ← keyedVariant variants inner name content
      match rest, ending with
      | [], .closed _ => return value
      | [], .atEnd => malformed ⟨.endOfObject, 0⟩
      | _, _ => malformed ⟨.valueMissing, 0⟩
    | (key, _) :: _ => mismatch "variant identifier" key
  | .stream _, .broken start flaw _ =>
    if start.isEmpty || start.head? == some '"' then malformed flaw
    else malformed ⟨.valueMissing, 0⟩
  | .stream _, _ => malformed ⟨.valueMissing, 0⟩
  | source, .object _ [(key, content)] _ =>
    keyedVariant variants source (Tree.keyText key) content
  | _, .object .. => unfit "invalid value: map, expected map with a single key"
  | _, other => mismatch "string or map" other

/-- One of several bare names. -/
def oneOf (values : List (String × α)) : Decoder α :=
  choice (values.map fun entry => (entry.1, .bare entry.2))

end Decoder

/-- The content of a variant named by a field beside it. -/
inductive Content (α : Type)
  | none (label : String) (value : α)
  | value (decode : Decoder α)
  | record (decode : Decoder α)

/-- How a family of variants is written: the field with the name, and the field with the content. -/
structure Tagging where
  type : String
  tag : String
  content : String

namespace Decoder

variable {α : Type}

/-- The content of a variant. -/
def content (variant : Content α) : Decoder α := fun source tree =>
  match variant with
  | .none label value =>
    match tree with
    | .null _ => .ok value
    | other => mismatch ("unit variant " ++ label) other
  | .value decode | .record decode => decode source tree

/-- The next field that is the name or the content, and the fields after it. -/
def nextRelevant (tagging : Tagging) (source : Source) (ending : Ending) :
    List (Tree × Tree) → Except Fault (Option (Bool × Tree × List (Tree × Tree)))
  | [] =>
    match Tree.objectFlaw? ending with
    | some flaw => malformed flaw
    | none => .ok none
  | (key, tree) :: rest => do
    match Tree.keyFlaw? (key, tree) with
    | some flaw => malformed flaw
    | none =>
      if Tree.keyText key = tagging.tag then return some (true, tree, rest)
      else if Tree.keyText key = tagging.content then return some (false, tree, rest)
      else
        source.skip tree
        nextRelevant tagging source ending rest

/-- After both fields: neither may come again. -/
def noneLeft (tagging : Tagging) (source : Source) (ending : Ending) (rest : List (Tree × Tree)) :
    Except Fault Unit := do
  match ← nextRelevant tagging source ending rest with
  | none => return ()
  | some (true, _) => duplicateField tagging.tag
  | some (false, _) => duplicateField tagging.content

/-- A variant named by one field, with its content in another, in either order. -/
def adjacent (tagging : Tagging) (variants : List (String × Content α)) : Decoder α :=
  fun source tree => do
    let variant : Decoder (Content α) := oneOf variants
    match tree with
    | .object opening entries ending =>
      let inner ← source.enter opening
      match ← nextRelevant tagging inner ending entries with
      | none => missingField tagging.tag
      | some (true, name, rest) =>
        let chosen ← variant inner name
        match ← nextRelevant tagging inner ending rest with
        | some (true, _) => duplicateField tagging.tag
        | some (false, body, rest) =>
          let value ← content chosen inner body
          noneLeft tagging inner ending rest
          return value
        | none =>
          match chosen with
          | .none _ value => return value
          | _ => missingField tagging.content
      | some (false, body, rest) =>
        inner.setApart body
        match ← nextRelevant tagging inner ending rest with
        | none => missingField tagging.tag
        | some (false, _) => duplicateField tagging.content
        | some (true, name, rest) =>
          let chosen ← variant inner name
          let value ← content chosen .setAside body
          noneLeft tagging inner ending rest
          return value
    | .list opening trees ending =>
      let inner ← source.enter opening
      let short (count : Nat) : Except Fault α :=
        match Tree.listFlaw? ending with
        | some flaw => malformed flaw
        | none => unfit ("invalid length " ++ toString count ++
            ", expected adjacently tagged enum " ++ tagging.type)
      match trees with
      | [] => short 0
      | name :: others =>
        let chosen ← variant inner name
        match others with
        | [] => short 1
        | body :: rest =>
          let value ← content chosen inner body
          source.finish trees.length rest ending
          return value
    | other => mismatch ("adjacently tagged enum " ++ tagging.type) other

/-- Finds the name among the fields of a variant, and sets the others aside. -/
def splitTag (tag : String) (variants : List (String × Content α)) (source : Source) :
    List (Tree × Tree) → Option (Content α) → List (Tree × Tree) →
      Except Fault (Option (Content α) × List (Tree × Tree))
  | [], chosen, others => .ok (chosen, others.reverse)
  | (key, tree) :: rest, chosen, others => do
    refuse (Tree.keyFlaw? (key, tree))
    if Tree.keyText key = tag then
      if chosen.isSome then duplicateField tag
      else
        let name ← textAs "variant identifier" source tree
        match lookup? name variants with
        | none => unknownVariant name (names variants)
        | some variant => splitTag tag variants source rest (some variant) others
    else
      source.setApart tree
      splitTag tag variants source rest chosen ((key, tree) :: others)

/-- The variant made of fields set aside. -/
def internalContent (variant : Content α) (body : Tree) : Except Fault α :=
  match variant with
  | .none _ value =>
    match body with
    | .list _ items ending => (Source.setAside.finish items.length items ending).map fun _ => value
    | _ => .ok value
  | .value decode | .record decode => decode .setAside body

/-- A variant named by a field among its own. -/
def internal (type tag : String) (variants : List (String × Content α)) : Decoder α :=
  fun source tree => do
    match tree with
    | .object opening entries ending =>
      let inner ← source.enter opening
      let (chosen, others) ← splitTag tag variants inner entries none []
      refuse (Tree.objectFlaw? ending)
      match chosen with
      | none => missingField tag
      | some variant => internalContent variant (.object [] others (.closed []))
    | .list opening trees ending =>
      let inner ← source.enter opening
      match trees with
      | [] =>
        refuse (Tree.listFlaw? ending)
        missingField tag
      | name :: rest =>
        let name ← textAs "variant identifier" inner name
        match lookup? name variants with
        | none => unknownVariant name (names variants)
        | some variant =>
          for item in rest do inner.setApart item
          refuse (Tree.listFlaw? ending)
          internalContent variant (.list [] rest (.closed []))
    | other => mismatch ("internally tagged enum " ++ type) other

end Decoder

/-- A value of a type from a whole text. -/
def Decoder.run {α : Type} (decode : Decoder α) (text : String) : Except Fault α := do
  let tree := Tree.read text.toList
  let value ← decode (.stream Tree.depthLimit) tree
  match tree.trailing? with
  | some flaw => malformed flaw
  | none => return value

/-- A value of a type from a structured value. -/
def Decoder.ofJson {α : Type} (decode : Decoder α) (value : Json) : Except Fault α :=
  decode .whole (Tree.ofJson value)

end ScriptKernel.Json
