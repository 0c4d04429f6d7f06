/-
**The structured text a script writes.**

* `Draft`: a value as it is about to be written: numbers are doubles, and texts may hold lone surrogates;
* `Draft.print`, `Draft.layout`: the text on one line, and on many;
* `Draft.read`: the value the text reads back as; a text that nests too deep, or that holds a lone surrogate
  or a number out of range, has a flaw.
-/

import ScriptKernel.Error
import ScriptKernel.Json.Printer
import ScriptKernel.Json.Tree
import ScriptKernel.Text.Units

set_option autoImplicit false

namespace ScriptKernel.Script

/-- A value about to be written. -/
inductive Draft
  | null
  | boolean (value : Bool)
  | number (value : Double)
  | text (value : Units)
  | list (items : List Draft)
  | fields (entries : List (Units × Draft))
  deriving Repr, Inhabited

namespace Draft

/-! ### The text -/

/-- A character between quotes, or the escape of a lone surrogate. -/
def pieceChars : Units.Piece → List Char
  | .char char => Json.escapeChar char
  | .lone unit => ['\\', 'u'] ++ Json.hexUnit unit

/-- A text between quotes. -/
def textChars (value : Units) : List Char :=
  '"' :: (Units.pieces value.units).flatMap pieceChars ++ ['"']

mutual

/-- The characters of the text. -/
def chars : Draft → List Char
  | .null => "null".toList
  | .boolean value => (toString value).toList
  | .number value => value.text.toList
  | .text value => textChars value
  | .list items => '[' :: itemChars items ++ [']']
  | .fields entries => '\x7b' :: entryChars entries ++ ['\x7d']

/-- The items of a list, with commas between them. -/
def itemChars : List Draft → List Char
  | [] => []
  | [item] => chars item
  | item :: next :: rest => chars item ++ ',' :: itemChars (next :: rest)

/-- The fields of an object, with commas between them. -/
def entryChars : List (Units × Draft) → List Char
  | [] => []
  | [entry] => fieldChars entry
  | entry :: next :: rest => fieldChars entry ++ ',' :: entryChars (next :: rest)

/-- A key and its value. -/
def fieldChars : Units × Draft → List Char
  | (key, value) => textChars key ++ ':' :: chars value

end

/-- The text. -/
def print (draft : Draft) : String := String.ofList draft.chars

/-! ### The text on many lines -/

/-- A new line, if lines are set in at all. -/
def lineBreak (gap indent : List Nat) : List Nat := if gap.isEmpty then [] else 10 :: indent

mutual

/-- The units of the text, each level on lines of its own; the lines of this level start with `indent`, and
each level within adds a gap. -/
def laid (gap indent : List Nat) : Draft → List Nat
  | .list [] => Units.ofChar '[' ++ Units.ofChar ']'
  | .list items =>
    Units.ofChar '[' ++ laidItems gap (indent ++ gap) items ++ lineBreak gap indent ++
      Units.ofChar ']'
  | .fields [] => Units.ofChar '\x7b' ++ Units.ofChar '\x7d'
  | .fields entries =>
    Units.ofChar '\x7b' ++ laidEntries gap (indent ++ gap) entries ++ lineBreak gap indent ++
      Units.ofChar '\x7d'
  | simple => (Units.ofChars simple.chars).units

/-- The items of a list, each on a line. -/
def laidItems (gap indent : List Nat) : List Draft → List Nat
  | [] => []
  | [item] => lineBreak gap indent ++ laid gap indent item
  | item :: next :: rest =>
    lineBreak gap indent ++ laid gap indent item ++ Units.ofChar ',' ++
      laidItems gap indent (next :: rest)

/-- The fields of an object, each on a line. -/
def laidEntries (gap indent : List Nat) : List (Units × Draft) → List Nat
  | [] => []
  | [entry] => lineBreak gap indent ++ laidField gap indent entry
  | entry :: next :: rest =>
    lineBreak gap indent ++ laidField gap indent entry ++ Units.ofChar ',' ++
      laidEntries gap indent (next :: rest)

/-- A key and its value. -/
def laidField (gap indent : List Nat) : Units × Draft → List Nat
  | (key, value) =>
    (Units.ofChars (textChars key)).units ++ Units.ofChar ':' ++
      (if gap.isEmpty then [] else Units.ofChar ' ') ++ laid gap indent value

end

/-- The text on many lines, set in by a gap; on one line if the gap is empty. -/
def layout (draft : Draft) (gap : Units) : Units := ⟨draft.laid gap.units []⟩

/-! ### The value -/

/-- What the text of a draft reads back as. -/
def read (draft : Draft) : Except EngineError Json :=
  match Json.parse draft.print with
  | .ok value => .ok value
  | .error fault => .error (.conversion (fault.message draft.print))

end Draft

end ScriptKernel.Script
