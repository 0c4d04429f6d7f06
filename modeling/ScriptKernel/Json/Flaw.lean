/-
**What can be wrong with structured text.**

* `Json.Defect`: the defects of the text itself; `Json.Flaw`: one of them with the place it was found;
* `Json.Fault`: a flaw of the text, or a message that the value does not fit;
* `Json.Position.find`: the line and the column, in bytes, of a place.
-/

import ScriptKernel.Json.Basic

set_option autoImplicit false

namespace ScriptKernel.Json

/-- A defect of structured text. -/
inductive Defect
  | endOfValue
  | endOfList
  | endOfObject
  | endOfText
  | colonMissing
  | listCommaMissing
  | objectCommaMissing
  | unknownWord
  | valueMissing
  | keyNotText
  | trailingComma
  | trailingCharacters
  | invalidNumber
  | numberOutOfRange
  | invalidEscape
  | controlCharacter
  | loneSurrogate
  | escapeCutShort
  | tooDeep
  deriving DecidableEq, Repr

namespace Defect

/-- Whether the text ended too early. -/
def isEnd : Defect → Bool
  | .endOfValue | .endOfList | .endOfObject | .endOfText => true
  | _ => false

/-- The wording of a defect. -/
def message : Defect → String
  | .endOfValue => "EOF while parsing a value"
  | .endOfList => "EOF while parsing a list"
  | .endOfObject => "EOF while parsing an object"
  | .endOfText => "EOF while parsing a string"
  | .colonMissing => "expected `:`"
  | .listCommaMissing => "expected `,` or `]`"
  | .objectCommaMissing => "expected `,` or `\x7d`"
  | .unknownWord => "expected ident"
  | .valueMissing => "expected value"
  | .keyNotText => "key must be a string"
  | .trailingComma => "trailing comma"
  | .trailingCharacters => "trailing characters"
  | .invalidNumber => "invalid number"
  | .numberOutOfRange => "number out of range"
  | .invalidEscape => "invalid escape"
  | .controlCharacter => "control character (\\u0000-\\u001F) found while parsing a string"
  | .loneSurrogate => "lone leading surrogate in hex escape"
  | .escapeCutShort => "unexpected end of hex escape"
  | .tooDeep => "recursion limit exceeded"

end Defect

/-- A defect and the number of bytes that follow the place it was found at. -/
structure Flaw where
  defect : Defect
  left : Nat
  deriving DecidableEq, Repr

/-- Why a value could not be read from structured text. -/
inductive Fault
  | malformed (flaw : Flaw)
  | unfit (message : String) (left : Nat)
  deriving DecidableEq, Repr

namespace Fault

/-- The class of the fault. -/
def kind : Fault → String
  | .malformed flaw => if flaw.defect.isEnd then "eof" else "syntax"
  | .unfit .. => "data"

/-- The wording of the fault, without its place. -/
def summary : Fault → String
  | .malformed flaw => flaw.defect.message
  | .unfit message _ => message

/-- The bytes that follow the place of the fault. -/
def left : Fault → Nat
  | .malformed flaw => flaw.left
  | .unfit _ left => left

end Fault

/-- The number of bytes of a list of characters. -/
def byteCount (chars : List Char) : Nat := chars.foldl (fun total char => total + char.utf8Size) 0

namespace Position

/-- The line and the bytes since its start after `count` bytes of the text. -/
def advance : List Char → Nat → Nat × Nat → Nat × Nat
  | [], _, place => place
  | char :: rest, count, (line, column) =>
    if count = 0 then (line, column)
    else if count < char.utf8Size then (line, column + count)
    else advance rest (count - char.utf8Size)
      (if char = '\n' then (line + 1, 0) else (line, column + char.utf8Size))

/-- The line and column reached when `left` bytes of the text follow. -/
def find (source : List Char) (left : Nat) : Nat × Nat :=
  advance source (byteCount source - left) (1, 0)

end Position

/-- The wording of a fault in a text, with its place. -/
def Fault.message (fault : Fault) (source : String) : String :=
  let (line, column) := Position.find source.toList fault.left
  fault.summary ++ " at line " ++ toString line ++ " column " ++ toString column

end ScriptKernel.Json
