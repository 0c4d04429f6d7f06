/-
**Structured text, compact.**

* `Json.print`: no blanks, keys in the order of the object, and in text only the quote, the backslash and
  the controls escaped.
-/

import ScriptKernel.Json.Basic

set_option autoImplicit false

namespace ScriptKernel.Json

/-- The text of a number. -/
def Number.print : Number → String
  | .integer value => toString value
  | .double (.finite negative units) => Layout.message.write negative units
  | .double _ => "null"

/-- A hexadecimal digit, lower case. -/
def hexDigit (value : Nat) : Char :=
  if value < 10 then Char.ofNat (48 + value) else Char.ofNat (87 + value)

/-- Four hexadecimal digits. -/
def hexUnit (value : Nat) : List Char :=
  [hexDigit (value / 4096 % 16), hexDigit (value / 256 % 16), hexDigit (value / 16 % 16),
    hexDigit (value % 16)]

/-- The written form of one character between quotes. -/
def escapeChar (char : Char) : List Char :=
  if char = '"' then ['\\', '"']
  else if char = '\\' then ['\\', '\\']
  else if char = '\x08' then ['\\', 'b']
  else if char = '\x0c' then ['\\', 'f']
  else if char = '\n' then ['\\', 'n']
  else if char = '\r' then ['\\', 'r']
  else if char = '\t' then ['\\', 't']
  else if char.toNat < 32 then ['\\', 'u'] ++ hexUnit char.toNat
  else [char]

/-- The text between quotes. -/
def printText (value : String) : List Char :=
  '"' :: value.toList.flatMap escapeChar ++ ['"']

mutual

/-- The characters of the compact text. -/
def chars : Json → List Char
  | .null => ['n', 'u', 'l', 'l']
  | .boolean true => ['t', 'r', 'u', 'e']
  | .boolean false => ['f', 'a', 'l', 's', 'e']
  | .number value => value.print.toList
  | .text value => printText value
  | .list items => '[' :: itemChars items ++ [']']
  | .members entries => '\x7b' :: entryChars entries ++ ['\x7d']

/-- The items of a list, with commas between them. -/
def itemChars : List Json → List Char
  | [] => []
  | [item] => chars item
  | item :: next :: rest => chars item ++ ',' :: itemChars (next :: rest)

/-- The fields of an object, with commas between them. -/
def entryChars : List (String × Json) → List Char
  | [] => []
  | [entry] => fieldChars entry
  | entry :: next :: rest => fieldChars entry ++ ',' :: entryChars (next :: rest)

/-- A key and its value. -/
def fieldChars : String × Json → List Char
  | (key, value) => printText key ++ ':' :: chars value

end

/-- The compact text of a value. -/
def print (value : Json) : String := String.ofList value.chars

end ScriptKernel.Json
