/-
**Text in double quotes for messages.**

* `quoted`: the text between double quotes, with the quote, the backslash and the usual controls after a
  backslash and every other invisible character by its number;
* `Quoted.encode`: the characters between the quotes.
-/

import ScriptKernel.Text.Invisible

set_option autoImplicit false

namespace ScriptKernel

namespace Quoted

/-- The lower-case hexadecimal digits of a number. -/
def hexadecimal (value : Nat) : List Char := Nat.toDigits 16 value

/-- The written form of one character. -/
def encodeChar (char : Char) : List Char :=
  if char = '"' then ['\\', '"']
  else if char = '\\' then ['\\', '\\']
  else if char = '\t' then ['\\', 't']
  else if char = '\r' then ['\\', 'r']
  else if char = '\n' then ['\\', 'n']
  else if char = '\x00' then ['\\', '0']
  else if isInvisible char then
    ['\\', 'u', '\x7b'] ++ hexadecimal char.toNat ++ ['\x7d']
  else [char]

/-- The characters between the quotes. -/
def encode (chars : List Char) : List Char := chars.flatMap encodeChar

end Quoted

/-- The text in double quotes. -/
def quoted (text : String) : String :=
  "\"" ++ String.ofList (Quoted.encode text.toList) ++ "\""

/-- A list of texts, each in double quotes, between square brackets. -/
def quotedList (texts : List String) : String :=
  "[" ++ ", ".intercalate (texts.map quoted) ++ "]"

end ScriptKernel
