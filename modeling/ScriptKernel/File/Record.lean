/-
**Files and variables as structured values.**

A file is described by its text, by its bytes as hexadecimal digits, or as a directory; the value of a
variable of the environment by its text or its bytes.

* `FileEntry.ofJson`: one file; bytes that are no text make a binary one;
* `FileTree.putAll`: the files of an object, each under its path;
* `Variables.ofEntries`: the variables of an object.
-/

import ScriptKernel.Config.Layer
import ScriptKernel.Json.Access
import ScriptKernel.Json.Lexeme

set_option autoImplicit false

namespace ScriptKernel

/-- The bytes that hexadecimal digits stand for. -/
def hexBytes : List Char → ByteArray → ByteArray
  | high :: low :: rest, bytes =>
    match Json.Lexeme.hex? high, Json.Lexeme.hex? low with
    | some first, some second => hexBytes rest (bytes.push (UInt8.ofNat (first * 16 + second)))
    | _, _ => bytes
  | _, bytes => bytes

/-- The text whose bytes hexadecimal digits stand for, if they are one. -/
def hexText? (digits : String) : Option String :=
  String.fromUTF8? (hexBytes digits.toList .empty)

/-- The file a value describes. -/
def FileEntry.ofJson (value : Json) : FileEntry :=
  match value with
  | .text content => .text content
  | other =>
    if other.has "hex" then
      match hexText? (other.textAt "hex") with
      | some content => .text content
      | none => .binary
    else .directory

/-- Adds the files that are described under their paths. -/
def FileTree.putAll (tree : FileTree) (files : List (String × Json)) : FileTree :=
  files.foldl (fun built entry => built.put entry.1 (.ofJson entry.2)) tree

/-- The setting a value describes. -/
def Setting.ofJson : Json → Setting
  | .text value => .text value
  | other =>
    match hexText? (other.textAt "hex") with
    | some value => .text value
    | none => .binary

/-- The variables of an object. -/
def Variables.ofEntries (entries : List (String × Json)) : Variables :=
  entries.map fun entry => (entry.1, .ofJson entry.2)

end ScriptKernel
