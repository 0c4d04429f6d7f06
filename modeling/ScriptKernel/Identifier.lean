/-
**Names a script can use bare.**

* `isIdentifier`: a letter, `_` or `$`, then letters, digits, `_` and `$`, all ASCII, and no reserved word.
-/

set_option autoImplicit false

namespace ScriptKernel

namespace Identifier

/-- The words the language keeps for itself. -/
def reservedWords : List String :=
  ["await", "break", "case", "catch", "class", "const", "continue", "debugger", "default", "delete",
    "do", "else", "enum", "export", "extends", "false", "finally", "for", "function", "if",
    "implements", "import", "in", "instanceof", "interface", "let", "new", "null", "package",
    "private", "protected", "public", "return", "static", "super", "switch", "this", "throw", "true",
    "try", "typeof", "var", "void", "while", "with", "yield"]

/-- Whether a character is an ASCII letter. -/
def isLetter (char : Char) : Bool :=
  ('a' ≤ char && char ≤ 'z') || ('A' ≤ char && char ≤ 'Z')

/-- Whether a character may start a name. -/
def canStart (char : Char) : Bool := isLetter char || char == '_' || char == '$'

/-- Whether a character may follow in a name. -/
def canFollow (char : Char) : Bool := canStart char || ('0' ≤ char && char ≤ '9')

end Identifier

/-- Whether a text can stand as a bare name in a script. -/
def isIdentifier (name : String) : Bool :=
  match name.toList with
  | [] => false
  | first :: rest =>
    Identifier.canStart first && rest.all Identifier.canFollow &&
      !Identifier.reservedWords.contains name

end ScriptKernel
