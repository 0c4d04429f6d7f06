/-
**Blank characters.**

* `isBlank`: the characters of the Unicode property White_Space;
* `trimBlank`: the text without blank characters at either end.
-/

set_option autoImplicit false

namespace ScriptKernel

/-- Whether a character is white space. -/
def isBlank (char : Char) : Bool :=
  let code := char.toNat
  (9 ≤ code && code ≤ 13) || code == 0x20 || code == 0x85 || code == 0xA0 || code == 0x1680 ||
    (0x2000 ≤ code && code ≤ 0x200A) || code == 0x2028 || code == 0x2029 || code == 0x202F ||
    code == 0x205F || code == 0x3000

/-- The characters without the blank ones at either end. -/
def trimChars (chars : List Char) : List Char :=
  ((chars.dropWhile isBlank).reverse.dropWhile isBlank).reverse

/-- The text without the blank characters at either end. -/
def trimBlank (text : String) : String := String.ofList (trimChars text.toList)

/-- The text with the letters `A` to `Z` in lower case. -/
def lowerAscii (text : String) : String := String.ofList (text.toList.map Char.toLower)

end ScriptKernel
