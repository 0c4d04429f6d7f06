/-
**Paths, cleaned without looking at a file system.**

* `Path.clean`: empty and `.` parts go, `..` takes the part before it away, and nothing left is `.`.
-/

set_option autoImplicit false

namespace ScriptKernel

namespace Path

/-- Cuts characters at each slash. -/
def parts : List Char → List (List Char)
  | [] => [[]]
  | char :: rest =>
    if char = '/' then [] :: parts rest
    else match parts rest with
      | [] => [[char]]
      | part :: others => (char :: part) :: others

/-- Adds one part to the cleaned parts, which are held last first. -/
def add (absolute : Bool) (cleaned : List (List Char)) (part : List Char) : List (List Char) :=
  if part = [] ∨ part = ['.'] then cleaned
  else if part = ['.', '.'] then
    match cleaned with
    | [] => if absolute then [] else [part]
    | last :: others => if last = ['.', '.'] then part :: cleaned else others
  else part :: cleaned

/-- The shortest path that names the same place when no part is a link. -/
def clean (path : String) : String :=
  let absolute := path.toList.head? == some '/'
  let cleaned := ((parts path.toList).foldl (add absolute) []).reverse
  let body := "/".intercalate (cleaned.map String.ofList)
  if absolute then "/" ++ body else if body.isEmpty then "." else body

end Path

end ScriptKernel
