/-
**From a source to a tree.**

* `Parse.layers`: how deep one construct is nested in others; each layer but the outermost three takes a
  character, so that there are enough layers for any source;
* `Source.parse`: the tree of a source, or the first complaint.
-/

import ScriptKernel.Script.Grammar.Statement

set_option autoImplicit false

namespace ScriptKernel.Script

namespace Parse

/-- A layer in another one. -/
def layer (limit : Nat) (inner : Layer) : Layer where
  assignment allowsIn := assignmentOf limit inner allowsIn
  unary := unaryOf limit inner
  statement position := statementOf limit inner position
  element := elementOf limit inner

/-- So many layers, one in the other. -/
def layers (limit : Nat) : Nat → Layer
  | 0 =>
    ⟨fun _ => complain .tooDeep, complain .tooDeep, fun _ => complain .tooDeep, complain .tooDeep⟩
  | depth + 1 =>
    { assignment := fun allowsIn state => (layer limit (layers limit depth)).assignment allowsIn state
      unary := fun state => (layer limit (layers limit depth)).unary state
      statement := fun position state =>
        (layer limit (layers limit depth)).statement position state
      element := fun state => (layer limit (layers limit depth)).element state }

/-- Statements up to the end. -/
def toEnd (element : Parse Statement) : Nat → List Statement → Parse (List Statement)
  | 0, read => return read.reverse
  | limit + 1, read => do
    if (← current).kind == .ending then return read.reverse
    else
      let one ← element
      toEnd element limit (one :: read)

end Parse

/-- The tree of a source, or the first complaint. -/
def Source.parse (source : String) : Except Complaint Source := do
  let limit := source.length + 2
  let whole : Parse (List Statement) := do
    Parse.advance
    Parse.directives limit
    Parse.toEnd (Parse.layers limit (limit + 1)).element limit []
  let (body, state) ← whole.run { token := Token.opening source, names := { isScript := true } }
  return ⟨state.names.shared.reverse.map fun entry => (entry.1, entry.2.1), body, state.strict⟩

end ScriptKernel.Script
