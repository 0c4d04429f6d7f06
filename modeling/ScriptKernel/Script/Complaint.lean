/-
**What is wrong with a script that cannot be read.**

* `Complaint`: the first thing that is wrong;
* `Complaint.message`: how the error says it.
-/

import ScriptKernel.Script.Message

set_option autoImplicit false

namespace ScriptKernel.Script

/-- The first thing that is wrong with a script. -/
inductive Complaint
  -- Characters that make no word.
  | unclosedComment
  | unclosedText
  | malformedEscape
  | octalEscape
  | octalNumber
  | malformedNumber
  | strangeCharacter
  | malformedPrivateName
  -- Words that are not expected where they stand.
  | expected (mark : String)
  | expectedWhile
  | expectedTarget
  | expectedFieldName
  | expectedFunctionName
  | expectedVariableName
  | expectedName
  | expectedParameter
  | expectedHandler
  | expectedInitializer
  | expectedLoopWord
  | unexpected (source : String)
  | reserved (word : String)
  | unsupported (word : String)
  | strayYield
  | strictWith
  | propertyName
  | duplicateParent
  | accessorParameters
  -- Statements that may not stand where they are.
  | strayReturn
  | strayLexical
  | strayFunction
  | strayBreak
  | strayContinue
  | missingLabel
  | duplicateLabel
  | throwAcrossLines
  -- What cannot be assigned to, changed or taken away.
  | assignmentTarget
  | updateTarget
  | loopTarget
  | patternTarget
  | strictTarget
  | strictDelete
  -- Names that cannot be declared.
  | lexicalLet
  | lexicalName
  | strictVariable
  | strictFunctionName
  | strictParameterName
  | duplicateParameter
  | redefinedLexical
  | redefinedParameter
  | redefinedVariable
  | redefinedShared
  | redefinedShareOfLabel
  -- Words of classes and modules.
  | superCall
  | superField
  | superAlone
  -- The depth of the script.
  | tooDeep
  deriving DecidableEq, Repr, Inhabited

namespace Complaint

/-- What an error says about a script. -/
def text : Complaint → String
  | unclosedComment => "unexpected end of comment"
  | unclosedText => "unexpected end of string"
  | malformedEscape => "malformed escape sequence in string literal"
  | octalEscape => "octal escape sequences are not allowed in strict mode"
  | octalNumber => "octal literals are deprecated in strict mode"
  | malformedNumber => "invalid number literal"
  | strangeCharacter => "unexpected character"
  | malformedPrivateName => "invalid first character of private name"
  | expected mark => "expecting '" ++ mark ++ "'"
  | expectedWhile => "expecting '\ufffd"
  | expectedTarget => "expecting target"
  | expectedFieldName => "expecting field name"
  | expectedFunctionName => "function name expected"
  | expectedVariableName => "variable name expected"
  | expectedName => "identifier expected"
  | expectedParameter => "missing formal parameter"
  | expectedHandler => "expecting catch or finally"
  | expectedInitializer => "missing initializer for const variable"
  | expectedLoopWord => "expected 'of' or 'in' in for control expression"
  | unexpected source => "unexpected token in expression: '" ++ source ++ "'"
  | reserved word => "'" ++ word ++ "' is a reserved identifier"
  | unsupported word => "unsupported keyword: " ++ word
  | strayYield => "unexpected 'yield' keyword"
  | strictWith => "invalid keyword: with"
  | propertyName => "invalid property name"
  | duplicateParent => "duplicate __proto__ property name"
  | accessorParameters => "invalid number of arguments for getter or setter"
  | strayReturn => "return not in a function"
  | strayLexical => "lexical declarations can't appear in single-statement context"
  | strayFunction => "function declarations can't appear in single-statement context"
  | strayBreak => "break must be inside loop or switch"
  | strayContinue => "continue must be inside loop"
  | missingLabel => "break/continue label not found"
  | duplicateLabel => "duplicate label name"
  | throwAcrossLines => "line terminator not allowed after throw"
  | assignmentTarget => "invalid assignment left-hand side"
  | updateTarget => "invalid increment/decrement operand"
  | loopTarget => "invalid for in/of left hand-side"
  | patternTarget => "invalid destructuring target"
  | strictTarget => "invalid lvalue in strict mode"
  | strictDelete => "cannot delete a direct reference in strict mode"
  | lexicalLet => "'let' is not a valid lexical identifier"
  | lexicalName => "invalid lexical variable name"
  | strictVariable => "invalid variable name in strict mode"
  | strictFunctionName => "invalid function name in strict code"
  | strictParameterName => "invalid argument name in strict code"
  | duplicateParameter => "duplicate argument names not allowed in this context"
  | redefinedLexical => "invalid redefinition of lexical identifier"
  | redefinedParameter => "invalid redefinition of parameter name"
  | redefinedVariable => "invalid redefinition of a variable"
  | redefinedShared => "invalid redefinition of global identifier"
  | redefinedShareOfLabel => "invalid redefinition of global identifier in module code"
  | superCall => "super() is only valid in a derived class constructor"
  | superField => "'super' is only valid in a method"
  | superAlone => "invalid use of 'super'"
  | tooDeep => "stack overflow"

/-- The message of the error. -/
def message (complaint : Complaint) : Units := clipped (.ofString complaint.text)

end Complaint

end ScriptKernel.Script
