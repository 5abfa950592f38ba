import ScopeHoist.Text.Shown

/-!
# Faults in a source

What can be wrong with the text of a module, and how it is told. A fault stands at an offset of
the text; a report names the line and the column.
-/

set_option autoImplicit false

namespace ScopeHoist

inductive Fault where
  -- found in the characters
  | unterminatedComment
  | unterminatedString
  | unterminatedRegex
  | unterminatedTemplate
  | unexpectedChar (c : Char)
  | escapedReservedWord (word : String)
  | unicodeEscapeExpected
  | identifierChar
  | stringEscape
  | unicodeEscape
  | escapeSequence (wanted : String)
  | legacyOctal
  | legacyDecimal
  | digitExpected (digit : String)
  | exponentExpected
  | identifierAfterNumber
  | numericSeparator
  | legacyComment
  | conflictMarker
  | regexFlags
  | regexFlagTwice (flag : Char)
  -- found in the order of the tokens
  | endOfSource
  | expected (sign got : String)
  | unexpected (got wanted : String)
  | expressionExpected
  | identifierExpected
  | semicolonExpected
  | statementEndExpected
  -- statements
  | declarationPlace
  | importExportPlace
  | labelTwice (label : String)
  | labeledFunction
  | labeledGenerator
  | breakPlace
  | breakLabel
  | continuePlace
  | continueLabel
  | returnPlace
  | withStatement
  | severalDefaults
  | lineBreakInThrow
  | awaitLoop
  | asyncOfLoop
  | severalLoopVariables
  | loopInitializer
  | trailingComma
  | constInitializer
  | patternInitializer
  | usingDeclaration
  -- imports and exports
  | reservedImport
  | importedString (name : String)
  | exportedString
  | exportWithoutSource (name : String)
  -- names
  | strictName (name : String)
  | awaitName
  | strictBinding
  | argumentsInField
  -- patterns and parameters
  | notAPattern
  | restNotLast
  | commaAfterRest
  | restParameterNotLast
  | restInitializer
  | restIdentifier
  | directivePlace
  | getterParameters
  | setterParameters
  | restInSetter
  -- expressions
  | assignmentTarget
  | assignmentForm
  | simpleTarget
  | deletedIdentifier
  | unaryInPower
  | nullishMixed
  | superPlace
  | superCall
  | superOptional
  | importPlace
  | newTargetPlace
  | optionalConstructor
  | optionalTemplate
  | importTrailingComma
  | emptyParens
  | spreadInParens
  | notAnExpression
  | arrowLineBreak
  | arrowPlace
  | awaitStar
  | awaitPlace
  | awaitInParameters
  | yieldInParameters
  | assignmentProperty
  | reservedShorthand
  | optionalMember
  -- classes
  | extendsTwice
  | constructorTwice
  | generatorConstructor
  | asyncConstructor
  | accessorConstructor
  | privateConstructor
  | fieldConstructor
  | staticConstructor
  | spaceAfterHash
  /-- Deeper nesting than the text can hold. -/
  | nesting
  deriving DecidableEq, Repr

def Fault.message : Fault → String
  | .unterminatedComment => "Unterminated block comment"
  | .unterminatedString => "Unterminated string constant"
  | .unterminatedRegex => "Unterminated regexp literal"
  | .unterminatedTemplate => "Unterminated template"
  | .unexpectedChar c => "Unexpected character '" ++ String.ofList (shownChar '\'' c) ++ "'"
  | .escapedReservedWord word => "Unexpected escape sequence in reserved word: " ++ word
  | .unicodeEscapeExpected => "Expected unicode escape"
  | .identifierChar => "Invalid character in identifier"
  | .stringEscape => "Invalid string escape"
  | .unicodeEscape => "Invalid unicode escape"
  | .escapeSequence wanted => "Bad character escape sequence, expected " ++ wanted
  | .legacyOctal => "Legacy octal literals cannot be used in strict mode"
  | .legacyDecimal => "Legacy decimals cannot be used in strict mode"
  | .digitExpected digit => "Expected " ++ digit ++ " digit"
  | .exponentExpected => "Expected +, - or decimal digit after e"
  | .identifierAfterNumber => "Identifier cannot follow number"
  | .numericSeparator => "A numeric separator is only allowed between two digits"
  | .legacyComment => "Legacy comments cannot be used in module code"
  | .conflictMarker => "Merge conflict marker encountered."
  | .regexFlags => "Unknown regular expression flags."
  | .regexFlagTwice flag =>
    "Duplicated regular expression flag '" ++ String.singleton flag ++ "'."
  | .endOfSource => "Unexpected eof"
  | .expected sign got => "Expected '" ++ sign ++ "', got '" ++ got ++ "'"
  | .unexpected got wanted => "Unexpected token \x60" ++ got ++ "\x60. Expected " ++ wanted
  | .expressionExpected => "Expression expected"
  | .identifierExpected => "Expected ident"
  | .semicolonExpected => "Expected a semicolon"
  | .statementEndExpected => "Expected ';', '\x7d' or <eof>"
  | .declarationPlace => "Declaration is not allowed"
  | .importExportPlace => "'import', and 'export' cannot be used outside of module code"
  | .labelTwice label => "Label " ++ label ++ " is already declared"
  | .labeledFunction => "Function cannot be labelled in strict mode"
  | .labeledGenerator => "Label cannot be used for generator or async function"
  | .breakPlace =>
    "A 'break' statement can only be used within an enclosing iteration or switch statement"
  | .breakLabel => "A 'break' statement can only jump to a label of an enclosing statement"
  | .continuePlace =>
    "A 'continue' statement can only target a label of an enclosing iteration statement"
  | .continueLabel => "Jump target cannot cross function boundary"
  | .returnPlace => "Return statement is not allowed here"
  | .withStatement => "With statement are not allowed in strict mode"
  | .severalDefaults => "A switch block cannot have multiple defaults"
  | .lineBreakInThrow => "LineBreak cannot follow 'throw'"
  | .awaitLoop => "for await syntax is valid only for for-of statement"
  | .asyncOfLoop =>
    "The left-hand side of a \x60for...of\x60 statement may not be \x60async\x60"
  | .severalLoopVariables => "Expected one variable binding"
  | .loopInitializer => "Unexpected initializer in for in/of loop"
  | .trailingComma => "Trailing comma not allowed"
  | .constInitializer => "'const' declarations must be initialized"
  | .patternInitializer => "Destructuring bindings require initializers"
  | .usingDeclaration =>
    "Using declaration is not enabled. Set jsc.parser.explicitResourceManagement to true"
  | .reservedImport => "cannot import as reserved word"
  | .importedString name =>
    "A string literal cannot be used as an imported binding.\n- Did you mean \x60import \x7b \""
      ++ name ++ "\" as foo \x7d\x60?"
  | .exportedString =>
    "A string literal cannot be used as an exported binding without \x60from\x60."
  | .exportWithoutSource name =>
    "\x60" ++ name ++ "\x60 cannot be used without \x60from\x60 clause"
  | .strictName name => "\x60" ++ name ++ "\x60 cannot be used as an identifier in strict mode"
  | .awaitName => "\x60await\x60 cannot be used as an identifier in an async context"
  | .strictBinding =>
    "'eval' and 'arguments' cannot be used as a binding identifier in strict mode"
  | .argumentsInField => "'arguments' cannot be used in class fields"
  | .notAPattern => "Not a pattern"
  | .restNotLast => "Rest element must be final element"
  | .commaAfterRest => "Trailing comma isn't permitted after a rest element"
  | .restParameterNotLast => "A rest parameter must be last in a parameter list"
  | .restInitializer => "A rest parameter cannot have an initializer"
  | .restIdentifier => "\x60...\x60 must be followed by an identifier in declaration contexts"
  | .directivePlace =>
    "Illegal 'use strict' directive in function with non-simple parameter list."
  | .getterParameters => "A \x60get\x60 accessor cannot have any formal parameters"
  | .setterParameters => "A \x60set\x60 accessor must have exactly one formal parameter"
  | .restInSetter => "Rest pattern is not allowed in setter"
  | .assignmentTarget =>
    "The left-hand side of an assignment expression must be a variable or a property access."
  | .assignmentForm => "Invalid assignment target"
  | .simpleTarget => "Cannot assign to this"
  | .deletedIdentifier => "'delete' cannot be called on an identifier in strict mode"
  | .unaryInPower => "** cannot be applied to unary expression"
  | .nullishMixed =>
    "Nullish coalescing operator(??) requires parens when mixing with logical operators"
  | .superPlace => "Invalid access to super"
  | .superCall => "Invalid \x60super()\x60"
  | .superOptional => "Super call cannot be optional"
  | .importPlace => "Import is not allowed here"
  | .newTargetPlace => "'new.target' is only allowed in the body of a function"
  | .optionalConstructor => "Optional chaining cannot follow constructor call"
  | .optionalTemplate => "Tagged template expressions are not permitted in an optional chain"
  | .importTrailingComma => "Trailing comma is disallowed inside import(...) arguments"
  | .emptyParens => "Parenthesized expression cannot be empty"
  | .spreadInParens => "Parenthesized expression cannot contain spread operator"
  | .notAnExpression => "Not an expression"
  | .arrowLineBreak => "Unexpected line break between arrow head and arrow"
  | .arrowPlace => "An arrow function is not allowed here"
  | .awaitStar =>
    "await* has been removed from the async functions proposal. Use Promise.all() instead."
  | .awaitPlace => "await isn't allowed in non-async function"
  | .awaitInParameters => "\x60await\x60 expressions cannot be used in a parameter initializer"
  | .yieldInParameters => "'yield' cannot be used as a parameter within generator"
  | .assignmentProperty => "Assignment property is invalid syntax"
  | .reservedShorthand => "Cannot use a reserved word as a shorthand property"
  | .optionalMember => "An object member cannot be declared optional"
  | .extendsTwice => "\x60extends\x60 clause already seen."
  | .constructorTwice => "A class may only have one constructor"
  | .generatorConstructor => "A constructor cannot be generator"
  | .asyncConstructor => "Constructor can't be an async function"
  | .accessorConstructor => "Class constructor can't be an accessor"
  | .privateConstructor => "Classes can't have a private field named '#constructor'"
  | .fieldConstructor => "Classes may not have a non-static field named 'constructor'"
  | .staticConstructor => "'static' modifier cannot appear on a constructor declaration"
  | .spaceAfterHash => "Unexpected space between # and identifier"
  | .nesting => "Source is nested too deeply"

/-- A fault and the offset where it stands. -/
structure Problem where
  fault : Fault
  offset : Nat
  deriving DecidableEq, Repr

/-- The report on a fault, with its line and column in the text that it was found in. -/
def Problem.message (problem : Problem) (text : List Char) : String :=
  let position := positionAt text problem.offset
  problem.fault.message ++ " (" ++ toString position.line ++ ":" ++ toString position.column ++ ")"

end ScopeHoist
