import ScopeHoist.Parse.Name
import ScopeHoist.Tree.Pattern

/-!
# Patterns

Patterns that are written as such, in declarations and parameter lists, and those that are first
read as expressions, because only the sign behind them shows what they are.
-/

set_option autoImplicit false

namespace ScopeHoist
namespace Parser

/-! ## Binding patterns -/

section
variable (rule : Phrase → Parser Tree)

def initializer : Parser Tree := do
  if ← eatsAssignment then allowingIn (rule .assignment) else return .absent

/-- A pattern with or without a default. -/
def bindingElement : Parser Tree := do
  let first ← start
  let pattern ← rule (.binding false)
  let value ← initializer rule
  if value.isAbsent then return pattern else Form.defaulted.startingAt first [pattern, value]

/-- A rest pattern, the dots behind. -/
def restPattern (first : Nat) : Parser Tree := do
  let pattern ← rule (.binding false)
  Form.rest.startingAt first [pattern]

def isRest : Tree → Bool
  | .node .rest _ _ => true
  | _ => false

/-- Elements of an array pattern, the last one known; a hole for each comma in front of one. -/
def arrayPatternElement (afterRest : Option Nat) : Parser Tree := do
  if ← eatsSign "," then return .absent
  match afterRest with
  | some offset => reportAt .restNotLast offset
  | none => pure ()
  let first ← start
  let element ← if ← eatsSign "..." then restPattern rule first else bindingElement rule
  if !(← seesSign "]") then
    expectSign ","
    if isRest element && (← seesSign "]") then reportAt .commaAfterRest (← previous).lo
  return element

def arrayPatternElements (afterRest : Option Nat) : Nat → Parser (List Tree)
  | 0 => return []
  | n + 1 => do
    if ← moreBefore "]" then
      let element ← arrayPatternElement rule afterRest
      let afterRest := if isRest element then some element.span.lo else afterRest
      let rest ← arrayPatternElements afterRest n
      return element :: rest
    else return []

def arrayPattern : Parser Tree := do
  let first ← start
  advance
  let elements ← arrayPatternElements rule none (← read).bound
  expectSign "]"
  Form.arrayPattern.startingAt first elements

/-- A name in an object pattern, with or without a default. -/
def shorthandPattern (first : Nat) (key : Tree) : Parser Tree := do
  match wordOf? key with
  | none => unexpected "an identifier"
  | some text =>
    let name : Tree := .ident ⟨text, .unscoped, key.span⟩
    if !(← seesAssignment) && isReservedInModule text then
      reportAt .reservedShorthand key.span.lo
    let value ← initializer rule
    Form.shorthandPattern.startingAt first [name, value]

def propertyPattern : Parser Tree := do
  let first ← start
  if ← eatsSign "..." then restPattern rule first
  else
    let key ← propertyName rule
    if ← eatsSign ":" then
      let value ← bindingElement rule
      return .node .property (key.span.to value.span) [key, value]
    else shorthandPattern rule first key

/-- A property and the comma behind it, if it is one in front of the closing brace. -/
def separatedProperty (item : Parser Tree) : Parser (Tree × Option Nat) := do
  let property ← item
  if ← seesSign "\x7d" then return (property, none)
  expectSign ","
  if ← seesSign "\x7d" then return (property, some (← previous).lo)
  return (property, none)

/-- Properties between braces, and the comma in front of the closing one. -/
def properties (item : Parser Tree) : Parser (List Tree × Option Nat) := do
  advance
  let found ← gather (return !(← eatsSign "\x7d")) (separatedProperty item)
  return (found.map Prod.fst, found.getLast?.bind Prod.snd)

def checkRestPlace : List Tree → Option Nat → Parser Unit
  | [], _ => return
  | [.node .rest _ [.ident _]], comma =>
    match comma with
    | some offset => reportAt .commaAfterRest offset
    | none => return
  | [.node .rest span _], _ => failAt .restIdentifier span.lo
  | .node .rest span _ :: next :: rest, comma => do
    reportAt .restNotLast span.lo
    checkRestPlace (next :: rest) comma
  | _ :: rest, comma => checkRestPlace rest comma

def objectPattern : Parser Tree := do
  let first ← start
  let (parts, comma) ← properties (propertyPattern rule)
  let span ← spanFrom first
  checkRestPlace parts comma
  return .node .objectPattern span parts

/-- The pattern of a declaration. -/
def binding (reservesLet : Bool) : Parser Tree := do
  let token ← someToken
  if token.word?.isSome then return .ident (← bindingIdentifier reservesLet)
  else if token.isSign "[" then arrayPattern rule
  else if token.isSign "\x7b" then objectPattern rule
  else unexpected "yield, an identifier, [ or \x7b"

end

/-! ## Expressions read as patterns -/

/-- Whether a value can be assigned to what the expression stands for. -/
def isSimpleTarget : Tree → Bool
  | .ident id => !isUnbindable id.name
  | .node .member _ _ => true
  | .node .index _ _ => true
  | .node .paren _ [inner] => isSimpleTarget inner
  | _ => false

/-- What an expression is read as a pattern for. -/
inductive PatternUse where
  | parameter
  | assigned
  | assignedElement
  deriving DecidableEq

def PatternUse.element : PatternUse → PatternUse
  | .parameter => .parameter
  | _ => .assignedElement

def isDefaulted : Tree → Bool
  | .node .defaulted _ _ => true
  | _ => false

def trailingComma? (offset : Nat) : Parser (Option Nat) :=
  return ((← get).trailingCommas.find? fun entry => entry.1 == offset).map Prod.snd

def reportComma (comma : Option Nat) : Parser Unit :=
  match comma with
  | some offset => reportAt .commaAfterRest offset
  | none => return

/-- An expression that is no array, no object and no assignment. -/
def leafPattern (use : PatternUse) (tree : Tree) : Parser Tree := do
  match use with
  | .assigned =>
    if !isSimpleTarget tree then reportAt .assignmentTarget tree.span.lo
  | .assignedElement =>
    match tree with
    | .ident _ | .node .member _ _ | .node .index _ _ | .node .call _ _ | .node (.new _) _ _
    | .node .nullLiteral _ _ | .node (.boolLiteral _) _ _ | .node (.numberLiteral _) _ _
    | .node (.bigintLiteral _) _ _ | .node (.stringLiteral _ _) _ _
    | .node (.regexLiteral _ _) _ _ | .node (.function _) _ _ | .node .classExpr _ _
    | .node .paren _ _ | .node (.template _) _ _ =>
      if !isSimpleTarget tree then reportAt .simpleTarget tree.span.lo
    | _ => reportAt .notAPattern tree.span.lo
  | .parameter =>
    match tree with
    | .ident _ => pure ()
    | .node .objectPattern _ _ | .node .arrayPattern _ _ => pure ()
    | _ => reportAt .notAPattern tree.span.lo
  return tree

mutual
def patternOf (use : PatternUse) : Tree → Parser Tree
  | .node .array span elements => do
    let holes := (elements.reverse.takeWhile Tree.isAbsent).length
    let parts ← elementPatterns use.element span.lo (holes == 0) elements
    return .node .arrayPattern span (parts.take (elements.length - holes))
  | .node .object span parts =>
    return .node .objectPattern span (← propertyPatterns use.element span.lo parts)
  | .node (.assign .plain) span [target, value] => do
    if use == .assigned then
      reportAt .assignmentTarget span.lo
      return .node (.assign .plain) span [target, value]
    else
      let target ←
        match target with
        | .node .objectPattern _ _ | .node .arrayPattern _ _ => pure target
        | target => leafPattern use target
      return .node .defaulted span [target, value]
  | tree => leafPattern use tree

/-- The elements of an array; whether the last of them may be a rest. -/
def elementPatterns (use : PatternUse) (opening : Nat) (lastMayRest : Bool) :
    List Tree → Parser (List Tree)
  | [] => return []
  | .node .absent span children :: rest => do
    let others ← elementPatterns use opening lastMayRest rest
    return .node .absent span children :: others
  | .node .spread span [value] :: rest => do
    if rest.isEmpty && lastMayRest then
      match value with
      | .node (.assign _) _ _ => reportAt .restInitializer span.lo
      | _ => pure ()
      reportComma (← trailingComma? opening)
      let pattern ← patternOf use value
      return [.node .rest value.span [pattern]]
    else
      reportAt .restNotLast span.lo
      elementPatterns use opening lastMayRest rest
  | element :: rest => do
    let pattern ← patternOf use element
    let others ← elementPatterns use opening lastMayRest rest
    return pattern :: others

def propertyPatterns (use : PatternUse) (opening : Nat) : List Tree → Parser (List Tree)
  | [] => return []
  | .node .spread span [value] :: rest => do
    if rest.isEmpty then reportComma (← trailingComma? opening)
    else reportAt .restNotLast span.lo
    let pattern ←
      match use, value with
      | .parameter, .ident id => pure (.ident id)
      | .parameter, value => do
        reportAt .restIdentifier span.lo
        pure value
      | use, value => patternOf use value
    if isDefaulted pattern then reportAt .restInitializer span.lo
    let others ← propertyPatterns use opening rest
    return .node .rest span [pattern] :: others
  | .node .shorthand span [name] :: rest => do
    let others ← propertyPatterns use opening rest
    return .node .shorthandPattern span [name, .absent] :: others
  | .node .property span [key, value] :: rest => do
    let pattern ← patternOf use value
    let others ← propertyPatterns use opening rest
    return .node .property span [key, pattern] :: others
  | .node .initializedShorthand _ [name, value] :: rest => do
    let others ← propertyPatterns use opening rest
    return .node .shorthandPattern (name.span.to value.span) [name, value] :: others
  | property :: _ => failAt .notAPattern property.span.lo
end

/-- The items between parentheses as the parameters of an arrow function. -/
def parametersOf (comma : Option Nat) : List Tree → Parser (List Tree)
  | [] => return []
  | [.node .spread span [value]] => do
    match value with
    | .node (.assign _) _ _ => reportAt .restInitializer span.lo
    | _ => pure ()
    reportComma comma
    let pattern ← patternOf .parameter value
    return [.node .rest value.span [pattern]]
  | .node .spread span _ :: rest => do
    reportAt .restParameterNotLast span.lo
    parametersOf comma rest
  | item :: rest => do
    let pattern ← patternOf .parameter item
    let others ← parametersOf comma rest
    return pattern :: others

/-- Reports parameters with names that nothing may have. -/
def checkParameters (parameters : List Tree) : Parser Unit :=
  (patternListIdents parameters).forM fun id => do
    if isUnbindable id.name then reportAt .strictBinding id.span.lo

end Parser
end ScopeHoist
