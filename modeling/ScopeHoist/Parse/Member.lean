import ScopeHoist.Parse.Function

/-!
# Members

Properties of object literals, and classes.
-/

set_option autoImplicit false

namespace ScopeHoist
namespace Parser

variable (rule : Phrase → Parser Tree)

def seesStar : Parser Bool := sees fun token => token == .operator .mul

def eatsStar : Parser Bool := eats fun token => token == .operator .mul

def seesTrailing (texts : List String) : Parser Bool :=
  sees fun token => texts.any fun text => token.isSign text

/-! ## Object literals -/

def inMethod {α : Type} (parser : Parser α) : Parser α :=
  within (fun around => { around with allowsSuper := true, inField := false }) parser

def objectMethod (kind : FunctionKind) (key : Tree) : Parser Tree := do
  let (parameters, body) ← inMethod (functionTail rule kind unchecked)
  (Form.method kind).startingAt key.span.lo [key, parameters, body]

def objectAccessor (first : Nat) (isSetter : Bool) (key : Tree) : Parser Tree := do
  let check := if isSetter then checkSetter key.span.lo else checkGetter key.span.lo
  let (parameters, body) ← inMethod (functionTail rule .plain check)
  (Form.accessor isSetter).startingAt first [key, parameters, body]

/-- A property that is a name alone, or a name with a default for a pattern. -/
def shorthandProperty (first : Nat) (text : String) (span : Span) : Parser Tree := do
  if isReservedInModule text then reportAt .reservedShorthand span.lo
  let name : Tree := .ident ⟨text, .unscoped, span⟩
  let value ← initializer rule
  if value.isAbsent then return .node .shorthand span [name]
  else Form.initializedShorthand.startingAt first [name, value]

def objectProperty : Parser Tree := do
  let first ← start
  if ← eatsSign "..." then
    let value ← allowingIn (rule .assignment)
    Form.spread.startingAt first [value]
  else if ← eatsStar then objectMethod rule ⟨false, true⟩ (← propertyName rule)
  else
    let key ← propertyName rule
    if ← eatsSign ":" then
      let value ← allowingIn (rule .assignment)
      return .node .property (key.span.to value.span) [key, value]
    else if ← seesSign "(" then objectMethod rule .plain key
    else
      match wordOf? key with
      | none => unexpected "identifier"
      | some text =>
        if ← eatsSign "?" then reportAt .optionalMember (← previous).lo
        if (← seesAssignment) || (← seesTrailing [",", "\x7d"]) then
          shorthandProperty rule first text key.span
        else if text == "get" || text == "set" then
          objectAccessor rule first (text == "set") (← propertyName rule)
        else if text == "async" then
          let isGenerator ← eatsStar
          objectMethod rule ⟨true, isGenerator⟩ (← propertyName rule)
        else unexpected "... , *,  (, [, :, , ?, = or an identifier"

def rememberComma (offset : Nat) (comma : Option Nat) : Parser Unit :=
  match comma with
  | some place =>
    modify fun state => { state with trailingCommas := (offset, place) :: state.trailingCommas }
  | none => return

def objectLiteral : Parser Tree := do
  let first ← start
  let (parts, comma) ← properties (objectProperty rule)
  rememberComma first comma
  Form.object.startingAt first parts

/-! ## Classes -/

def isConstructorName : Tree → Bool
  | .node (.name text) _ _ => text == "constructor"
  | .node (.stringLiteral value _) _ _ => value == "constructor"
  | _ => false

def classPropertyName : Parser Tree := do
  if ← seesSign "#" then
    let name ← privateName
    match name with
    | .node (.privateName "constructor") span _ => reportAt .privateConstructor span.lo
    | _ => pure ()
    return name
  else propertyName rule

def classMethod (first : Nat) (isStatic : Bool) (kind : MethodKind) (key : Tree)
    (check : List Tree → Parser Unit) : Parser Tree := do
  let functionKind := match kind with | .plain kind => kind | _ => .plain
  let (parameters, body) ← inMethod (functionTail rule functionKind check)
  (Form.methodMember isStatic kind).startingAt first [key, parameters, body]

def classField (first : Nat) (isStatic : Bool) (key : Tree) : Parser Tree := do
  if isConstructorName key then failAt .fieldConstructor key.span.lo
  within (fun around => { around with allowsIn := true, inField := true }) do
    let value ← if ← eatsAssignment then rule .assignment else pure .absent
    if !(← eatsStatementEnd) then report .semicolonExpected
    (Form.fieldMember isStatic).startingAt first [key, value]

def classConstructor (first : Nat) (isStatic : Bool) (key : Tree) : Parser Tree := do
  let (parameters, body) ← inMethod (functionTail rule .plain unchecked)
  if isStatic then reportAt .staticConstructor first
  Form.constructorMember.startingAt first [key, parameters, body]

def staticBlock (first : Nat) : Parser Tree := do
  let body ←
    within (fun around => { around with inStaticBlock := true, inField := true }) (block rule)
  Form.staticBlock.startingAt first [body]

/-- Whether a field ends or gets its value here; a line end counts as an end if asked for. -/
def seesFieldEnd (orLineEnd : Bool) : Parser Bool := do
  if (← seesAssignment) || (← seesTrailing ["\x7d", ";"]) then return true
  return orLineEnd && (← seesStatementEnd)

def asyncMember (first : Nat) (isStatic : Bool) : Parser Tree := do
  let isGenerator ← eatsStar
  let key ← classPropertyName rule
  if isConstructorName key then failAt .asyncConstructor key.span.lo
  classMethod rule first isStatic (.plain ⟨true, isGenerator⟩) key unchecked

def accessorMember (first : Nat) (isStatic isSetter : Bool) (offset : Nat) : Parser Tree := do
  let key ← classPropertyName rule
  if isConstructorName key then reportAt .accessorConstructor offset
  if isSetter then classMethod rule first isStatic .setter key (checkSetter offset)
  else classMethod rule first isStatic .getter key (checkGetter offset)

/-- A member from its key on, which may turn out to be `get`, `set` or `async`. -/
def keyedMember (first : Nat) (isStatic : Bool) : Parser Tree := do
  let key ← classPropertyName rule
  if ← seesSign "(" then
    if isConstructorName key then classConstructor rule first isStatic key
    else classMethod rule first isStatic (.plain .plain) key unchecked
  else
    let word := (wordOf? key).getD ""
    let isAccessor := (word == "get" || word == "set") && !(← seesFieldEnd false)
      && !((← afterBreak) && (← seesStar))
    if !isAccessor && (← seesFieldEnd true) then classField rule first isStatic key
    else if word == "async" && !(← afterBreak) then asyncMember rule first isStatic
    else if isAccessor then accessorMember rule first isStatic (word == "set") key.span.lo
    else unexpected "* for generator, private key, identifier or async"

def memberBehindStatic (first : Nat) (isStatic : Bool) : Parser Tree := do
  if isStatic && (← seesSign "\x7b") then staticBlock rule first
  else if ← eatsStar then
    let key ← classPropertyName rule
    if isConstructorName key then reportAt .generatorConstructor key.span.lo
    classMethod rule first isStatic (.plain ⟨false, true⟩) key unchecked
  else keyedMember rule first isStatic

def classMember : Parser Tree := do
  let first ← start
  if ← eatsSign ";" then Form.emptyMember.startingAt first []
  else if ← eatsWord "static" then
    let key : Tree := .node (.name "static") (← previous) []
    if ← seesSign "(" then classMethod rule first false (.plain .plain) key unchecked
    else if ← seesFieldEnd false then classField rule first false key
    else memberBehindStatic rule first true
  else memberBehindStatic rule first false

def reportConstructors : Bool → List Tree → Parser Unit
  | _, [] => return
  | found, .node .constructorMember span _ :: rest => do
    if found then reportAt .constructorTwice span.lo
    reportConstructors true rest
  | found, _ :: rest => reportConstructors found rest

/-- A class from its keyword on. -/
def classOf (isDeclaration isNamed : Bool) : Parser Tree :=
  within (fun around => { around with inClass := true }) do
    let first ← start
    advance
    let name ← optionalBindingIdentifier isNamed true
    let superclass ← if ← eatsWord "extends" then rule .leftHandSide else pure .absent
    if ← eatsWord "extends" then
      reportAt .extendsTwice (← previous).lo
      let _ ← rule .leftHandSide
    expectSign "\x7b"
    let members ←
      within (fun around => { around with allowsSuper := true })
        (gather (moreBefore "\x7d") (classMember rule))
    reportConstructors false members
    if ← isEnd then report (.expected "\x7d" Token.endOfSource.shown) else expectSign "\x7d"
    let form := if isDeclaration then Form.classDecl else Form.classExpr
    form.startingAt first (name :: superclass :: members)

end Parser
end ScopeHoist
