import ScopeHoist.Parse.Basic

/-!
# Names

Identifiers, property names and private names.
-/

set_option autoImplicit false

namespace ScopeHoist
namespace Parser

/-- Words that module code may not use as identifiers, though they can be read as such. -/
def strictNames : List String :=
  ["enum", "yield", "let", "static", "implements", "interface", "package", "private", "protected",
   "public"]

def identifier (allowsYield : Bool) : Parser Ident := do
  let first ← start
  let token ← someToken
  let around ← read
  match token.word? with
  | none => fail .identifierExpected
  | some text =>
    advance
    let span ← spanFrom first
    if strictNames.contains text then reportAt (.strictName text) span.lo
    match token with
    | .name _ =>
      if text == "arguments" && around.inField then reportAt .argumentsInField span.lo
      return ⟨text, .unscoped, span⟩
    | _ =>
      if text == "let" || (text == "yield" && allowsYield) then return ⟨text, .unscoped, span⟩
      else if text == "await" && !around.inStaticBlock then failAt .awaitName span.lo
      else failAt .identifierExpected span.lo

/-- The name of something that is declared. -/
def bindingIdentifier (reservesLet : Bool) : Parser Ident := do
  if reservesLet && (← seesWord "let") then
    unexpected "let is reserved in const, let, class declaration"
  let id ← identifier true
  if isUnbindable id.name then reportAt .strictBinding id.span.lo
  if (← read).inGenerator && id.name == "yield" then reportAt .identifierExpected id.span.lo
  return id

/-- Whether the present token can name something that is declared. -/
def seesBindingIdentifier : Parser Bool :=
  sees fun token =>
    match token.word? with
    | some text => !isReservedInModule text
    | none => false

def optionalBindingIdentifier (isRequired reservesLet : Bool) : Parser Tree := do
  if isRequired || (← seesBindingIdentifier) then
    return .ident (← bindingIdentifier reservesLet)
  else return .absent

/-- A word of any kind. -/
def anyWord : Parser (String × Span) := do
  let first ← start
  match (← someToken).word? with
  | some text =>
    advance
    return (text, ← spanFrom first)
  | none => fail .identifierExpected

def plainName : Parser Tree := do
  let (text, span) ← anyWord
  return .node (.name text) span []

def privateName : Parser Tree := do
  let first ← start
  advance
  if (← start) != (← previous).hi then failAt .spaceAfterHash first
  let (text, _) ← anyWord
  (Form.privateName text).startingAt first []

/-- What stands behind the point of a property access. -/
def memberName : Parser Tree := do
  if ← seesSign "#" then privateName else plainName

/-- A literal that is one token. -/
def literalForm? : Token → Option Form
  | .string value raw => some (.stringLiteral value (some raw))
  | .number raw => some (.numberLiteral raw)
  | .bigint raw => some (.bigintLiteral raw)
  | .literalWord "null" => some .nullLiteral
  | .literalWord text => some (.boolLiteral (text == "true"))
  | _ => none

def quotation? : Parser (Option Quotation) := do
  let first ← start
  match ← token with
  | .string value raw =>
    advance
    return some ⟨value, some raw, ← spanFrom first⟩
  | _ => return none

variable (rule : Phrase → Parser Tree)

def propertyName : Parser Tree := do
  let first ← start
  let token ← someToken
  match token.word? with
  | some _ => plainName
  | none =>
    if token.isSign "[" then
      advance
      let key ← allowingIn (rule .assignment)
      expectSign "]"
      Form.computedKey.startingAt first [key]
    else
      match literalForm? token with
      | some form =>
        advance
        form.startingAt first []
      | none => unexpected "identifier, string literal, numeric literal or [ for the computed key"

/-- The name of a property that is written as a word. -/
def wordOf? : Tree → Option String
  | .node (.name text) _ _ => some text
  | _ => none

end Parser
end ScopeHoist
