import ScopeHoist.Parse.Statement

/-!
# Items

Imports and exports, which stand at the top of a module only.
-/

set_option autoImplicit false

namespace ScopeHoist
namespace Parser

variable (rule : Phrase → Parser Tree)

/-! ## Names and sources -/

/-- The name of an import or an export: any word, or a string. -/
def outerName : Parser OuterName := do
  match ← quotation? with
  | some quotation => return .text quotation
  | none =>
    if (← get).token.word?.isSome then
      let (text, span) ← anyWord
      return .ident ⟨text, .unscoped, span⟩
    else unexpected "identifier or string"

def sourceName : Parser Quotation := do
  expectWord "from"
  let _ ← someToken
  match ← quotation? with
  | some quotation => return quotation
  | none => unexpected "a string literal"

/-- A list between braces, each item but the last with a comma behind it. -/
def braced {α : Type} (item : Parser α) : Parser (List α) := do
  let found ← gather (moreBefore "\x7d") do
    let value ← item
    if !(← seesSign "\x7d") then expectSign ","
    return value
  expectSign "\x7d"
  return found

/-! ## Imports -/

def importSpecifier : Parser ImportSpecifier := do
  let first ← start
  let imported ← outerName
  if ← eatsWord "as" then
    let target ← bindingIdentifier false
    return .named target (some imported) ⟨first, target.span.hi⟩
  else
    match imported with
    | .ident id =>
      if isReservedInModule id.name then failAt .reservedImport id.span.lo
      return .named id none (← spanFrom first)
    | .text quotation => failAt (.importedString quotation.value) quotation.span.lo

def defaultImport : Parser (List ImportSpecifier) := do
  if ← seesBindingIdentifier then
    let target ← bindingIdentifier false
    if !(← seesWord "from") then expectSign ","
    return [.default target target.span]
  else return []

def otherImports : Parser (List ImportSpecifier) := do
  let first ← start
  if ← eatsStar then
    expectWord "as"
    let target ← bindingIdentifier false
    return [.aggregate target (← spanFrom first)]
  else if ← eatsSign "\x7b" then braced importSpecifier
  else return []

def importDeclaration : Parser Item := do
  let first ← start
  advance
  match ← quotation? with
  | some source =>
    expectStatementEnd
    return .importFrom [] source (← spanFrom first)
  | none =>
    let main ← defaultImport
    let others ← otherImports
    let source ← sourceName
    expectStatementEnd
    return .importFrom (main ++ others) source (← spanFrom first)

/-! ## Exports -/

/-- Words that no variable can have, so that they can be exported only from another module. -/
def unexportable : List String :=
  ["break", "case", "catch", "class", "const", "continue", "debugger", "default", "delete", "do",
   "else", "enum", "export", "extends", "false", "finally", "for", "function", "if", "import",
   "in", "instanceof", "new", "null", "package", "return", "super", "switch", "this", "throw",
   "true", "try", "typeof", "var", "void", "while", "with"]

def exportSpecifier : Parser ExportSpecifier := do
  let first ← start
  let origin ← outerName
  let exported ← if ← eatsWord "as" then some <$> outerName else pure none
  return .named origin exported (← spanFrom first)

def checkExported (specifiers : List ExportSpecifier) : Parser Unit :=
  specifiers.forM fun specifier =>
    match specifier with
    | .named (.text quotation) _ _ => reportAt .exportedString quotation.span.lo
    | .named (.ident id) _ _ => do
      if unexportable.contains id.name then reportAt (.exportWithoutSource id.name) id.span.lo
    | .aggregate _ _ => return

def exportFrom (first : Nat) (specifiers : List ExportSpecifier) : Parser Item := do
  let source ← sourceName
  expectStatementEnd
  return .exportFrom specifiers source (← spanFrom first)

def exportStar (first : Nat) : Parser Item := do
  let starOffset ← start
  let (next, _) ← peek
  advance
  if next.isWord "as" then
    advance
    let name ← outerName
    exportFrom first [.aggregate name (← spanFrom starOffset)]
  else
    let source ← sourceName
    expectStatementEnd
    return .exportStar source (← spanFrom first)

def exportClause (first : Nat) : Parser Item := do
  expectSign "\x7b"
  let specifiers ← braced exportSpecifier
  if ← seesWord "from" then exportFrom first specifiers
  else
    checkExported specifiers
    let _ ← eatsStatementEnd
    return .exportList specifiers (← spanFrom first)

def exportDefault (first : Nat) : Parser Item := do
  let offset ← start
  if ← seesWord "class" then
    return .exportDefaultDecl (← classOf rule false false) (← spanFrom first)
  else if ← seesAsyncFunction then
    advance
    return .exportDefaultDecl (← function rule offset true true false) (← spanFrom first)
  else if ← seesWord "function" then
    return .exportDefaultDecl (← function rule offset false true false) (← spanFrom first)
  else
    let value ← allowingIn (rule .assignment)
    expectStatementEnd
    return .exportDefault value (← spanFrom first)

def exportedDeclaration : Parser (Option Tree) := do
  let offset ← start
  if ← seesWord "class" then return some (← classOf rule true true)
  else if ← seesAsyncFunction then
    advance
    return some (← function rule offset true true true)
  else if ← seesWord "function" then return some (← function rule offset false true true)
  else if (← seesWord "var") || (← seesWord "const") || (← seesLetDeclaration) then
    return some (← variableDeclaration rule false)
  else return none

def exportDeclaration : Parser Item := do
  let first ← start
  advance
  let _ ← someToken
  if ← eatsWord "default" then exportDefault rule first
  else
    match ← exportedDeclaration rule with
    | some declaration => return .exportDecl declaration (← spanFrom first)
    | none => if ← seesStar then exportStar first else exportClause first

/-! ## Items -/

def item : Parser Item := do
  if (← seesWord "import") && !(← seesImportExpression) then importDeclaration
  else if ← seesWord "export" then exportDeclaration rule
  else return .statement (← rule (.statement true))

end Parser
end ScopeHoist
