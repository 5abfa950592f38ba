import ScopeHoist.Print.Tree

/-!
# Printing programs

Items, import and export clauses, and the text of a whole program.
-/

set_option autoImplicit false

namespace ScopeHoist

namespace Printing

def putQuotation (quotation : Quotation) : Printing Unit := do
  leading quotation.span.lo
  putString quotation.value quotation.raw

def putOuterName : OuterName → Printing Unit
  | .ident id => printIdent id .bare
  | .text quotation => putQuotation quotation

def putAs : Printing Unit := put " as "

def putNamedImport (target : Ident) (imported : Option OuterName) (span : Span) :
    Printing Unit := do
  leading span.lo
  match imported with
  | some name =>
    putOuterName name
    putAs
  | none => skip
  printIdent target .bare

/-- Specifiers between braces, on one line. -/
def inBraces (parentEnd : Nat) (specifiers : List (Span × Printing Unit)) : Printing Unit := do
  put "\x7b"
  optionalSpace
  commaList parentEnd specifiers skip
  if !specifiers.isEmpty then optionalSpace
  put "\x7d"

def namedImports (specifiers : List ImportSpecifier) : List (Span × Printing Unit) :=
  specifiers.filterMap fun specifier =>
    match specifier with
    | .named target imported span => some (span, putNamedImport target imported span)
    | _ => none

/-- The default and the namespace of an import; the answer says whether there was one. -/
def putWholeImports (begun : Bool) : List ImportSpecifier → Printing Bool
  | [] => return begun
  | .default target _ :: rest => do
    printIdent target .bare
    putWholeImports true rest
  | .aggregate target _ :: rest => do
    if begun then comma
    put "*"
    optionalSpace
    put "as "
    printIdent target .bare
    putWholeImports true rest
  | .named _ _ _ :: rest => putWholeImports begun rest

def startsWithDefault : List ImportSpecifier → Bool
  | .default _ _ :: _ => true
  | _ => false

def putImport (specifiers : List ImportSpecifier) (source : Quotation) (span : Span) :
    Printing Unit := do
  put "import"
  spaceIf (startsWithDefault specifiers)
  let begun ← putWholeImports false specifiers
  let named := namedImports specifiers
  if named.isEmpty then
    if begun then
      put " from"
      optionalSpace
  else
    if begun then comma
    inBraces span.hi named
    optionalSpace
    put "from"
    optionalSpace
  putQuotation source
  put ";"

def putNamedExport (origin : OuterName) (exported : Option OuterName) (span : Span) :
    Printing Unit := do
  leading span.lo
  putOuterName origin
  match exported with
  | some name =>
    putAs
    putOuterName name
  | none => skip

def namedExports (specifiers : List ExportSpecifier) : List (Span × Printing Unit) :=
  specifiers.filterMap fun specifier =>
    match specifier with
    | .named origin exported span => some (span, putNamedExport origin exported span)
    | .aggregate _ _ => none

/-- The namespace exports of a clause; the answer says whether there was one. -/
def putAggregateExports (begun : Bool) : List ExportSpecifier → Printing Bool
  | [] => return begun
  | .aggregate exported span :: rest => do
    leading span.lo
    put "*"
    optionalSpace
    put "as "
    putOuterName exported
    putAggregateExports true rest
  | .named _ _ _ :: rest => putAggregateExports begun rest

def putExportClause (specifiers : List ExportSpecifier) (span : Span) : Printing Bool := do
  put "export"
  optionalSpace
  let begun ← putAggregateExports false specifiers
  let named := namedExports specifiers
  if !named.isEmpty || !begun then
    if begun then comma
    inBraces span.hi named
  return named.isEmpty && begun

def putExportFrom (specifiers : List ExportSpecifier) (source : Quotation) (span : Span) :
    Printing Unit := do
  let endsInName ← putExportClause specifiers span
  spaceIf endsInName
  put "from"
  optionalSpace
  putQuotation source
  put ";"

/-- The text of an item that is no statement. -/
def putDeclaration : Item → Printing Unit
  | .statement _ => skip
  | .importFrom specifiers source span => putImport specifiers source span
  | .exportDecl decl _ => do
    put "export "
    printTree decl .full
  | .exportList specifiers span => do
    let _ ← putExportClause specifiers span
    put ";"
  | .exportFrom specifiers source span => putExportFrom specifiers source span
  | .exportStar source _ => do
    put "export"
    optionalSpace
    put "*"
    optionalSpace
    put "from"
    optionalSpace
    putQuotation source
    put ";"
  | .exportDefaultDecl decl _ => do
    put "export default "
    printTree decl .full
  | .exportDefault value _ => do
    put "export default"
    spaceIf (beginsWithWord value)
    printTree value .full
    put ";"

end Printing

open Printing

def printItem : Item → Printing Unit
  | .statement tree => do
    leading tree.span.lo
    printTree tree .full
    trailing tree.span.hi
  | item => do
    leading item.span.lo
    putDeclaration item
    trailing item.span.hi
    optionalBreak

def printProgram (program : Program) : Printing Unit := do
  leading program.span.lo
  match program.shebang with
  | some text =>
    put ("#!" ++ text)
    breakLine
  | none => skip
  program.items.forM printItem
  trailing program.span.hi

/-- The text of a program. -/
def Program.text (program : Program) (comments : Comments) (compact : Bool) : String :=
  ((printProgram program).run (.blank compact comments)).2.text

end ScopeHoist
