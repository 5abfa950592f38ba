import ScopeHoist.Scope.Occurrence
import ScopeHoist.Tree.Pattern

/-!
# Usage

What a module declares at its top level, how often each of these names is used, exported and
assigned to, and which names it leaves free or declares further in.
-/

set_option autoImplicit false

namespace ScopeHoist

/-- How often an identifier is used; writes and exports count among the references. -/
structure Usage where
  references : Nat
  exportReferences : Nat
  reassignments : Nat
  deriving DecidableEq, Repr

def Usage.none : Usage := ⟨0, 0, 0⟩

def Usage.add (first second : Usage) : Usage :=
  ⟨first.references + second.references, first.exportReferences + second.exportReferences,
    first.reassignments + second.reassignments⟩

/-- What one occurrence counts for. -/
def Role.usage : Role → Usage
  | .reads => ⟨1, 0, 0⟩
  | .writes => ⟨1, 0, 1⟩
  | .declares _ => .none

def Usage.ofExport : Usage := ⟨1, 1, 0⟩

/-- The names that a declaration declares. -/
def declaredIdents : Tree → List Ident
  | .node (.variableDecl _) _ declarators =>
    declarators.flatMap fun declarator =>
      match declarator with
      | .node .declarator _ (pattern :: _) => patternIdents pattern
      | _ => []
  | .node _ _ (.ident id :: _) => [id]
  | _ => []

def OuterName.idents : OuterName → List Ident
  | .ident id => [id]
  | .text _ => []

def ExportSpecifier.originIdents : ExportSpecifier → List Ident
  | .named origin _ _ => origin.idents
  | .aggregate _ _ => []

def ExportSpecifier.exportedIdents : ExportSpecifier → List Ident
  | .named _ exported _ => (exported.map OuterName.idents).getD []
  | .aggregate exported _ => exported.idents

/-- The identifiers of the module that an item exports. -/
def Item.exportedIdents : Item → List Ident
  | .exportDecl decl _ => declaredIdents decl
  | .exportDefaultDecl decl _ => declaredIdents decl
  | .exportList specifiers _ => specifiers.flatMap ExportSpecifier.originIdents
  | .exportDefault (.ident id) _ => [id]
  | _ => []

/-- Each use of a top-level name of an item, and what it counts for. -/
def Item.uses (item : Item) : List (String × Usage) :=
  let exported := item.exportedIdents.map fun id => (id, Usage.ofExport)
  let used := item.occurrences.map fun occurrence => (occurrence.ident, occurrence.role.usage)
  ((exported ++ used).filter fun use => use.1.scope == .module && use.2 != .none).map
    fun use => (use.1.name, use.2)

def Program.uses (program : Program) : List (String × Usage) := program.items.flatMap Item.uses

/-- How often a top-level name is used. -/
def usageOf (uses : List (String × Usage)) (name : String) : Usage :=
  (uses.filter fun use => use.1 == name).foldl (fun total use => total.add use.2) .none

/-- The names that are used, each once, in the order of their first uses. -/
def usedNames (uses : List (String × Usage)) : List String := (uses.map Prod.fst).eraseDups

/-- A name declared at the top level of a module. -/
structure Declaration where
  name : String
  kind : BindingKind
  deriving DecidableEq, Repr

/-- The declaration that an occurrence is, if it is one at the top level. -/
def Occurrence.declaration? (occurrence : Occurrence) : Option Declaration :=
  match occurrence.role with
  | .declares kind =>
    if occurrence.ident.scope == .module then some ⟨occurrence.ident.name, kind⟩ else none
  | _ => none

/-- Keeps the first declaration of each name. -/
def firstDeclarations : List Declaration → List Declaration
  | [] => []
  | declaration :: rest =>
    declaration :: (firstDeclarations rest).filter fun other => other.name != declaration.name

/-- What a module declares at its top level, imports aside, in the order of the source. -/
def Program.declarations (program : Program) : List Declaration :=
  firstDeclarations (program.occurrences.filterMap Occurrence.declaration?)

/-- All identifiers of an item that a scope gives a meaning to. -/
def Item.idents (item : Item) : List Ident :=
  match item with
  | .exportList specifiers _ =>
    specifiers.flatMap fun specifier => specifier.originIdents ++ specifier.exportedIdents
  | .exportDefault (.ident id) _ => [id]
  | item => item.occurrences.map Occurrence.ident

def Program.idents (program : Program) : List Ident := program.items.flatMap Item.idents

/-- The names that are declared nowhere in the module. -/
def Program.freeNames (program : Program) : List String :=
  ((program.idents.filter fun id => id.scope == .free).map Ident.name).eraseDups

theorem Program.mem_freeNames {program : Program} {name : String} :
    name ∈ program.freeNames ↔ ∃ id ∈ program.idents, id.scope = .free ∧ id.name = name := by
  simp [Program.freeNames, List.mem_eraseDups, and_assoc]

def Scope.isNested : Scope → Bool
  | .nested _ => true
  | _ => false

/-- What functions, blocks and classes in the module declare. -/
def Program.nestedIdentities (program : Program) : List Identity :=
  ((program.idents.filter fun id => id.scope.isNested).map Ident.identity).eraseDups

end ScopeHoist
