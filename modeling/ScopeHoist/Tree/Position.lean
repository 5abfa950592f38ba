import ScopeHoist.Tree.Basic

/-!
# Positions

A source is read as if it were the only one, and what was read is moved behind the sources that came
before it. Nothing but spans changes, and generated code stays without a place.
-/

set_option autoImplicit false

namespace ScopeHoist

def Span.moved (distance : Nat) (span : Span) : Span :=
  if span.isGenerated then span else ⟨span.lo + distance, span.hi + distance⟩

def Ident.moved (distance : Nat) (id : Ident) : Ident :=
  { id with span := id.span.moved distance }

mutual
def Tree.moved (distance : Nat) : Tree → Tree
  | .ident id => .ident (id.moved distance)
  | .node form span children =>
    .node form (span.moved distance) (movedList distance children)

def movedList (distance : Nat) : List Tree → List Tree
  | [] => []
  | tree :: rest => tree.moved distance :: movedList distance rest
end

def Quotation.moved (distance : Nat) (quotation : Quotation) : Quotation :=
  { quotation with span := quotation.span.moved distance }

def OuterName.moved (distance : Nat) : OuterName → OuterName
  | .ident id => .ident (id.moved distance)
  | .text quotation => .text (quotation.moved distance)

def ImportSpecifier.moved (distance : Nat) : ImportSpecifier → ImportSpecifier
  | .default target span => .default (target.moved distance) (span.moved distance)
  | .aggregate target span => .aggregate (target.moved distance) (span.moved distance)
  | .named target imported span =>
    .named (target.moved distance) (imported.map (OuterName.moved distance)) (span.moved distance)

def ExportSpecifier.moved (distance : Nat) : ExportSpecifier → ExportSpecifier
  | .aggregate exported span => .aggregate (exported.moved distance) (span.moved distance)
  | .named origin exported span =>
    .named (origin.moved distance) (exported.map (OuterName.moved distance)) (span.moved distance)

def Item.moved (distance : Nat) : Item → Item
  | .statement tree => .statement (tree.moved distance)
  | .importFrom specifiers source span =>
    .importFrom (specifiers.map (ImportSpecifier.moved distance)) (source.moved distance)
      (span.moved distance)
  | .exportDecl decl span => .exportDecl (decl.moved distance) (span.moved distance)
  | .exportList specifiers span =>
    .exportList (specifiers.map (ExportSpecifier.moved distance)) (span.moved distance)
  | .exportFrom specifiers source span =>
    .exportFrom (specifiers.map (ExportSpecifier.moved distance)) (source.moved distance)
      (span.moved distance)
  | .exportStar source span => .exportStar (source.moved distance) (span.moved distance)
  | .exportDefaultDecl decl span => .exportDefaultDecl (decl.moved distance) (span.moved distance)
  | .exportDefault value span => .exportDefault (value.moved distance) (span.moved distance)

def Program.moved (distance : Nat) (program : Program) : Program :=
  { program with
    span := program.span.moved distance
    items := program.items.map (Item.moved distance) }

end ScopeHoist
