import ScopeHoist.Tree.Basic

/-!
# Occurrences

Where identifiers stand in a program, from left to right, and what each does there. A form decides
what its children do: patterns hand on what they do themselves, all else reads.
-/

set_option autoImplicit false

namespace ScopeHoist

inductive Role where
  /-- Reads the value; parameters count as this too. -/
  | reads
  /-- Is assigned to, which counts as a use as well. -/
  | writes
  | declares (kind : BindingKind)
  deriving DecidableEq, Repr

structure Occurrence where
  ident : Ident
  role : Role
  deriving DecidableEq, Repr

/-- What the child of a form at some place does, if the form itself does what is given. -/
def childRole (form : Form) (place : Nat) (role : Role) : Role :=
  match form with
  | .arrayPattern | .objectPattern | .rest => role
  | .defaulted | .shorthandPattern | .shorthand | .declarator =>
    if place == 0 then role else .reads
  | .property => if place == 1 then role else .reads
  | .assign _ | .update _ _ | .forIn | .forOf _ => if place == 0 then .writes else .reads
  | .variableDecl kind => .declares (.variable kind)
  | .functionDecl _ | .function _ => if place == 0 then .declares .functionDecl else .reads
  | .classDecl | .classExpr => if place == 0 then .declares .classDecl else .reads
  | _ => .reads

mutual
def Tree.occurrences (role : Role) : Tree → List Occurrence
  | .ident id => [⟨id, role⟩]
  | .node form _ children => childOccurrences form 0 role children

def childOccurrences (form : Form) (place : Nat) (role : Role) : List Tree → List Occurrence
  | [] => []
  | tree :: rest =>
    tree.occurrences (childRole form place role) ++ childOccurrences form (place + 1) role rest
end

/-- The identifiers of an item that the item does not export by name. -/
def Item.occurrences : Item → List Occurrence
  | .statement tree => tree.occurrences .reads
  | .exportDecl decl _ => decl.occurrences .reads
  | .exportDefaultDecl decl _ => decl.occurrences .reads
  | .exportDefault (.ident _) _ => []
  | .exportDefault value _ => value.occurrences .reads
  | _ => []

def Program.occurrences (program : Program) : List Occurrence :=
  program.items.flatMap Item.occurrences

end ScopeHoist
