import ScopeHoist.Proofs.Occurrences

/-!
# Places of identifiers

Where an identifier stands in a tree says whether it declares a name, is assigned to or is read.
A form says by itself what its children are for, and a pattern passes this on to the identifiers
that it binds. Said without roles, so that what the occurrences of a role add up to can be compared
with it.
-/

set_option autoImplicit false

namespace ScopeHoist

/-! ## All identifiers -/

mutual
def Tree.idents : Tree → List Ident
  | .ident id => [id]
  | .node _ _ children => identsOf children

def identsOf : List Tree → List Ident
  | [] => []
  | tree :: rest => tree.idents ++ identsOf rest
end

mutual
theorem Tree.occurrences_idents (tree : Tree) (role : Role) :
    (tree.occurrences role).map Occurrence.ident = tree.idents := by
  match tree with
  | .ident id => rfl
  | .node form span children => exact childOccurrences_idents form 0 role children

theorem childOccurrences_idents (form : Form) (place : Nat) (role : Role) (trees : List Tree) :
    (childOccurrences form place role trees).map Occurrence.ident = identsOf trees := by
  match trees with
  | [] => rfl
  | tree :: rest =>
    rw [childOccurrences, identsOf, List.map_append, tree.occurrences_idents,
      childOccurrences_idents form (place + 1) role rest]
end

def Item.tree? : Item → Option Tree
  | .statement tree | .exportDecl tree _ | .exportDefaultDecl tree _ | .exportDefault tree _ =>
    some tree
  | _ => none

def Program.trees (program : Program) : List Tree := program.items.filterMap Item.tree?

/-! ## Identifiers at places of some kind -/

mutual
/-- The identifiers that stand for a pattern, a name or a declarator: what is done to it is done to
them. -/
def Tree.bound : Tree → List Ident
  | .ident id => [id]
  | .node .arrayPattern _ elements => boundAll elements
  | .node .objectPattern _ properties => boundAll properties
  | .node .rest _ patterns => boundAll patterns
  | .node .property _ (_ :: value :: _) => value.bound
  | .node .shorthandPattern _ (name :: _) => name.bound
  | .node .shorthand _ (name :: _) => name.bound
  | .node .defaulted _ (pattern :: _) => pattern.bound
  | .node .declarator _ (pattern :: _) => pattern.bound
  | _ => []

def boundAll : List Tree → List Ident
  | [] => []
  | tree :: rest => tree.bound ++ boundAll rest
end

mutual
/-- All that the forms in a tree find among their own children. -/
def Tree.gather {α : Type} (find : Form → List Tree → List α) : Tree → List α
  | .ident _ => []
  | .node form _ children => find form children ++ gatherAll find children

def gatherAll {α : Type} (find : Form → List Tree → List α) : List Tree → List α
  | [] => []
  | tree :: rest => tree.gather find ++ gatherAll find rest
end

/-- What a form declares: the variables of its declarators, or its own name. -/
def Form.declares : Form → List Tree → List Ident
  | .variableDecl _, declarators => boundAll declarators
  | .functionDecl _, first :: _ => first.bound
  | .function _, first :: _ => first.bound
  | .classDecl, first :: _ => first.bound
  | .classExpr, first :: _ => first.bound
  | _, _ => []

/-- What a form assigns to: the target of an assignment, the operand of `++` or `--`, or the head of
a loop over values, unless it is a declaration. -/
def Form.assigns : Form → List Tree → List Ident
  | .assign _, target :: _ => target.bound
  | .update _ _, operand :: _ => operand.bound
  | .forIn, head :: _ => head.bound
  | .forOf _, head :: _ => head.bound
  | _, _ => []

def Tree.declared (tree : Tree) : List Ident := tree.gather Form.declares

def Tree.assigned (tree : Tree) : List Ident := tree.gather Form.assigns

/-! ## Places and roles -/

def Role.isDeclaration : Role → Bool
  | .declares _ => true
  | _ => false

def Role.isWrite : Role → Bool
  | .writes => true
  | _ => false

section

variable (hits : Role → Bool)

/-- What stands for the children, from some place on, that a form gives a role of some kind. -/
def boundWhere (form : Form) (role : Role) : Nat → List Tree → List Ident
  | _, [] => []
  | place, tree :: rest =>
    (if hits (childRole form place role) then tree.bound else [])
      ++ boundWhere form role (place + 1) rest

variable {hits}

theorem boundWhere_none (form : Form) (role : Role) (start : Nat) (trees : List Tree)
    (h : ∀ place, start ≤ place → hits (childRole form place role) = false) :
    boundWhere hits form role start trees = [] := by
  induction trees generalizing start with
  | nil => rfl
  | cons tree rest ih =>
    rw [boundWhere, h start (Nat.le_refl _),
      ih (start + 1) fun place hplace => h place (Nat.le_of_succ_le hplace)]
    rfl

theorem boundWhere_all (form : Form) (role : Role) (start : Nat) (trees : List Tree)
    (h : ∀ place, start ≤ place → hits (childRole form place role) = true) :
    boundWhere hits form role start trees = boundAll trees := by
  induction trees generalizing start with
  | nil => rfl
  | cons tree rest ih =>
    rw [boundWhere, h start (Nat.le_refl _),
      ih (start + 1) fun place hplace => h place (Nat.le_of_succ_le hplace)]
    rfl

theorem boundWhere_first (form : Form) (role : Role) (first : Tree) (rest : List Tree)
    (h : ∀ place, 1 ≤ place → hits (childRole form place role) = false) :
    boundWhere hits form role 0 (first :: rest) =
      if hits (childRole form 0 role) then first.bound else [] := by
  rw [boundWhere, boundWhere_none form role 1 rest h, List.append_nil]

theorem boundWhere_congr (form : Form) (role role' : Role) (start : Nat) (trees : List Tree)
    (h : ∀ place, childRole form place role = childRole form place role') :
    boundWhere hits form role start trees = boundWhere hits form role' start trees := by
  induction trees generalizing start with
  | nil => rfl
  | cons tree rest ih => rw [boundWhere, boundWhere, h, ih]

theorem boundWhere_eq (hreads : hits .reads = false) (form : Form) (span : Span) (role : Role)
    (children : List Tree) :
    boundWhere hits form role 0 children =
      (if hits role then (Tree.node form span children).bound else [])
        ++ boundWhere hits form .reads 0 children := by
  have hpasses : (∀ place, childRole form place .reads = .reads) →
      boundWhere hits form .reads 0 children = [] := fun hsame =>
    boundWhere_none form .reads 0 children fun place _ => by rw [hsame, hreads]
  cases form
  case arrayPattern | objectPattern | rest =>
    rw [hpasses fun _ => rfl, List.append_nil]
    cases hrole : hits role with
    | true => exact boundWhere_all _ role 0 children fun _ _ => hrole
    | false => exact boundWhere_none _ role 0 children fun _ _ => hrole
  case property =>
    rw [hpasses fun place => by cases place with | zero => rfl | succ n => cases n <;> rfl,
      List.append_nil]
    match children with
    | [] | [_] => simp [boundWhere, childRole, hreads, Tree.bound]
    | key :: value :: others =>
      have hrest : boundWhere hits .property role 2 others = [] :=
        boundWhere_none _ role 2 others fun place hplace => by
          obtain ⟨n, rfl⟩ := Nat.exists_eq_add_of_le' hplace
          exact hreads
      simp [boundWhere, childRole, hreads, hrest, Tree.bound]
  case shorthandPattern | shorthand | defaulted | declarator =>
    rw [hpasses fun place => by cases place <;> rfl, List.append_nil]
    cases children with
    | nil => simp [boundWhere, Tree.bound]
    | cons first others =>
      refine (boundWhere_first _ role first others fun place hplace => ?_).trans rfl
      obtain ⟨n, rfl⟩ := Nat.exists_eq_add_of_le' hplace
      exact hreads
  all_goals
    rw [boundWhere_congr _ role .reads 0 children fun _ => rfl]
    simp [Tree.bound]

/-- What forms find are the places to which they give roles of some kind by themselves. -/
structure Finds (hits : Role → Bool) (find : Form → List Tree → List Ident) : Prop where
  reads : hits .reads = false
  places : ∀ form children, boundWhere hits form .reads 0 children = find form children

variable {find : Form → List Tree → List Ident} (test : Ident → Bool)

mutual
/-- The occurrences whose roles are of some kind are what forms find, and what the tree itself
stands for if its own role is of that kind. -/
theorem Tree.countP_occurrences (h : Finds hits find) (tree : Tree) (role : Role) :
    (tree.occurrences role).countP (fun occurrence =>
        hits occurrence.role && test occurrence.ident) =
      (if hits role then tree.bound else []).countP test + (tree.gather find).countP test := by
  match tree with
  | .ident id => cases hrole : hits role <;> simp [Tree.occurrences, Tree.bound, Tree.gather, hrole]
  | .node form span children =>
    rw [Tree.occurrences, countP_childOccurrences h children form role 0,
      boundWhere_eq h.reads form span role children, h.places, Tree.gather, List.countP_append,
      List.countP_append, Nat.add_assoc]

theorem countP_childOccurrences (h : Finds hits find) (trees : List Tree) (form : Form)
    (role : Role) (place : Nat) :
    (childOccurrences form place role trees).countP (fun occurrence =>
        hits occurrence.role && test occurrence.ident) =
      (boundWhere hits form role place trees).countP test
        + (gatherAll find trees).countP test := by
  match trees with
  | [] => rfl
  | tree :: rest =>
    rw [childOccurrences, boundWhere, gatherAll, List.countP_append, List.countP_append,
      List.countP_append, tree.countP_occurrences h, countP_childOccurrences h rest]
    omega
end

end

theorem finds_declares : Finds Role.isDeclaration Form.declares := by
  refine ⟨rfl, fun form children => ?_⟩
  cases form
  case variableDecl => exact boundWhere_all _ _ 0 children fun _ _ => rfl
  case functionDecl | function | classDecl | classExpr =>
    cases children with
    | nil => rfl
    | cons first others =>
      refine boundWhere_first _ _ first others fun place hplace => ?_
      obtain ⟨n, rfl⟩ := Nat.exists_eq_add_of_le' hplace
      rfl
  all_goals
    refine boundWhere_none _ _ 0 children fun place _ => ?_
    match place with
    | 0 | 1 | _ + 2 => rfl

theorem finds_assigns : Finds Role.isWrite Form.assigns := by
  refine ⟨rfl, fun form children => ?_⟩
  cases form
  case assign | update | forIn | forOf =>
    cases children with
    | nil => rfl
    | cons first others =>
      refine boundWhere_first _ _ first others fun place hplace => ?_
      obtain ⟨n, rfl⟩ := Nat.exists_eq_add_of_le' hplace
      rfl
  all_goals
    refine boundWhere_none _ _ 0 children fun place _ => ?_
    match place with
    | 0 | 1 | _ + 2 => rfl

end ScopeHoist
