import ScopeHoist.Proofs.Interruption
import ScopeHoist.Proofs.Namespaces
import ScopeHoist.Proofs.Sequence
import ScopeHoist.Proofs.Tally

/-!
# Snapshots of defaults

A name that is exported as the default shares its record with a variable as long as nothing assigns
to it. Otherwise the default has a record of its own, and the value that the variable has when the
statement runs is kept in a constant. Assignments in parentheses, and further declarations that give
the variable a value, are not seen.
-/

set_option autoImplicit false

namespace ScopeHoist

/-! ## Writes -/

def unwrappedNode : Form → Span → List Tree → Tree
  | .paren, _, [inner] => inner
  | form, span, children => .node form span children

mutual
def Tree.unwrapped : Tree → Tree
  | .ident id => .ident id
  | .node form span children => unwrappedNode form span (unwrappedAll children)

def unwrappedAll : List Tree → List Tree
  | [] => []
  | tree :: rest => tree.unwrapped :: unwrappedAll rest
end

/-- The names that a declarator with a value declares, as one declaration. -/
def Tree.valued : Tree → List (List Ident)
  | .node .declarator _ [pattern, value] => if value.isAbsent then [] else [pattern.bound]
  | _ => []

/-- The variables that a form declares and gives values, by declaration: those of declarators with a
value, and of declarations in the head of a loop over values. -/
def Form.valued (counts : VarKind → Bool) : Form → List Tree → List (List Ident)
  | .variableDecl kind, declarators => if counts kind then declarators.flatMap Tree.valued else []
  | .forIn, .node (.variableDecl kind) _ declarators :: _ =>
    if counts kind then [boundAll declarators] else []
  | .forOf _, .node (.variableDecl kind) _ declarators :: _ =>
    if counts kind then [boundAll declarators] else []
  | _, _ => []

/-- All that a form declares and gives a value, functions and classes included. -/
def Form.initializes : Form → List Tree → List (List Ident)
  | .functionDecl _, first :: _ => [first.bound]
  | .function _, first :: _ => [first.bound]
  | .classDecl, first :: _ => [first.bound]
  | .classExpr, first :: _ => [first.bound]
  | form, children => form.valued (fun _ => true) children

def isAmong (identity : Identity) (names : List Ident) : Bool := names.any (Ident.carries identity)

namespace Program

variable (program : Program)

def assigned : List Ident := program.trees.flatMap Tree.assigned

/-- The declarations that give a value to what they declare. -/
def initializations : List (List Ident) := program.trees.flatMap (Tree.gather Form.initializes)

def hoistedValues : List (List Ident) :=
  program.trees.flatMap (Tree.gather (Form.valued fun kind => kind == .hoisted))

/-- Whether a program assigns to a variable, not counting parentheses around it. -/
def Reassigns (identity : Identity) : Prop := ∃ id ∈ program.assigned, id.identity = identity

/-- Whether a program assigns to a variable, in parentheses or not. -/
def AssignsTo (identity : Identity) : Prop :=
  ∃ tree ∈ program.trees, ∃ id ∈ tree.unwrapped.assigned, id.identity = identity

/-- Whether a variable has a value from one more declaration with `var`. -/
def Redeclares (identity : Identity) : Prop :=
  1 < program.initializations.countP (isAmong identity) ∧
    ∃ names ∈ program.hoistedValues, isAmong identity names = true

/-- Whether a program writes to a variable besides the one declaration that gives it a value. -/
def Writes (identity : Identity) : Prop :=
  program.AssignsTo identity ∨ program.Redeclares identity

instance (identity : Identity) : Decidable (program.Reassigns identity) :=
  inferInstanceAs (Decidable (∃ id ∈ program.assigned, id.identity = identity))

instance (identity : Identity) : Decidable (program.AssignsTo identity) :=
  inferInstanceAs (Decidable (∃ tree ∈ program.trees, ∃ id ∈ tree.unwrapped.assigned,
    id.identity = identity))

instance (identity : Identity) : Decidable (program.Redeclares identity) :=
  inferInstanceAs (Decidable (1 < program.initializations.countP (isAmong identity) ∧
    ∃ names ∈ program.hoistedValues, isAmong identity names = true))

instance (identity : Identity) : Decidable (program.Writes identity) :=
  inferInstanceAs (Decidable (program.AssignsTo identity ∨ program.Redeclares identity))

end Program

/-! ## What is assigned to -/

mutual
theorem Tree.bound_sublist (tree : Tree) : tree.bound.Sublist tree.unwrapped.bound := by
  match tree with
  | .ident id => exact .refl _
  | .node form span children =>
    cases form
    case arrayPattern | objectPattern | rest => exact boundAll_sublist children
    case property =>
      match children with
      | [] | [_] => exact List.nil_sublist _
      | _ :: value :: _ => exact value.bound_sublist
    case shorthandPattern | shorthand | defaulted | declarator =>
      match children with
      | [] => exact List.nil_sublist _
      | first :: _ => exact first.bound_sublist
    all_goals simp [Tree.bound]

theorem boundAll_sublist (trees : List Tree) :
    (boundAll trees).Sublist (boundAll (unwrappedAll trees)) := by
  match trees with
  | [] => exact .refl _
  | tree :: rest => exact tree.bound_sublist.append (boundAll_sublist rest)
end

theorem Form.assigns_sublist (form : Form) (children : List Tree) :
    (form.assigns children).Sublist (form.assigns (unwrappedAll children)) := by
  cases form
  case assign | update | forIn | forOf =>
    match children with
    | [] => exact List.nil_sublist _
    | first :: _ => exact first.bound_sublist
  all_goals simp [Form.assigns]

theorem unwrappedNode_assigned (form : Form) (span : Span) (children : List Tree) :
    (unwrappedNode form span children).assigned =
      form.assigns children ++ gatherAll Form.assigns children := by
  unfold unwrappedNode
  split
  · rw [gatherAll, gatherAll, List.append_nil]
    rfl
  · rfl

mutual
theorem Tree.assigned_sublist (tree : Tree) : tree.assigned.Sublist tree.unwrapped.assigned := by
  match tree with
  | .ident id => exact .refl _
  | .node form span children =>
    rw [Tree.unwrapped, unwrappedNode_assigned]
    exact (form.assigns_sublist children).append (gatherAll_assigns_sublist children)

theorem gatherAll_assigns_sublist (trees : List Tree) :
    (gatherAll Form.assigns trees).Sublist (gatherAll Form.assigns (unwrappedAll trees)) := by
  match trees with
  | [] => exact .refl _
  | tree :: rest => exact tree.assigned_sublist.append (gatherAll_assigns_sublist rest)
end

theorem Item.countP_assigned (test : Ident → Bool) (item : Item) :
    (item.occurrences.countP fun occurrence =>
        occurrence.role.isWrite && test occurrence.ident) =
      (item.tree?.toList.flatMap Tree.assigned).countP test := by
  have htree : ∀ tree : Tree, ((tree.occurrences .reads).countP fun occurrence =>
      occurrence.role.isWrite && test occurrence.ident) =
        ([tree].flatMap Tree.assigned).countP test := by
    intro tree
    rw [tree.countP_occurrences test finds_assigns .reads, if_neg (by exact Bool.false_ne_true),
      List.countP_nil, Nat.zero_add, List.flatMap_singleton, Tree.assigned]
  cases item with
  | statement tree => exact htree tree
  | exportDecl decl span => exact htree decl
  | exportDefaultDecl decl span => exact htree decl
  | exportDefault value span =>
    cases value with
    | ident id => rfl
    | node form span' children => exact htree (.node form span' children)
  | _ => rfl

namespace Program

variable (program : Program)

theorem countP_assigned (test : Ident → Bool) :
    (program.occurrences.countP fun occurrence =>
        occurrence.role.isWrite && test occurrence.ident) = program.assigned.countP test := by
  rw [occurrences, assigned, trees]
  induction program.items with
  | nil => rfl
  | cons first rest ih =>
    rw [List.flatMap_cons, List.countP_append, first.countP_assigned, ih, List.filterMap_cons]
    cases first.tree? with
    | none => exact Nat.zero_add _
    | some tree => simp only [Option.toList_some, List.flatMap_cons, List.countP_append,
        List.flatMap_nil, List.append_nil]

theorem identity_of_declares (x : Ident) (h : program.declares x = true) :
    x.identity = ⟨x.name, .module⟩ := by
  obtain ⟨declaration, -, hsame⟩ := List.any_eq_true.mp h
  have hscope : Scope.module = x.scope := congrArg Identity.scope (beq_iff_eq.mp hsame)
  rw [Ident.identity, hscope]

theorem reassignments_eq_zero (x : Ident) (h : program.declares x = true) :
    (usageOf program.uses x.name).reassignments = 0 ↔ ¬ program.Reassigns x.identity := by
  rw [reassignments_eq, program.countP_assigned, List.countP_eq_zero,
    program.identity_of_declares x h]
  simp only [Reassigns, Ident.carries, beq_iff_eq, not_exists, not_and]

theorem Reassigns.writes {program : Program} {identity : Identity}
    (h : program.Reassigns identity) : program.Writes identity := by
  obtain ⟨id, hid, heq⟩ := h
  obtain ⟨tree, htree, hmem⟩ := List.mem_flatMap.mp hid
  exact .inl ⟨tree, htree, id, tree.assigned_sublist.subset hmem, heq⟩

end Program

/-! ## The record of the default -/

def Item.defaultIdent? : Item → Option Ident
  | .exportDefault (.ident id) _ => some id
  | _ => none

theorem Item.eq_of_defaultIdent? {item : Item} {x : Ident} (h : item.defaultIdent? = some x) :
    ∃ span, item = .exportDefault (.ident x) span := by
  unfold Item.defaultIdent? at h
  split at h
  · rename_i id span
    obtain rfl := Option.some.inj h
    exact ⟨span, rfl⟩
  · exact absurd h nofun

/-- A module that exports one of its variables as its default, and no other default after that. -/
structure Module.DefaultsTo (module : Module) (x : Ident) : Prop where
  last : ∃ before span after,
    module.program.items = before ++ .exportDefault (.ident x) span :: after ∧
      ∀ later ∈ after.flatMap module.program.clausesOf, later.name ≠ defaultName
  declared : module.program.declares x = true

/-- Whether the item at a place exports a variable as the default, and no later one another
default. -/
def Module.defaultsAt (module : Module) (place : Nat) (x : Ident) : Bool :=
  (module.program.items[place]?).bind Item.defaultIdent? == some x
    && module.program.declares x
    && (module.program.items.drop (place + 1)).all fun item =>
      (module.program.clausesOf item).all fun later => later.name != defaultName

theorem Module.defaultsTo_of_defaultsAt {module : Module} {place : Nat} {x : Ident}
    (h : module.defaultsAt place x = true) : module.DefaultsTo x := by
  simp only [Module.defaultsAt, Bool.and_eq_true, beq_iff_eq, List.all_eq_true, bne_iff_ne] at h
  obtain ⟨⟨hplace, hdeclared⟩, hlast⟩ := h
  obtain ⟨item, hitem, hname⟩ := Option.bind_eq_some_iff.mp hplace
  obtain ⟨span, rfl⟩ := Item.eq_of_defaultIdent? hname
  obtain ⟨hlt, hget⟩ := List.getElem?_eq_some_iff.mp hitem
  refine ⟨⟨module.program.items.take place, span, module.program.items.drop (place + 1), ?_,
    fun later hlater => ?_⟩, hdeclared⟩
  · rw [← hget, List.getElem_cons_drop, List.take_append_drop]
  · obtain ⟨item, hitem, hmem⟩ := List.mem_flatMap.mp hlater
    exact hlast item hitem later hmem

namespace Session

variable {session : Session}

theorem DeclaredAs.not_isUnnamed {module : Module} {identity : Identity} {record : RecordId}
    (h : session.DeclaredAs module identity record) (id : ModuleId) :
    ¬ session.IsUnnamed id record := by
  rintro ⟨unnamed, hunnamed, -, -, hnone⟩
  obtain ⟨found, owner, -, hfound, -, howner, -⟩ := h
  obtain rfl := Option.some.inj (hfound.symm.trans hunnamed)
  exact absurd (howner.symm.trans hnone) nofun

theorem Sound.unnamedDefault_eq (h : session.Sound) (id : ModuleId)
    (hid : id < session.modules.length) (record : RecordId)
    (hentry : (session.module id).exports.get? defaultName = some record)
    (hunnamed : session.IsUnnamed id record) :
    (session.module id).unnamedDefault = some record := by
  obtain ⟨unnamed, hfound, hname, hsource, hnone⟩ := hunnamed
  obtain ⟨found, hfound', hprovides, -⟩ :=
    (h.modules id hid).exports.supplies record (Table.value_mem_of_get? _ _ _ hentry)
  obtain rfl := Option.some.inj (hfound.symm.trans hfound')
  cases hprovides with
  | external external hexternal => exact absurd (hexternal.symm.trans hsource) nofun
  | declared module owner binding hmodule howner => exact absurd (howner.symm.trans hnone) nofun
  | unnamed module hmodule howner hvalid hdefault hkept =>
    obtain rfl := Target.module.inj (hmodule.symm.trans hsource)
    exact hkept
  | aggregate module hmodule howner hvalid haggregate =>
    exact absurd (haggregate.symm.trans hname) InSession.aggregateName_ne_defaultName

/-- A default that is the name of a variable shares the record of the variable unless some
assignment to it counts. -/
theorem Wired.default_of_ident {first : ModuleId → Table RecordId} (hwired : session.Wired first)
    (id : ModuleId) (hid : id < session.modules.length) (x : Ident)
    (hdefault : (session.module id).DefaultsTo x) :
    ∃ record, (session.module id).exports.get? defaultName = some record ∧
      (¬ (session.module id).program.Reassigns x.identity →
        session.DeclaredAs (session.module id) x.identity record) ∧
      ((session.module id).program.Reassigns x.identity →
        session.IsUnnamed (session.module id).id record) := by
  obtain ⟨⟨before, span, after, hitems, hlast⟩, hdeclared⟩ := hdefault
  have hzero := (session.module id).program.reassignments_eq_zero x hdeclared
  obtain ⟨result, hyields, hsome⟩ := hwired.exports_of_clause id hid
    (before.flatMap (session.module id).program.clausesOf)
    (after.flatMap (session.module id).program.clausesOf) _
    (by rw [Program.clauses, hitems, List.flatMap_append, List.flatMap_cons]; rfl) hlast
  -- the clause refers to the declaration or to nothing, and what it yields is the record
  simp only [Program.defaultReferent, hdeclared, if_true, beq_iff_eq, hzero] at hyields
  by_cases hassigned : (session.module id).program.Reassigns x.identity
  · rw [if_neg (not_not_intro hassigned)] at hyields
    cases hyields with
    | unnamed record h =>
      exact ⟨record, hsome record rfl, fun hnot => absurd hassigned hnot, fun _ => h⟩
  · rw [if_pos hassigned] at hyields
    cases hyields with
    | declared identity record h =>
      exact ⟨record, hsome record rfl, fun _ => h, fun hassigned' => absurd hassigned' hassigned⟩

theorem Linked.constant_mem {built linked : Session} {order : List ModuleId}
    (h : built.Linked linked order) (id : ModuleId) (hid : id < built.modules.length)
    (hmem : id ∈ order) (value : Tree) (span : Span)
    (hitem : .exportDefault value span ∈ (built.module id).program.items) (record : RecordId)
    (hdefault : (built.module id).unnamedDefault = some record) :
    .statement (constDeclaration (linked.identifier record)
        (value.rename (linked.renamesOf (linked.module id)))) ∈
      (linked.linkedProgram order).items := by
  obtain ⟨exports, stars, unused, -, hmodule⟩ := h.module_left id hid
  have hkept : .exportDefault value span ∈ (linked.module id).program.items := by
    rw [hmodule]
    exact (Program.relieved_exportDefault unused _ value span).mpr hitem
  have hunnamed : (linked.module id).unnamedDefault = some record := by
    rw [hmodule]
    exact hdefault
  have hhoisted : .statement (constDeclaration (linked.identifier record)
      (value.rename (linked.renamesOf (linked.module id)))) ∈
        linked.hoistedStatements (linked.module id) := by
    refine List.mem_filterMap.mpr ⟨_, List.mem_map_of_mem hkept, ?_⟩
    rw [hunnamed]
    rfl
  exact List.mem_append_right _ (List.mem_flatMap.mpr ⟨id, hmem,
    List.mem_append_left _ (List.mem_append_left _ hhoisted)⟩)

end Session

/-- What builds leave, or a run once its order is settled. -/
def Session.IsBuilt (options : BundleOptions) (session : Session) : Prop :=
  session.FromBuilds options ∨ ∃ tree entry, session = builtSession tree entry options

theorem Session.IsBuilt.sound {options : BundleOptions} {session : Session}
    (h : session.IsBuilt options) : session.Sound := by
  obtain h | ⟨tree, entry, rfl⟩ := h
  · exact h.sound
  · exact sound_builtSession tree entry options

theorem Session.IsBuilt.wired {options : BundleOptions} {session : Session}
    (h : session.IsBuilt options) : ∃ first, session.Wired first := by
  obtain h | ⟨tree, entry, rfl⟩ := h
  · exact h.wired
  · exact wired_builtSession tree entry options

/-- A default that is the name of a variable shares the record of the variable if, and only if, the
module never writes to it besides the one declaration that gives it a value, as long as some
assignment counts if there is any write at all. Otherwise the default has a record of its own, and
every program that is linked from the session keeps the value in a constant. -/
theorem defaults_snapshot (options : BundleOptions) (session : Session)
    (hsession : session.IsBuilt options) (id : ModuleId) (hid : id < session.modules.length)
    (x : Ident) (hx : (session.module id).DefaultsTo x)
    (hcounts : (session.module id).program.Writes x.identity →
      (session.module id).program.Reassigns x.identity) :
    ∃ record, (session.module id).exports.get? defaultName = some record ∧
      (session.DeclaredAs (session.module id) x.identity record ↔
        ¬ (session.module id).program.Writes x.identity) ∧
      ((session.module id).program.Writes x.identity →
        session.IsUnnamed id record ∧ (session.module id).unnamedDefault = some record ∧
          ∀ linked order, session.Linked linked order → id ∈ order →
            .statement (constDeclaration (linked.identifier record)
                (.ident (x.rename (linked.renamesOf (linked.module id))))) ∈
              (linked.linkedProgram order).items) := by
  obtain ⟨first, hwired⟩ := hsession.wired
  obtain ⟨record, hentry, hshared, hown⟩ := hwired.default_of_ident id hid x hx
  rw [hsession.sound.id_eq id hid] at hown
  refine ⟨record, hentry, ⟨fun hdeclares hwrites => ?_, fun hnever => ?_⟩, fun hwrites => ?_⟩
  · exact hdeclares.not_isUnnamed id (hown (hcounts hwrites))
  · exact hshared fun hassigned => hnever hassigned.writes
  · have hunnamed := hown (hcounts hwrites)
    have hdefault := hsession.sound.unnamedDefault_eq id hid record hentry hunnamed
    obtain ⟨before, span, after, hitems, -⟩ := hx.last
    exact ⟨hunnamed, hdefault, fun linked order hlinked hmem =>
      hlinked.constant_mem id hid hmem (.ident x) span (hitems ▸ by simp) record hdefault⟩

def loneFile (source : String) : FileTree := ⟨[(["i.js"], .file source.toUTF8)], []⟩

def loneSession (source : String) : Session := builtSession (loneFile source) "i.js" .standard

/-- A variable that is exported as the default and assigned to in a pattern. -/
def swapped : String := "let x=1,y=2;export default x;[y,x]=[x,y]"

def swappedDefault : Ident := ⟨"x", .module, ⟨28, 29⟩⟩

set_option maxRecDepth 100000 in
theorem swapped_checked :
    0 < (loneSession swapped).modules.length ∧
      ((loneSession swapped).module 0).defaultsAt 1 swappedDefault = true ∧
      ((loneSession swapped).module 0).program.Writes swappedDefault.identity ∧
      ((loneSession swapped).module 0).program.Reassigns swappedDefault.identity ∧
      0 ∈ bundleOrder (loneFile swapped) "i.js" .standard ∧
      (bundledProgram (loneFile swapped) "i.js" .standard).text .none true =
        "let x=1,y=2;const i=x;[y,x]=[x,y];export\x7bi as default\x7d;" := by
  decide +kernel

theorem defaults_snapshot_swapped :
    (loneSession swapped).IsBuilt .standard ∧ 0 < (loneSession swapped).modules.length ∧
      ((loneSession swapped).module 0).DefaultsTo swappedDefault ∧
      (((loneSession swapped).module 0).program.Writes swappedDefault.identity →
        ((loneSession swapped).module 0).program.Reassigns swappedDefault.identity) ∧
      ∃ record, (loneSession swapped).IsUnnamed 0 record ∧
        .statement (constDeclaration
            ((linkedSession (loneFile swapped) "i.js" .standard).identifier record)
            (.ident (swappedDefault.rename ((linkedSession (loneFile swapped) "i.js"
              .standard).renamesOf ((linkedSession (loneFile swapped) "i.js" .standard).module
                0))))) ∈
          (bundledProgram (loneFile swapped) "i.js" .standard).items := by
  obtain ⟨hvalid, hat, hwrites, hassigned, hmem, -⟩ := swapped_checked
  have hdefault := Module.defaultsTo_of_defaultsAt hat
  have hbuilt : (loneSession swapped).IsBuilt .standard := .inr ⟨_, _, rfl⟩
  obtain ⟨record, -, -, hkept⟩ := defaults_snapshot .standard (loneSession swapped) hbuilt 0 hvalid
    swappedDefault hdefault fun _ => hassigned
  obtain ⟨hunnamed, -, hconstant⟩ := hkept hwrites
  exact ⟨hbuilt, hvalid, hdefault, fun _ => hassigned, record, hunnamed,
    hconstant _ _ (linked_linkedSession (loneFile swapped) "i.js" .standard) hmem⟩

/-- Whether the only file exports a variable as its default and shares the record with it, although
it writes to it. -/
def FollowsWrites (source : String) : Prop :=
  ∃ x record, ((loneSession source).module 0).DefaultsTo x ∧
    ((loneSession source).module 0).program.Writes x.identity ∧
    ((loneSession source).module 0).exports.get? defaultName = some record ∧
    (loneSession source).DeclaredAs ((loneSession source).module 0) x.identity record

theorem followsWrites_of_not_reassigns (source : String) (place : Nat) (x : Ident)
    (h : 0 < (loneSession source).modules.length ∧
      ((loneSession source).module 0).defaultsAt place x = true ∧
      ((loneSession source).module 0).program.Writes x.identity ∧
      ¬ ((loneSession source).module 0).program.Reassigns x.identity) :
    FollowsWrites source := by
  obtain ⟨hvalid, hat, hwrites, hnot⟩ := h
  have hdefault := Module.defaultsTo_of_defaultsAt hat
  obtain ⟨first, hwired⟩ := wired_builtSession (loneFile source) "i.js" .standard
  obtain ⟨record, hentry, hshared, -⟩ := hwired.default_of_ident 0 hvalid x hdefault
  exact ⟨x, record, hdefault, hwrites, hentry, hshared hnot⟩

-- A target in parentheses is not seen, nor is a second declaration with a value.
set_option maxRecDepth 100000 in
theorem defaults_may_follow :
    FollowsWrites "let x=1;export default x;(x)=2" ∧
      FollowsWrites "var x=1;export default x;var x=2" :=
  ⟨followsWrites_of_not_reassigns _ 1 ⟨"x", .module, ⟨24, 25⟩⟩ (by decide +kernel),
    followsWrites_of_not_reassigns _ 1 ⟨"x", .module, ⟨24, 25⟩⟩ (by decide +kernel)⟩

end ScopeHoist
