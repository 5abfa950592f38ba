import ScopeHoist.Proofs.Assembly
import ScopeHoist.Proofs.Kept

/-!
# Where declarations come from

Each declaration in the outermost scope of a linked program comes from an external, the function
that merges namespaces, or a module: one of its declarations, its default without a name or its
namespace. The origins are listed in the order of the program, with the names that they have there.
-/

set_option autoImplicit false

namespace ScopeHoist

inductive Origin where
  /-- An import of an external, under the name of its table. -/
  | external (id : ExternalId) (imported : String)
  | helper
  | declaration (module : ModuleId) (identity : Identity)
  | unnamedDefault (module : ModuleId)
  | aggregate (module : ModuleId)
  deriving DecidableEq

def External.importedEntries (external : External) : Table RecordId :=
  let whole := fun name => (external.exports.get? name).toList.map fun record => (name, record)
  let named := external.exports.filter fun entry =>
    entry.1 != defaultName && entry.1 != aggregateName
  if (whole aggregateName).isEmpty || named.isEmpty then
    whole defaultName ++ whole aggregateName ++ named
  else whole defaultName ++ named ++ whole aggregateName

namespace Session

def externalOrigins (session : Session) : List (Origin × String) :=
  (List.range session.externals.length).flatMap fun id =>
    (session.external id).importedEntries.map fun entry =>
      (.external id entry.1, session.identifier entry.2)

def helperOrigins (session : Session) (order : List ModuleId) : List (Origin × String) :=
  if session.needsMergeHelper order then [(.helper, mergeHelperName)] else []

/-- The origins of what an item of a module declares in the program. -/
def itemOrigins (session : Session) (id : ModuleId) (item : Item) : List (Origin × String) :=
  let declared := item.topLevel.map fun ident =>
    (Origin.declaration id ident.identity, session.spelling (session.module id) ident.identity)
  let unnamed := ((session.module id).unnamedDefault.map session.identifier).toList.map fun name =>
    (Origin.unnamedDefault id, name)
  match item with
  | .statement _ | .exportDecl _ _ => declared
  | .exportDefaultDecl decl _ => if (namedDeclaration? decl).isSome then declared else unnamed
  | .exportDefault _ _ => unnamed
  | _ => []

def moduleOrigins (session : Session) (id : ModuleId) : List (Origin × String) :=
  (session.module id).program.items.flatMap (session.itemOrigins id)
    ++ ((session.module id).exports.get? aggregateName).toList.map fun record =>
      (.aggregate id, session.identifier record)

def origins (session : Session) (order : List ModuleId) : List (Origin × String) :=
  session.externalOrigins ++ session.helperOrigins order ++ order.flatMap session.moduleOrigins

/-! ## The origins of a program -/

theorem importItem_topLevel (source : String) (specifiers : List ImportSpecifier) :
    (importItem source specifiers).topLevel = specifiers.map ImportSpecifier.target := rfl

theorem wholeImports_names (session : Session) (external : External) (name : String)
    (specifier : String → ImportSpecifier) (h : ∀ target, (specifier target).target.name = target) :
    ((session.wholeImports external name specifier).map ImportSpecifier.target).map Ident.name =
      ((external.exports.get? name).toList.map fun record => (name, record)).map
        fun entry => session.identifier entry.2 := by
  simp [wholeImports, Function.comp_def, h]

theorem namedImports_names (session : Session) (external : External) :
    ((session.namedImports external).map ImportSpecifier.target).map Ident.name =
      (external.exports.filter fun entry =>
        entry.1 != defaultName && entry.1 != aggregateName).map
          fun entry => session.identifier entry.2 := by
  simp only [namedImports, List.map_map]
  rfl

theorem importsOf_names (session : Session) (external : External) :
    ((session.importsOf external).flatMap Item.topLevel).map Ident.name =
      external.importedEntries.map fun entry => session.identifier entry.2 := by
  have hdefault := session.wholeImports_names external defaultName .generatedDefault fun _ => rfl
  have haggregate := session.wholeImports_names external aggregateName .generatedAggregate
    fun _ => rfl
  have hnamed := session.namedImports_names external
  have hempty : (session.wholeImports external aggregateName .generatedAggregate).isEmpty =
      ((external.exports.get? aggregateName).toList.map fun record =>
        (aggregateName, record)).isEmpty := by
    simp [wholeImports]
  have hempty' : (session.namedImports external).isEmpty = (external.exports.filter fun entry =>
      entry.1 != defaultName && entry.1 != aggregateName).isEmpty := by
    simp [namedImports]
  unfold importsOf External.importedEntries
  by_cases hnone : external.exports.isEmpty = true
  · have hexports := List.isEmpty_iff.mp hnone
    rw [if_pos hnone, hexports]
    split <;> rfl
  · rw [if_neg hnone]
    dsimp only
    rw [hempty, hempty']
    split
    · simp only [List.flatMap_singleton, importItem_topLevel, List.map_append, hdefault, haggregate,
        hnamed]
    · simp only [List.flatMap_cons, List.flatMap_nil, List.append_nil, importItem_topLevel,
        List.map_append, hdefault, haggregate, hnamed]

theorem itemOrigins_names (session : Session) (id : ModuleId) (item : Item) :
    (((item.hoisted ((session.module id).unnamedDefault.map session.identifier)).map
        (Item.rename (session.renamesOf (session.module id)))).toList.flatMap
          Item.topLevel).map Ident.name =
      (session.itemOrigins id item).map Prod.snd := by
  have hdeclared : ∀ tree : Tree,
      (((Item.statement tree).rename (session.renamesOf (session.module id))).topLevel).map
          Ident.name =
        (tree.topLevel.map fun ident => (Origin.declaration id ident.identity,
          session.spelling (session.module id) ident.identity)).map Prod.snd := by
    intro tree
    rw [Item.rename, Item.topLevel, Tree.topLevel_rename, List.map_map, List.map_map]
    rfl
  have hunnamed : ∀ value : Tree, ∀ name, ((Item.statement (constDeclaration name value)).rename
      (session.renamesOf (session.module id))).topLevel.map Ident.name = [name] := by
    intro value name
    rw [Item.rename, Item.topLevel, Tree.topLevel_rename, constDeclaration_topLevel,
      List.map_singleton, rename_generated _ (session.renamesOf_scope _)]
    rfl
  cases item with
  | statement tree => simpa [Item.hoisted, itemOrigins, Item.topLevel] using hdeclared tree
  | exportDecl decl span => simpa [Item.hoisted, itemOrigins, Item.topLevel] using hdeclared decl
  | exportDefaultDecl decl span =>
    cases hnamed : namedDeclaration? decl with
    | some named =>
      simpa [Item.hoisted, itemOrigins, Item.topLevel, hnamed] using hdeclared named
    | none =>
      cases hname : (session.module id).unnamedDefault.map session.identifier with
      | none => simp [Item.hoisted, itemOrigins, hnamed, hname]
      | some name => simpa [Item.hoisted, itemOrigins, hnamed, hname] using hunnamed decl name
  | exportDefault value span =>
    cases hname : (session.module id).unnamedDefault.map session.identifier with
    | none => simp [Item.hoisted, itemOrigins, hname]
    | some name => simpa [Item.hoisted, itemOrigins, hname] using hunnamed value name
  | _ => rfl

theorem moduleOrigins_names (session : Session) (id : ModuleId) :
    ((session.hoistedItems (session.module id)).flatMap Item.topLevel).map Ident.name =
      (session.moduleOrigins id).map Prod.snd := by
  have hstatements : ((session.hoistedStatements (session.module id)).flatMap Item.topLevel).map
      Ident.name =
        ((session.module id).program.items.flatMap (session.itemOrigins id)).map Prod.snd := by
    rw [hoistedStatements_eq, keptItems]
    induction (session.module id).program.items with
    | nil => rfl
    | cons item rest ih =>
      rw [List.flatMap_cons, List.map_append, ← ih, ← itemOrigins_names]
      cases hkept : item.hoisted ((session.module id).unnamedDefault.map session.identifier) with
      | none => simp [hkept]
      | some kept => simp [hkept]
  have hexports : ((if (session.module id).isEntry then session.entryExports (session.module id)
      else []).flatMap Item.topLevel).map Ident.name = [] := by
    split
    · unfold entryExports
      dsimp only
      split <;> simp [exportItem, exportStarItem, Item.topLevel]
    · rfl
  rw [hoistedItems, List.flatMap_append, List.flatMap_append, List.map_append, List.map_append,
    hstatements, hexports, List.append_nil, moduleOrigins, List.map_append]
  congr 1
  unfold aggregateDeclaration?
  cases (session.module id).exports.get? aggregateName <;> rfl

theorem externals_eq_map (session : Session) :
    session.externals = (List.range session.externals.length).map session.external := by
  refine List.ext_getElem (by simp) fun i hi hi' => ?_
  simp [session.external_getElem i hi]

/-- What a linked program declares in its outermost scope, in order, is called like the origins. -/
theorem linkedProgram_names (session : Session) (order : List ModuleId) :
    (session.linkedProgram order).topLevel.map Ident.name =
      (session.origins order).map Prod.snd := by
  have hexternals : (session.externalImports.flatMap Item.topLevel).map Ident.name =
      session.externalOrigins.map Prod.snd := by
    rw [externalImports, externalOrigins, session.externals_eq_map, List.flatMap_assoc,
      List.flatMap_map, List.map_flatMap, List.map_flatMap, List.length_map, List.length_range]
    refine congrArg (List.flatMap · _) (funext fun id => ?_)
    rw [importsOf_names, List.map_map]
    rfl
  have hhelper : ((session.helperItems order).flatMap Item.topLevel).map Ident.name =
      (session.helperOrigins order).map Prod.snd := by
    unfold helperItems helperOrigins
    split <;> rfl
  have hmodules : ((order.flatMap fun id => session.hoistedItems (session.module id)).flatMap
      Item.topLevel).map Ident.name = (order.flatMap session.moduleOrigins).map Prod.snd := by
    rw [List.flatMap_assoc, List.map_flatMap, List.map_flatMap]
    exact congrArg (List.flatMap · order) (funext session.moduleOrigins_names)
  rw [Program.topLevel, linkedProgram, origins, List.flatMap_append, List.flatMap_append,
    List.map_append, List.map_append, hexternals, hhelper, hmodules, List.map_append,
    List.map_append]

end Session

end ScopeHoist
