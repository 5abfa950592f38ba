import ScopeHoist.Graph.Loading
import ScopeHoist.Link.Statements
import ScopeHoist.Proofs.Lists
import ScopeHoist.Proofs.Pool

/-!
# New spellings capture nothing

The spellings of a module fall into three kinds: top-level names get what was claimed for them,
nested declarations move only when such a name runs into them, and free names stay. A nested
declaration that moves takes a name that is none of the module's free, new or nested names and none
that another one moved to. So nothing in the module is ever spelled like a nested declaration that
it was not spelled like in the source.
-/

set_option autoImplicit false

namespace ScopeHoist

/-! ## Searching spellings -/

def Identity.renamed (renames : Renames) (identity : Identity) : String :=
  (Ident.rename renames ⟨identity.name, identity.scope, .generated⟩).name

theorem newName?_getD (renames : Renames) (id : Ident) :
    (newName? renames id).getD id.name =
      ((renames.find? fun rename => rename.1 == id.identity).map Prod.snd).getD id.name := by
  unfold newName?
  cases (renames.find? fun rename => rename.1 == id.identity) with
  | none => rfl
  | some rename =>
    by_cases h : rename.2 = id.name <;> simp [Option.filter, h]

theorem renamed_eq (renames : Renames) (identity : Identity) :
    identity.renamed renames =
      ((renames.find? fun rename => rename.1 == identity).map Prod.snd).getD identity.name :=
  newName?_getD renames ⟨identity.name, identity.scope, .generated⟩

theorem renamed_of_not_mem (renames : Renames) (identity : Identity)
    (h : identity ∉ renames.map Prod.fst) : identity.renamed renames = identity.name := by
  rw [renamed_eq, find?_key_eq_none _ _ h]
  rfl

theorem renamed_of_mem (renames : Renames) (hnodup : (renames.map Prod.fst).Nodup)
    (rename : Identity × String) (h : rename ∈ renames) :
    rename.1.renamed renames = rename.2 := by
  rw [renamed_eq, find?_key_of_mem _ hnodup _ h]
  rfl

theorem renamed_append_left (first second : Renames) (identity : Identity)
    (h : identity ∉ second.map Prod.fst) :
    identity.renamed (first ++ second) = identity.renamed first := by
  rw [renamed_eq, renamed_eq, List.find?_append, find?_key_eq_none _ _ h, Option.or_none]

theorem renamed_append_right (first second : Renames) (identity : Identity)
    (h : identity ∉ first.map Prod.fst) :
    identity.renamed (first ++ second) = identity.renamed second := by
  rw [renamed_eq, renamed_eq, List.find?_append, find?_key_eq_none _ _ h, Option.none_or]

/-! ## Names of the top level -/

theorem lastNames_nodup (renames : Renames) : ((lastNames renames).map Prod.fst).Nodup :=
  eraseDupsBy_keys_nodup Prod.fst renames.reverse

theorem mem_of_mem_lastNames (renames : Renames) (rename : Identity × String)
    (h : rename ∈ lastNames renames) : rename ∈ renames :=
  List.mem_reverse.mp (mem_of_mem_eraseDupsBy _ _ _ h)

theorem lastNames_keys (renames : Renames) (identity : Identity) :
    identity ∈ (lastNames renames).map Prod.fst ↔ identity ∈ renames.map Prod.fst := by
  constructor
  · intro h
    obtain ⟨rename, hrename, rfl⟩ := List.mem_map.mp h
    exact List.mem_map_of_mem (mem_of_mem_lastNames _ _ hrename)
  · intro h
    obtain ⟨rename, hrename, rfl⟩ := List.mem_map.mp h
    obtain ⟨kept, hkept, hkey⟩ :=
      exists_mem_eraseDupsBy Prod.fst renames.reverse rename (List.mem_reverse.mpr hrename)
    exact hkey ▸ List.mem_map_of_mem hkept

namespace Session

def importIdentities (module : Module) : List Identity :=
  module.imports.map ImportBinding.identity

def survivingIdentities (session : Session) (module : Module) : List Identity :=
  (session.bindingRenames module).map Prod.fst

theorem mem_survivingIdentities (session : Session) (module : Module) (identity : Identity) :
    identity ∈ session.survivingIdentities module ↔
      ∃ id ∈ module.bindings, ∃ binding, session.bindings[id]? = some binding ∧
        binding.removed = false ∧ binding.identity = identity := by
  simp only [survivingIdentities, bindingRenames, List.mem_map, List.mem_filterMap]
  constructor
  · rintro ⟨rename, ⟨id, hid, hfound⟩, rfl⟩
    split at hfound
    · rename_i binding hbinding
      split at hfound
      · simp at hfound
      · rename_i hremoved
        obtain rfl := Option.some.inj hfound
        exact ⟨id, hid, binding, hbinding, by simpa using hremoved, rfl⟩
    · simp at hfound
  · rintro ⟨id, hid, binding, hbinding, hremoved, rfl⟩
    exact ⟨(binding.identity, binding.name), ⟨id, hid, by simp [hbinding, hremoved]⟩, rfl⟩

theorem topLevelRenames_keys (session : Session) (module : Module) (identity : Identity) :
    identity ∈ (session.topLevelRenames module).map Prod.fst ↔
      identity ∈ session.survivingIdentities module ∨ identity ∈ importIdentities module := by
  rw [topLevelRenames, lastNames_keys, List.map_append, List.mem_append]
  simp [survivingIdentities, importIdentities, importRenames]

theorem topLevelRenames_nodup (session : Session) (module : Module) :
    ((session.topLevelRenames module).map Prod.fst).Nodup :=
  lastNames_nodup _

theorem topLevelRenames_scope (session : Session) (module : Module) (identity : Identity)
    (h : identity ∈ (session.topLevelRenames module).map Prod.fst) : identity.scope = .module := by
  rcases (topLevelRenames_keys session module identity).mp h with h | h
  · obtain ⟨_, _, binding, _, _, rfl⟩ := (mem_survivingIdentities session module identity).mp h
    rfl
  · obtain ⟨binding, _, rfl⟩ := List.mem_map.mp h
    rfl

end Session

/-! ## Nested declarations that move -/

theorem mem_nestedIdentities (program : Program) (identity : Identity) :
    identity ∈ program.nestedIdentities ↔
      identity ∈ program.idents.map Ident.identity ∧ identity.scope.isNested = true := by
  simp only [Program.nestedIdentities, List.mem_eraseDups, List.mem_map, List.mem_filter]
  constructor
  · rintro ⟨id, ⟨hid, hscope⟩, rfl⟩
    exact ⟨⟨id, hid, rfl⟩, hscope⟩
  · rintro ⟨⟨id, hid, rfl⟩, hscope⟩
    exact ⟨id, ⟨hid, hscope⟩, rfl⟩

theorem mem_shadowing (program : Program) (renames : Renames) (identity : Identity) :
    identity ∈ shadowing program renames ↔
      identity ∈ program.nestedIdentities ∧ identity.name ∈ introducedNames renames := by
  simp [shadowing, List.mem_mergeSort]

theorem shadowing_nodup (program : Program) (renames : Renames) :
    (shadowing program renames).Nodup :=
  (List.mergeSort_perm _ _).nodup_iff.mpr ((eraseDups_nodup _).filter _)

theorem renumber_cons (pool : NamePool) (identity : Identity) (rest : List Identity) :
    renumber pool (identity :: rest) =
      (identity, (pool.claimNumbered identity.name).1) ::
        renumber (pool.claimNumbered identity.name).2 rest := rfl

theorem renumber_keys (pool : NamePool) (identities : List Identity) :
    (renumber pool identities).map Prod.fst = identities := by
  induction identities generalizing pool with
  | nil => rfl
  | cons identity rest ih => rw [renumber_cons, List.map_cons, ih]

theorem renumber_fresh (pool : NamePool) (identities : List Identity) :
    ∀ rename ∈ renumber pool identities,
      rename.2 ∉ pool.taken ∧ rename.2 ≠ rename.1.name := by
  induction identities generalizing pool with
  | nil => simp [renumber]
  | cons identity rest ih =>
    intro rename hrename
    rw [renumber_cons, List.mem_cons] at hrename
    rcases hrename with rfl | hrename
    · exact ⟨pool.claimNumbered_not_mem _, pool.claimNumbered_ne_base _⟩
    · obtain ⟨hfresh, hne⟩ := ih _ rename hrename
      rw [NamePool.claimNumbered_taken, List.mem_cons, not_or] at hfresh
      exact ⟨hfresh.2, hne⟩

theorem renumber_nodup (pool : NamePool) (identities : List Identity) :
    ((renumber pool identities).map Prod.snd).Nodup := by
  induction identities generalizing pool with
  | nil => exact List.nodup_nil
  | cons identity rest ih =>
    rw [renumber_cons, List.map_cons, List.nodup_cons]
    refine ⟨fun h => ?_, ih _⟩
    obtain ⟨rename, hrename, heq⟩ := List.mem_map.mp h
    have := (renumber_fresh _ _ rename hrename).1
    rw [NamePool.claimNumbered_taken, List.mem_cons, not_or] at this
    exact this.1 heq

theorem nestedRenames_fresh (program : Program) (renames : Renames) (rename : Identity × String)
    (h : rename ∈ nestedRenames program renames) :
    rename.2 ∉ program.freeNames ∧ rename.2 ∉ renames.map Prod.snd ∧
      rename.2 ∉ program.nestedIdentities.map Identity.name ∧ rename.2 ≠ rename.1.name := by
  obtain ⟨hfresh, hne⟩ := renumber_fresh _ _ rename h
  simp only [List.mem_append, not_or] at hfresh
  exact ⟨hfresh.1.1, hfresh.1.2, hfresh.2, hne⟩

theorem nestedRenames_keys (program : Program) (renames : Renames) :
    (nestedRenames program renames).map Prod.fst = shadowing program renames :=
  renumber_keys _ _

theorem nestedRenames_scope (program : Program) (renames : Renames) (identity : Identity)
    (h : identity ∈ (nestedRenames program renames).map Prod.fst) :
    identity.scope.isNested = true := by
  rw [nestedRenames_keys, mem_shadowing, mem_nestedIdentities] at h
  exact h.1.2

theorem nestedRenames_injective (program : Program) (renames : Renames)
    (first second : Identity × String) (hfirst : first ∈ nestedRenames program renames)
    (hsecond : second ∈ nestedRenames program renames) (h : first.2 = second.2) :
    first = second :=
  List.inj_on_of_nodup_map (renumber_nodup _ _) hfirst hsecond h

/-! ## Spellings of a module -/

namespace Session

/-- How an identity of a module is spelled in the bundle. -/
def spelling (session : Session) (module : Module) (identity : Identity) : String :=
  identity.renamed (session.renamesOf module)

/-- Free names, nested declarations, imports, and declarations that were not taken out. -/
def Named (session : Session) (module : Module) (identity : Identity) : Prop :=
  (identity.scope = .free ∧ identity ∈ module.program.idents.map Ident.identity) ∨
    identity ∈ module.program.nestedIdentities ∨
    identity ∈ importIdentities module ∨ identity ∈ session.survivingIdentities module

variable (session : Session) (module : Module)

theorem spelling_topLevel (identity : Identity) (h : identity.scope.isNested = false) :
    session.spelling module identity = identity.renamed (session.topLevelRenames module) := by
  refine renamed_append_left _ _ _ fun hmem => ?_
  rw [nestedRenames_scope _ _ _ hmem] at h
  simp at h

theorem spelling_nested (identity : Identity) (h : identity.scope.isNested = true) :
    session.spelling module identity =
      identity.renamed (nestedRenames module.program (session.topLevelRenames module)) := by
  refine renamed_append_right _ _ _ fun hmem => ?_
  rw [topLevelRenames_scope session module _ hmem] at h
  simp [Scope.isNested] at h

theorem spelling_free (identity : Identity) (h : identity.scope = .free) :
    session.spelling module identity = identity.name := by
  rw [spelling_topLevel session module identity (by simp [h, Scope.isNested])]
  refine renamed_of_not_mem _ _ fun hmem => ?_
  rw [topLevelRenames_scope session module _ hmem] at h
  simp at h

theorem spelling_of_key (identity : Identity)
    (h : identity ∈ (session.topLevelRenames module).map Prod.fst) :
    (identity, session.spelling module identity) ∈ session.topLevelRenames module := by
  obtain ⟨rename, hrename, rfl⟩ := List.mem_map.mp h
  have hscope := topLevelRenames_scope session module _ h
  rw [spelling_topLevel session module _ (by simp [hscope, Scope.isNested]),
    renamed_of_mem _ (topLevelRenames_nodup session module) rename hrename]
  exact hrename

/-- A nested declaration keeps its name, or moves to a name of its own. -/
theorem spelling_kept_or_moved (identity : Identity)
    (h : identity ∈ module.program.nestedIdentities) :
    (identity.name ∉ introducedNames (session.topLevelRenames module) ∧
        session.spelling module identity = identity.name) ∨
      (identity.name ∈ introducedNames (session.topLevelRenames module) ∧
        (identity, session.spelling module identity) ∈
          nestedRenames module.program (session.topLevelRenames module)) := by
  have hscope := ((mem_nestedIdentities _ _).mp h).2
  rw [spelling_nested session module identity hscope]
  by_cases hintroduced : identity.name ∈ introducedNames (session.topLevelRenames module)
  · right
    have hkey : identity ∈ (nestedRenames module.program
        (session.topLevelRenames module)).map Prod.fst := by
      rw [nestedRenames_keys, mem_shadowing]
      exact ⟨h, hintroduced⟩
    obtain ⟨rename, hrename, rfl⟩ := List.mem_map.mp hkey
    have hnodup : ((nestedRenames module.program
        (session.topLevelRenames module)).map Prod.fst).Nodup := by
      rw [nestedRenames_keys]
      exact shadowing_nodup _ _
    rw [renamed_of_mem _ hnodup rename hrename]
    exact ⟨hintroduced, hrename⟩
  · left
    refine ⟨hintroduced, renamed_of_not_mem _ _ ?_⟩
    rw [nestedRenames_keys, mem_shadowing]
    exact fun hmem => hintroduced hmem.2

theorem spelling_introduced (identity : Identity)
    (h : identity ∈ (session.topLevelRenames module).map Prod.fst)
    (hchanged : session.spelling module identity ≠ identity.name) :
    session.spelling module identity ∈ introducedNames (session.topLevelRenames module) := by
  have hmem := spelling_of_key session module identity h
  exact List.mem_map.mpr
    ⟨_, List.mem_filter.mpr ⟨hmem, by simpa using fun heq => hchanged heq.symm⟩, rfl⟩

theorem spelling_apart_topLevel (first second : Identity)
    (hfirst : first ∈ (session.topLevelRenames module).map Prod.fst)
    (hsecond : second ∈ module.program.nestedIdentities)
    (h : session.spelling module first = session.spelling module second) :
    session.spelling module first = first.name ∧
      session.spelling module second = second.name := by
  have hvalue := List.mem_map_of_mem (f := Prod.snd) (spelling_of_key session module first hfirst)
  rcases spelling_kept_or_moved session module second hsecond with
    ⟨hout, hkept⟩ | ⟨-, hmoved⟩
  · refine ⟨?_, hkept⟩
    by_contra hchanged
    have := spelling_introduced session module first hfirst hchanged
    rw [h, hkept] at this
    exact hout this
  · exact absurd (h ▸ hvalue) (nestedRenames_fresh _ _ _ hmoved).2.1

theorem spelling_apart_free (first second : Identity) (hscope : first.scope = .free)
    (hfirst : first ∈ module.program.idents.map Ident.identity)
    (hsecond : second ∈ module.program.nestedIdentities)
    (h : session.spelling module first = session.spelling module second) :
    session.spelling module second = second.name := by
  rcases spelling_kept_or_moved session module second hsecond with ⟨-, hkept⟩ | ⟨-, hmoved⟩
  · exact hkept
  · have hfree : first.name ∈ module.program.freeNames := by
      obtain ⟨id, hid, rfl⟩ := List.mem_map.mp hfirst
      exact Program.mem_freeNames.mpr ⟨id, hid, hscope, rfl⟩
    rw [← spelling_free session module first hscope, h] at hfree
    exact absurd hfree (nestedRenames_fresh _ _ _ hmoved).1

/-- Two nested declarations are spelled alike only if neither moved. -/
theorem spelling_apart_nested (first second : Identity) (hne : first ≠ second)
    (hfirst : first ∈ module.program.nestedIdentities)
    (hsecond : second ∈ module.program.nestedIdentities)
    (h : session.spelling module first = session.spelling module second) :
    session.spelling module first = first.name ∧
      session.spelling module second = second.name := by
  have hname : ∀ identity ∈ module.program.nestedIdentities,
      identity.name ∈ module.program.nestedIdentities.map Identity.name :=
    fun _ => List.mem_map_of_mem
  rcases spelling_kept_or_moved session module first hfirst with
      ⟨-, hkept⟩ | ⟨-, hmoved⟩ <;>
    rcases spelling_kept_or_moved session module second hsecond with
      ⟨-, hkept'⟩ | ⟨-, hmoved'⟩
  · exact ⟨hkept, hkept'⟩
  · refine absurd ?_ (nestedRenames_fresh _ _ _ hmoved').2.2.1
    rw [← h, hkept]
    exact hname first hfirst
  · refine absurd ?_ (nestedRenames_fresh _ _ _ hmoved).2.2.1
    rw [h, hkept']
    exact hname second hsecond
  · have := nestedRenames_injective _ _ _ _ hmoved hmoved' h
    exact absurd (congrArg Prod.fst this) hne

/-- A nested declaration moves out of the way of a top-level name that takes its spelling. -/
theorem spelling_moved (identity : Identity) (h : identity ∈ module.program.nestedIdentities)
    (hmoved : session.spelling module identity ≠ identity.name) :
    ∃ other, (other ∈ importIdentities module ∨ other ∈ session.survivingIdentities module) ∧
      session.spelling module other ≠ other.name ∧
      session.spelling module other = identity.name := by
  rcases spelling_kept_or_moved session module identity h with ⟨-, hkept⟩ | ⟨hintroduced, -⟩
  · exact absurd hkept hmoved
  · obtain ⟨rename, hrename, hname⟩ := List.mem_map.mp hintroduced
    obtain ⟨hmem, hchanged⟩ := List.mem_filter.mp hrename
    have hkey := List.mem_map_of_mem (f := Prod.fst) hmem
    have hscope := topLevelRenames_scope session module _ hkey
    have hspelling : session.spelling module rename.1 = rename.2 := by
      rw [spelling_topLevel session module _ (by simp [hscope, Scope.isNested])]
      exact renamed_of_mem _ (topLevelRenames_nodup session module) rename hmem
    refine ⟨rename.1, ((topLevelRenames_keys session module _).mp hkey).symm, ?_, ?_⟩
    · rw [hspelling]
      intro heq
      rw [heq] at hchanged
      simp at hchanged
    · rw [hspelling, hname]

/-- Whatever the final names, nothing in a module is spelled like a nested declaration that it was
not spelled like in the source, and a nested declaration only moves for a reason. -/
theorem spelling_avoids_capture :
    ∀ (session : Session) (module : Module), ∀ second ∈ module.program.nestedIdentities,
      (∀ first, first ≠ second → session.Named module first →
        session.spelling module first = session.spelling module second →
          first.name = second.name ∧ session.spelling module first = first.name ∧
            session.spelling module second = second.name) ∧
      (session.spelling module second ≠ second.name →
        ∃ other, (other ∈ importIdentities module ∨ other ∈ session.survivingIdentities module) ∧
          session.spelling module other ≠ other.name ∧
          session.spelling module other = second.name) := by
  intro session module second hsecond
  refine ⟨fun first hne hnamed h => ?_, spelling_moved session module second hsecond⟩
  have hkept : session.spelling module first = first.name ∧
      session.spelling module second = second.name := by
    rcases hnamed with ⟨hscope, hfirst⟩ | hfirst | hfirst
    · exact ⟨spelling_free session module first hscope,
        spelling_apart_free session module first second hscope hfirst hsecond h⟩
    · exact spelling_apart_nested session module first second hne hfirst hsecond h
    · exact spelling_apart_topLevel session module first second
        ((topLevelRenames_keys session module first).mpr hfirst.symm) hsecond h
  exact ⟨by rw [← hkept.1, h, hkept.2], hkept⟩

/-- A module that imports `a`, which is called `b` where it comes from, into a function with a
parameter `b`. Two functions have a parameter `c`. -/
def crossing : FileTree :=
  ⟨[(["i"], .file "import{a}from'./l';const f=(b,c)=>a+b,g=(c)=>c".toUTF8),
    (["l"], .file "const b=1;export{b as a}".toUTF8)], []⟩

def crossingSession : Session := ((Building.build crossing "/i").run (Session.new .standard)).2

def crossingModule : Module := crossingSession.module 1

set_option maxRecDepth 100000 in
theorem spelling_avoids_capture_crossing :
    crossingSession.spelling crossingModule ⟨"c", .nested 0⟩ = "c" ∧
      ∃ other, (other ∈ importIdentities crossingModule ∨
          other ∈ crossingSession.survivingIdentities crossingModule) ∧
        crossingSession.spelling crossingModule other ≠ other.name ∧
        crossingSession.spelling crossingModule other = "b" :=
  have hc := spelling_avoids_capture crossingSession crossingModule ⟨"c", .nested 0⟩
    (by decide +kernel)
  have hb := spelling_avoids_capture crossingSession crossingModule ⟨"b", .nested 0⟩
    (by decide +kernel)
  ⟨(hc.1 ⟨"c", .nested 1⟩ (by decide) (.inr (.inl (by decide +kernel))) (by decide +kernel)).2.2,
    hb.2 (by decide +kernel)⟩

end Session

end ScopeHoist
