import ScopeHoist.Proofs.PlainNames

/-!
# Tables hold what names stand for

Tables are filled statement by statement, and names found in other tables are copied. Where no
external is exported whole, nothing is lent: a table then holds under each name the record of what
the name stands for, by going down the graph, and nothing else.
-/

set_option autoImplicit false

namespace ScopeHoist

def Target.isExternal : Target → Bool
  | .external _ => true
  | .module _ => false

namespace Session

variable (session : Session)

/-- No module exports an external whole. -/
def StarsInside : Prop :=
  ∀ id, id < session.modules.length → ∀ specifier ∈ (session.module id).starSpecifiers,
    ((session.module id).target? specifier).any Target.isExternal = false

instance : Decidable session.StarsInside := by
  unfold StarsInside
  infer_instance

def HasOrigin (record : RecordId) : Origin → Prop
  | .external id name => (session.external id).exports.get? name = some record
  | .declaration id identity => session.DeclaredAs (session.module id) identity record
  | .unnamedDefault id =>
    session.IsUnnamed id record ∧ (session.module id).unnamedDefault = some record
  | .aggregate id =>
    session.IsAggregate id record ∧
      (session.module id).exports.get? aggregateName = some record
  | .helper => False

variable {session : Session}

/-! ## Nothing is lent -/

theorem Wired.stars_eq_nil {first : ModuleId → Table RecordId} (hwired : session.Wired first)
    (hsound : session.Sound) (hinside : session.StarsInside) (id : ModuleId) :
    (session.module id).stars = [] := by
  induction id using Nat.strongRecOn with
  | _ id ih =>
    by_cases hid : id < session.modules.length
    · rw [(hwired.completed id hid).stars]
      apply List.eq_nil_iff_forall_not_mem.mpr
      intro star hstar
      obtain ⟨specifier, hspecifier, hfound⟩ := (mem_starsOf _ star).mp hstar
      rcases hfound with ⟨other, htarget, hother⟩ | ⟨external, htarget, -⟩
      · have hdependency := target?_mem _ specifier _ htarget
        have hlt := hsound.dependencies_lt id other
          ((mem_moduleDependencies _ other).mpr hdependency)
        rw [ih other hlt] at hother
        exact absurd hother List.not_mem_nil
      · have hexternal := hinside id hid specifier hspecifier
        rw [htarget] at hexternal
        exact absurd hexternal nofun
    · rw [session.module_of_length_le id (Nat.le_of_not_lt hid)]
      rfl

theorem not_lent (hstars : ∀ id, (session.module id).stars = []) (id : ModuleId)
    (record : RecordId) : ¬ session.Lent id record := by
  rintro ⟨star, hstar, -⟩
  rw [hstars id] at hstar
  exact absurd hstar List.not_mem_nil

/-- Without anything lent, a module that does not have a name has nothing to offer for it but its
namespace. -/
theorem resolution_plain_eq (hsound : session.Sound) (hplain : session.PlainNames)
    (hstars : ∀ id, (session.module id).stars = []) (id : ModuleId)
    (hid : id < session.modules.length) (name : String) :
    session.resolution plainAnswer id name = session.resolution session.lendingAnswer id name := by
  induction id using Nat.strongRecOn generalizing name with
  | _ id ih =>
    have hbelow : ∀ other, .module other ∈ (session.module id).dependencyTargets →
        ∀ name, session.resolution plainAnswer other name =
          session.resolution session.lendingAnswer other name := by
      intro other hother name
      have hlt := hsound.dependencies_lt id other ((mem_moduleDependencies _ other).mpr hother)
      exact ih other hlt (Nat.lt_trans hlt hid) name
    rw [resolution_eq hsound local_plainAnswer,
      resolution_eq hsound (local_lendingAnswer session)]
    apply resolveStep_ext _ _ _ _ id _ hbelow
    intro target htarget name
    cases target with
    | external external => rfl
    | module other =>
      have hlt := hsound.dependencies_lt id other ((mem_moduleDependencies _ other).mpr htarget)
      rw [plainAnswer, lendingAnswer, offered, hstars other]
      by_cases hname : name = aggregateName
      · rw [if_pos hname, if_pos hname, hname, resolution_aggregate hsound _
          (local_lendingAnswer session) other (hplain other (Nat.lt_trans hlt hid)).2,
          Option.none_or]
      · rw [if_neg hname, if_neg hname, hbelow other htarget name]
        simp

theorem hasOrigin_of_stems (hsound : session.Sound) (id : ModuleId)
    (hid : id < session.modules.length) (record : RecordId)
    (hrecord : record ∈ (session.module id).exports.values) (origin : Origin)
    (hstems : session.Stems record origin) : session.HasOrigin record origin := by
  obtain ⟨found, hfound, hprovides, -⟩ :=
    (hsound.modules id hid).exports.supplies record hrecord
  cases origin with
  | external external name => exact hstems
  | declaration other identity => exact hstems
  | helper => exact hstems
  | unnamedDefault other =>
    refine ⟨hstems, ?_⟩
    obtain ⟨found', hfound', hname, hsource, howner⟩ := hstems
    obtain rfl := Option.some.inj (hfound.symm.trans hfound')
    cases hprovides with
    | external external hexternal => exact absurd (hsource.symm.trans hexternal) nofun
    | declared module owner binding hmodule hdeclared =>
      exact absurd (howner.symm.trans hdeclared) nofun
    | unnamed module hmodule _ _ _ hdefault =>
      obtain rfl := Target.module.inj (hsource.symm.trans hmodule)
      exact hdefault
    | aggregate module hmodule _ _ haggregate =>
      exact absurd (haggregate.symm.trans hname) InSession.aggregateName_ne_defaultName
  | aggregate other =>
    refine ⟨hstems, ?_⟩
    obtain ⟨found', hfound', hname, hsource, howner⟩ := hstems
    obtain rfl := Option.some.inj (hfound.symm.trans hfound')
    cases hprovides with
    | external external hexternal => exact absurd (hsource.symm.trans hexternal) nofun
    | declared module owner binding hmodule hdeclared =>
      exact absurd (howner.symm.trans hdeclared) nofun
    | unnamed module hmodule _ _ hdefault =>
      exact absurd (hname.symm.trans hdefault) InSession.aggregateName_ne_defaultName
    | aggregate module hmodule _ _ _ hentry =>
      obtain rfl := Target.module.inj (hsource.symm.trans hmodule)
      exact hentry

theorem Wired.hasOrigin {first : ModuleId → Table RecordId} (hwired : session.Wired first)
    (hsound : session.Sound) (hplain : session.PlainNames) (hinside : session.StarsInside)
    (id : ModuleId) (hid : id < session.modules.length) (name : String)
    (hname : name ≠ aggregateName) :
    Option.Rel (fun origin record => session.HasOrigin record origin)
      (session.resolution plainAnswer id name) ((session.module id).exports.get? name) := by
  have hstars := hwired.stars_eq_nil hsound hinside
  have hagrees := tables_agree hsound hwired id hid name
  rw [← resolution_plain_eq hsound hplain hstars id hid name] at hagrees
  generalize session.resolution plainAnswer id name = origin at hagrees ⊢
  cases hentry : (session.module id).exports.get? name with
  | none =>
    rw [hentry] at hagrees
    cases hagrees with
    | absent => exact .none
  | some record =>
    rw [hentry] at hagrees
    cases hagrees with
    | meets origin record hmeets =>
      rcases hmeets with hstems | ⟨other, -, hlent⟩
      · exact .some (hasOrigin_of_stems hsound id hid record
          (Table.value_mem_of_get? _ _ _ hentry) origin hstems)
      · exact absurd hlent (not_lent hstars other record)
    | added record hadded =>
      rcases hadded with ⟨heq, -⟩ | ⟨-, -, hlent⟩
      · exact absurd heq hname
      · exact absurd hlent (not_lent hstars id record)

end Session

/-- A module that exports what others declare, name and are, also as its default. -/
def reexported : FileTree :=
  ⟨[(["i"], .file
      "import d,*as n from'./m';export*from'./m';export{d as x,n};export{y}from'p';export default d".toUTF8),
    (["m"], .file "export const x=1;export*from'./l';export default 2".toUTF8),
    (["l"], .file "export let z=3".toUTF8)], []⟩

/-- Reads a default value that is an import as that import, also if it stands for nothing. -/
def Clause.asImport (clause : Clause) : Clause :=
  match clause.referent with
  | .imported specifier name => ⟨clause.name, .outer specifier name⟩
  | _ => clause

/-- What a name of a module would stand for if a default value that is an import never were a value
of its own. -/
def Session.importingTo (session : Session) : Nat → Answer
  | 0, _, _ => none
  | depth + 1, id, name =>
    let module := session.module id
    let clauses := module.program.clauses.map Clause.asImport
    (session.referred (plainAnswer (session.importingTo depth)) id clauses name).or
      (passed (session.importingTo depth) module.starModules name)

/-- A module whose default is an import that stands for nothing. -/
def emptyImport : FileTree :=
  ⟨[(["i"], .file "import d from'./l';export default d".toUTF8),
    (["l"], .file "export const a=1".toUTF8)], []⟩

end ScopeHoist
