import ScopeHoist.Proofs.Observed

/-!
# Shaking once is enough

What shaking leaves is used in what it leaves: that which made it used was used itself, and stayed.
So a second shaking finds no record to drop, and no declaration that is only exported for nothing.
Declarations without any uses it finds again, but whatever could be taken out for these is gone.
-/

set_option autoImplicit false

namespace ScopeHoist

/-! ## Taking declarations out again -/

section

variable {unused fewer : List Identity} (hsub : fewer ⊆ unused)
include hsub

theorem isIdle_mono (declarator : Tree) (h : isIdle fewer declarator = true) :
    isIdle unused declarator = true := by
  simp only [isIdle, Bool.and_eq_true, List.all_eq_true, List.contains_iff_mem] at h ⊢
  exact ⟨h.1, fun identity hidentity => hsub (h.2 identity hidentity)⟩

theorem isIdleSole_mono (tree : Tree) (h : tree.isIdleSole fewer = true) :
    tree.isIdleSole unused = true := by
  unfold Tree.isIdleSole at h ⊢
  cases hsole : soleIdentity? tree with
  | none => simp [hsole] at h
  | some identity =>
    simp only [hsole, Option.any_some, List.contains_iff_mem] at h ⊢
    exact hsub h

theorem soleIdentity_filter_eq_nil (tree : Tree) (h : tree.isIdleSole unused = false) :
    (soleIdentity? tree).toList.filter fewer.contains = [] := by
  have hfewer : tree.isIdleSole fewer = false :=
    Bool.eq_false_iff.mpr fun hidle => Bool.eq_false_iff.mp h (isIdleSole_mono hsub tree hidle)
  unfold Tree.isIdleSole at hfewer
  cases hsole : soleIdentity? tree with
  | none => rfl
  | some identity => simpa [hsole] using hfewer

theorem Tree.withoutIdle_settled (tree rest : Tree) (h : tree.withoutIdle unused = some rest) :
    rest.withoutIdle fewer = some rest ∧ rest.idleIdentities fewer = [] := by
  unfold Tree.withoutIdle at h
  split at h
  · rename_i kind span declarators
    dsimp only at h
    split at h
    · cases h
    · rename_i hsome
      obtain rfl := Option.some.inj h
      have hkept : ∀ declarator ∈ declarators.filter fun declarator => !isIdle unused declarator,
          isIdle fewer declarator = false := fun declarator hdeclarator =>
        Bool.eq_false_iff.mpr fun hidle => by
          simpa [isIdle_mono hsub declarator hidle] using (List.mem_filter.mp hdeclarator).2
      have hall := List.filter_eq_self.mpr fun declarator hdeclarator =>
        (congrArg not (hkept declarator hdeclarator) : (!isIdle fewer declarator) = true)
      constructor
      · simp only [Tree.withoutIdle, hall, hsome, Bool.false_eq_true, if_false]
      · have hnone := List.filter_eq_nil_iff.mpr fun declarator hdeclarator =>
          Bool.eq_false_iff.mp (hkept declarator hdeclarator)
        simp only [Tree.idleIdentities, hnone, List.flatMap_nil]
  · rename_i hother
    split at h
    · cases h
    · rename_i hsole
      obtain rfl := Option.some.inj h
      have hsole : tree.isIdleSole unused = false := by simpa using hsole
      constructor
      · unfold Tree.withoutIdle
        split
        · exact absurd rfl (hother _ _ _)
        · refine if_neg fun hidle => ?_
          exact Bool.eq_false_iff.mp hsole (isIdleSole_mono hsub _ hidle)
      · unfold Tree.idleIdentities
        split
        · exact absurd rfl (hother _ _ _)
        · exact soleIdentity_filter_eq_nil hsub _ hsole

theorem Item.withoutIdle_settled (item rest : Item) (h : item.withoutIdle unused = some rest) :
    rest.withoutIdle fewer = some rest ∧ rest.idleIdentities fewer = [] := by
  cases item with
  | statement tree =>
    obtain ⟨left, hleft, rfl⟩ := Option.map_eq_some_iff.mp h
    obtain ⟨hsame, hnone⟩ := Tree.withoutIdle_settled hsub tree left hleft
    exact ⟨by simp [Item.withoutIdle, hsame], hnone⟩
  | exportDecl decl span =>
    obtain ⟨left, hleft, rfl⟩ := Option.map_eq_some_iff.mp h
    obtain ⟨hsame, hnone⟩ := Tree.withoutIdle_settled hsub decl left hleft
    exact ⟨by simp [Item.withoutIdle, hsame], hnone⟩
  | exportDefaultDecl decl span =>
    simp only [Item.withoutIdle] at h
    split at h
    · cases h
    · rename_i hsole
      obtain rfl := Option.some.inj h
      have hsole : decl.isIdleSole unused = false := by simpa using hsole
      refine ⟨if_neg fun hidle => ?_, soleIdentity_filter_eq_nil hsub decl hsole⟩
      exact Bool.eq_false_iff.mp hsole (isIdleSole_mono hsub decl hidle)
  | _ =>
    obtain rfl := Option.some.inj h
    exact ⟨rfl, rfl⟩

/-- A program that lost the declarations of some names has none left to lose for fewer of them. -/
theorem Program.relieved_settled (program : Program) :
    (program.relieved unused).relieved fewer = program.relieved unused ∧
      (program.relieved unused).idleIdentities fewer = [] := by
  cases unused with
  | nil =>
    rw [List.eq_nil_of_subset_nil hsub]
    exact ⟨rfl, Program.idleIdentities_nil _⟩
  | cons first others =>
    have hitem : ∀ rest ∈ (program.withoutIdle (first :: others)).items,
        rest.withoutIdle fewer = some rest ∧ rest.idleIdentities fewer = [] := by
      intro rest hrest
      obtain ⟨item, -, hleft⟩ := List.mem_filterMap.mp hrest
      exact Item.withoutIdle_settled hsub item rest hleft
    change (program.withoutIdle (first :: others)).relieved fewer =
      program.withoutIdle (first :: others) ∧
        (program.withoutIdle (first :: others)).idleIdentities fewer = []
    generalize program.withoutIdle (first :: others) = left at *
    constructor
    · unfold Program.relieved
      split
      · rfl
      · have hsame : left.items.filterMap (Item.withoutIdle fewer) = left.items := by
          rw [List.filterMap_congr fun rest hrest => (hitem rest hrest).1]
          exact List.filterMap_some
        rw [Program.withoutIdle, hsame]
    · exact List.flatMap_eq_nil_iff.mpr fun rest hrest => (hitem rest hrest).2

end

/-! ## Which declarations are found idle -/

def Session.Unreferenced (session : Session) (id : BindingId) : Prop :=
  ∃ binding, session.bindings[id]? = some binding ∧ binding.usage.references = 0

namespace Judging

variable {session : Session}

/-- A declaration can go if its name has no uses, and only then or if the module exports it for
nothing. -/
def Weighed (session : Session) (module : Module) (id : BindingId) (idle : Prop)
    (final : Verdicts) : Prop :=
  (session.Unreferenced id → idle) ∧
    (idle → session.Unreferenced id ∨ (module.isEntry = false ∧
      ∃ record ∈ session.ownedRecords module id, final.lookup record = some false))

theorem settles_weighed (module : Module) (id : BindingId) :
    Settles session (idleness? session module id) fun result final =>
      Weighed session module id (result.isSome = true) final := by
  unfold idleness?
  cases hbinding : session.bindings[id]? with
  | none =>
    refine settles_pure fun final => ⟨fun ⟨binding, hfound, _⟩ => ?_, nofun⟩
    exact absurd (hbinding.symm.trans hfound) nofun
  | some binding =>
    have hreferenced : binding.usage.references ≠ 0 → ¬ session.Unreferenced id := by
      rintro hsome ⟨found, hfound, hnone⟩
      obtain rfl := Option.some.inj (hbinding.symm.trans hfound)
      exact hsome hnone
    dsimp only
    split
    · rename_i hnone
      exact settles_pure fun _ =>
        ⟨fun _ => rfl, fun _ => .inl ⟨binding, hbinding, by simpa using hnone⟩⟩
    · rename_i hsome
      have hnot := hreferenced (by simpa using hsome)
      split
      · exact settles_pure fun _ => ⟨fun h => absurd h hnot, nofun⟩
      · rename_i hlocal
        have hentry : module.isEntry = false := by
          simp only [Bool.or_eq_true, not_or, Bool.not_eq_true] at hlocal
          exact hlocal.1
        split
        · exact settles_pure fun _ => ⟨fun h => absurd h hnot, nofun⟩
        · rename_i howned
          refine settles_bind (settles_allUnused _) fun all => ?_
          cases all with
          | false => exact settles_pure fun _ _ => ⟨fun h => absurd h hnot, nofun⟩
          | true =>
            refine settles_pure fun final hall => ⟨fun _ => rfl, fun _ => .inr ⟨hentry, ?_⟩⟩
            obtain ⟨record, hrecord⟩ := List.exists_mem_of_ne_nil _ (by simpa using howned)
            exact ⟨record, hrecord, hall rfl record hrecord⟩

theorem settles_idleBindingsOf_weighed (module : Module) :
    Settles session (idleBindingsOf session module) fun found final =>
      (∀ id ∈ found.map Prod.fst, id ∈ module.bindings) ∧
        ∀ id ∈ module.bindings, Weighed session module id (id ∈ found.map Prod.fst) final := by
  have heach : ∀ id ∈ module.bindings, Settles session
      (do return ((← idleness? session module id).map fun idleness => (id, idleness)).toList)
      fun result final => (∀ other ∈ List.map Prod.fst result, other = id) ∧
        Weighed session module id (id ∈ List.map Prod.fst result) final := fun id _ =>
    settles_bind (settles_weighed module id) fun result => settles_pure fun final h => by
      cases result with
      | none => exact ⟨nofun, fun hnone => absurd (h.1 hnone) nofun, nofun⟩
      | some idleness => exact ⟨by simp, fun _ => by simp, fun _ => h.2 rfl⟩
  refine settles_bind (settles_mapM_all _ module.bindings heach) fun results =>
    settles_pure fun final hall => ?_
  have hfrom : ∀ id ∈ results.flatten.map Prod.fst, ∃ result ∈ results,
      id ∈ result.map Prod.fst ∧ id ∈ module.bindings ∧
        Weighed session module id (id ∈ result.map Prod.fst) final := by
    intro id hid
    obtain ⟨idle, hidle, rfl⟩ := List.mem_map.mp hid
    obtain ⟨result, hresult, hmem⟩ := List.mem_flatten.mp hidle
    obtain ⟨other, hother, hself, hweighed⟩ := forall₂_mem_right hall result hresult
    obtain rfl := hself idle.1 (List.mem_map_of_mem hmem)
    exact ⟨result, hresult, List.mem_map_of_mem hmem, hother, hweighed⟩
  refine ⟨fun id hid => ?_, fun id hid => ⟨fun hnone => ?_, fun hidle => ?_⟩⟩
  · obtain ⟨_, -, -, hmember, -⟩ := hfrom id hid
    exact hmember
  · obtain ⟨result, hresult, -, hweighed⟩ := forall₂_mem_left hall id hid
    obtain ⟨idle, hidle, rfl⟩ := List.mem_map.mp (hweighed.1 hnone)
    exact List.mem_map_of_mem (List.mem_flatten.mpr ⟨result, hresult, hidle⟩)
  · obtain ⟨result, -, hmem, -, hweighed⟩ := hfrom id hidle
    exact hweighed.2 hmem

end Judging

namespace Session

variable {session : Session} {rank : RecordId → Nat}

theorem idle_verdict (hranked : session.Ranked rank) :
    (∀ module ∈ session.modules, ∀ id ∈ module.bindings, session.Unreferenced id →
      id ∈ session.verdict.idle.map Prod.fst) ∧
    ∀ id ∈ session.verdict.idle.map Prod.fst, ∃ module ∈ session.modules, id ∈ module.bindings ∧
      (session.Unreferenced id ∨ (module.isEntry = false ∧
        ∃ record ∈ session.ownedRecords module id, ¬ session.Used record)) := by
  have hsettles : Judging.Settles session
      (do
        let idle ← session.modules.mapM (idleBindingsOf session)
        let unused ← session.removableRecords.filterM
          fun record => do return !(← session.isUsed record)
        return (⟨idle.flatten, unused⟩ : Verdict))
      fun verdict final => ∃ results, verdict.idle = results.flatten ∧
        List.Forall₂ (fun module found => (∀ id ∈ found.map Prod.fst, id ∈ module.bindings) ∧
          ∀ id ∈ module.bindings, Judging.Weighed session module id (id ∈ found.map Prod.fst) final)
          session.modules results :=
    Judging.settles_bind (Judging.settles_mapM_all _ session.modules fun module _ =>
      Judging.settles_idleBindingsOf_weighed module) fun results =>
        Judging.settles_bind (Judging.settles_filterM session.removableRecords) fun unused =>
          Judging.settles_pure fun final _ hall => ⟨results, rfl, hall⟩
  obtain ⟨results, hidle, hall⟩ := (hsettles []).2 _ (.refl _)
  have hright := Judging.keeps_verdict hranked [] fun _ _ _ h => absurd h nofun
  have hidle : session.verdict.idle = results.flatten := hidle
  rw [hidle]
  constructor
  · intro module hmodule id hid hnone
    obtain ⟨found, hfound, -, hweighed⟩ := forall₂_mem_left hall module hmodule
    obtain ⟨idle, hmem, rfl⟩ := List.mem_map.mp ((hweighed id hid).1 hnone)
    exact List.mem_map_of_mem (List.mem_flatten.mpr ⟨found, hfound, hmem⟩)
  · intro id hid
    obtain ⟨idle, hmem, rfl⟩ := List.mem_map.mp hid
    obtain ⟨found, hfound, hmem⟩ := List.mem_flatten.mp hmem
    obtain ⟨module, hmodule, hmember, hweighed⟩ := forall₂_mem_right hall found hfound
    have hmem : idle.1 ∈ found.map Prod.fst := List.mem_map_of_mem hmem
    refine ⟨module, hmodule, hmember _ hmem, ?_⟩
    refine ((hweighed _ (hmember _ hmem)).2 hmem).imp_right fun ⟨hentry, record, howned, hno⟩ =>
      ⟨hentry, record, howned, fun hused => ?_⟩
    exact absurd ((hright record (Nat.zero_le _) false hno).mpr hused) nofun

/-! ## Sessions with nothing left to shake -/

/-- Nothing can be removed any more: all records of tables are used, all externals that are still
exported whole have their namespaces, and what is idle is declared nowhere. -/
structure Settled (session : Session) : Prop where
  unused : session.verdict.unused = []
  stars : ∀ id < session.modules.length, (session.module id).isEntry = false →
    ∀ star ∈ (session.module id).stars,
      (session.external star.external).exports.has aggregateName = true
  programs : ∀ id < session.modules.length,
    let idle := session.idleIdentities (session.verdict.idle.map Prod.fst) (session.module id)
    (session.module id).program.relieved idle = (session.module id).program ∧
      (session.module id).program.idleIdentities idle = []

theorem exportsWithout_nil (exports : Table RecordId) : exportsWithout [] exports = exports := by
  simp [exportsWithout]

theorem withoutRecords_nil (session : Session)
    (hstars : ∀ module ∈ session.modules, module.isEntry = false → ∀ star ∈ module.stars,
      (session.external star.external).exports.has aggregateName = true) :
    session.withoutRecords [] = session := by
  have hmodules : session.modules.map (Module.withoutRecords []) = session.modules := by
    rw [List.map_congr_left (g := id) fun module _ => ?_, List.map_id]
    simp [Module.withoutRecords, exportsWithout_nil]
  have hexternals : session.externals.map (External.withoutRecords []) = session.externals := by
    rw [List.map_congr_left (g := id) fun external _ => ?_, List.map_id]
    simp [External.withoutRecords, exportsWithout_nil]
  have hspared : session.modules.map (Module.withoutIdleStars session) = session.modules := by
    rw [List.map_congr_left (g := id) fun module hmodule => ?_, List.map_id]
    unfold Module.withoutIdleStars
    split
    · rfl
    · rename_i hentry
      rw [List.filter_eq_self.mpr (hstars module hmodule (by simpa using hentry))]
      rfl
  simp only [withoutRecords, hmodules, hexternals, hspared]

theorem setModule_eq_self (session : Session) (id : ModuleId) (change : Module → Module)
    (h : id < session.modules.length → change (session.module id) = session.module id) :
    session.setModule id change = session := by
  have hmodules : session.modules.modify id change = session.modules := by
    apply List.ext_getElem?
    intro other
    rw [List.getElem?_modify]
    split
    · rename_i heq
      subst heq
      cases hmodule : session.modules[id]? with
      | none => rfl
      | some module =>
        have hself : session.module id = module := by simp [Session.module, hmodule]
        rw [hself] at h
        simp [h (List.getElem?_eq_some_iff.mp hmodule).1]
    · simp
  simp only [setModule, hmodules]

theorem removeIdle_eq_self (session : Session) (idle : List BindingId) (id : ModuleId)
    (hprogram : (session.module id).program.relieved
      (session.idleIdentities idle (session.module id)) = (session.module id).program)
    (hlost : session.lostIdentities idle (session.module id) = []) :
    session.removeIdle idle id = session := by
  rw [removeIdle, session.removal_eq_nil idle id hlost, List.foldl_nil]
  exact session.setModule_eq_self id _ fun _ => by rw [hprogram]

theorem foldl_eq_self {α : Type} (change : α → Session → Session) (values : List α)
    (session : Session) (h : ∀ value ∈ values, change value session = session) :
    values.foldl (fun session value => change value session) session = session := by
  induction values with
  | nil => rfl
  | cons first rest ih =>
    rw [List.foldl_cons, h first List.mem_cons_self]
    exact ih fun value hvalue => h value (List.mem_cons_of_mem _ hvalue)

theorem resultsOf_eq_map {α β : Type} (result : α → Session → β)
    (change : α → Session → Session) (values : List α) (session : Session)
    (h : ∀ value ∈ values, change value session = session) :
    InSession.resultsOf result change values session = values.map (result · session) := by
  induction values with
  | nil => rfl
  | cons first rest ih =>
    rw [InSession.resultsOf, h first List.mem_cons_self, List.map_cons,
      ih fun value hvalue => h value (List.mem_cons_of_mem _ hvalue)]

theorem Settled.run_shake {session : Session} (h : session.Settled) :
    ((InSession.shake).run session).1 = ⟨0, 0⟩ ∧
      ((InSession.shake).run session).2.silent = session.silent := by
  have hstars : ∀ module ∈ session.silent.modules, module.isEntry = false →
      ∀ star ∈ module.stars,
        (session.silent.external star.external).exports.has aggregateName = true := by
    intro module hmodule
    obtain ⟨id, hid, rfl⟩ := module_of_mem hmodule
    exact h.stars id hid
  have htrimmed : session.silent.withoutRecords session.verdict.unused = session.silent := by
    rw [h.unused]
    exact session.silent.withoutRecords_nil hstars
  have hsame : ∀ id ∈ List.range session.modules.length,
      session.silent.removeIdle (session.verdict.idle.map Prod.fst) id = session.silent := by
    intro id hid
    obtain ⟨hprogram, hlost⟩ := h.programs id (List.mem_range.mp hid)
    exact session.silent.removeIdle_eq_self _ id hprogram hlost
  obtain ⟨hstats, hafter⟩ := InSession.run_shake session
  rw [htrimmed] at hstats
  rw [hstats, hafter, relieve, htrimmed, foldl_eq_self _ _ _ hsame,
    resultsOf_eq_map _ _ _ _ hsame]
  have hremoval : ∀ removed ∈ (List.range session.modules.length).map fun id =>
      session.silent.removal (session.verdict.idle.map Prod.fst) id, removed = [] := by
    intro removed hremoved
    obtain ⟨id, hid, rfl⟩ := List.mem_map.mp hremoved
    exact session.silent.removal_eq_nil _ id (h.programs id (List.mem_range.mp hid)).2
  rw [List.flatten_eq_nil_iff.mpr hremoval, InSession.exportCount_silent, Nat.sub_self]
  exact ⟨rfl, rfl⟩

/-! ## What is used is used again -/

theorem mem_removableRecords (session : Session) (record : RecordId)
    (h : record ∈ session.removableRecords) :
    (∃ id < session.modules.length, (session.module id).isEntry = false ∧
      ∃ entry ∈ (session.module id).exports, entry.2 = record) ∨
    ∃ id < session.externals.length, ∃ entry ∈ (session.external id).exports,
      entry.2 = record := by
  rcases List.mem_append.mp h with h | h
  · obtain ⟨module, hmodule, hrecord⟩ := List.mem_flatMap.mp h
    obtain ⟨hmodule, hentry⟩ := List.mem_filter.mp hmodule
    obtain ⟨id, hid, rfl⟩ := module_of_mem hmodule
    obtain ⟨entry, hmem, rfl⟩ := List.mem_map.mp hrecord
    exact .inl ⟨id, hid, by simpa using hentry, entry, hmem, rfl⟩
  · obtain ⟨external, hexternal, hrecord⟩ := List.mem_flatMap.mp h
    obtain ⟨id, hid, rfl⟩ := List.getElem_of_mem hexternal
    rw [← session.external_getElem id hid] at hrecord
    obtain ⟨entry, hmem, rfl⟩ := List.mem_map.mp hrecord
    exact .inr ⟨id, hid, entry, hmem, rfl⟩

def Held (session : Session) (record : RecordId) : Prop :=
  ∃ found, session.records[record]? = some found ∧ session.Provides record found

theorem Sound.held_export {session : Session} (h : session.Sound) (id : ModuleId)
    (hid : id < session.modules.length) (record : RecordId)
    (hrecord : record ∈ (session.module id).exports.values) : session.Held record := by
  obtain ⟨found, hfound, hprovides, -⟩ := (h.modules id hid).exports.supplies record hrecord
  exact ⟨found, hfound, hprovides⟩

theorem Sound.held_foreign {session : Session} (h : session.Sound) (id : ExternalId)
    (hid : id < session.externals.length) (entry : String × RecordId)
    (hmem : entry ∈ (session.external id).exports) : session.Held entry.2 := by
  have hexternal := h.externals id hid
  obtain ⟨found, hfound, hname, hsource, howner⟩ := hexternal.entries entry hmem
  exact ⟨found, hfound, .external id hsource howner hid
    (hname ▸ Table.get?_of_mem _ hexternal.proper entry.1 entry.2 hmem)⟩

/-- What becomes of the externals that are exported whole: those with a namespace stay. -/
def SparesStars (before after : Session) : Prop :=
  ∀ id < before.modules.length, ∀ star ∈ (before.module id).stars,
    ((before.module id).isEntry = true ∨
      (after.external star.external).exports.has aggregateName = true) →
    star ∈ (after.module id).stars

section

variable {before after : Session} {gone : List BindingId} {dropped : List RecordId}
  (h : before.Shaken gone dropped after) (hsound : before.Sound)
include h

theorem Shaken.unreferenced (id : BindingId) (hnone : after.Unreferenced id) :
    before.Unreferenced id := by
  obtain ⟨binding, hbinding, hreferences⟩ := hnone
  rw [h.binding] at hbinding
  obtain ⟨found, hfound, rfl⟩ := Option.map_eq_some_iff.mp hbinding
  exact ⟨found, hfound, hreferences⟩

theorem Shaken.mem_foreign (id : ExternalId) (hid : id < before.externals.length)
    (entry : String × RecordId) : entry ∈ (after.external id).exports ↔
      entry ∈ (before.external id).exports ∧ entry.2 ∉ dropped := by
  rw [h.external id hid, mem_exportsWithout]

include hsound

theorem Shaken.used (hspares : before.SparesStars after)
    (hkept : ∀ record ∈ dropped, ¬ before.Used record) (record : RecordId)
    (hused : before.Used record) (hheld : before.Held record) : after.Used record := by
  induction hused with
  | certain record hcertain =>
    rcases of_certain_mem_grounds record hcertain with
      himported | ⟨module, hmodule, hentry, hrecord⟩
    · obtain ⟨module, hmodule, hany⟩ := List.any_eq_true.mp himported
      obtain ⟨binding, hbinding, hlive⟩ := List.any_eq_true.mp hany
      simp only [Bool.and_eq_true, decide_eq_true_eq, beq_iff_eq] at hlive
      obtain ⟨id, hid, rfl⟩ := module_of_mem hmodule
      rw [← h.imports_eq id hid] at hbinding
      exact .certain record (after.certain_of_isImported record
        (after.isImported_of_mem id (h.length ▸ hid) binding hbinding hlive.1 record hlive.2))
    · obtain ⟨id, hid, rfl⟩ := module_of_mem hmodule
      obtain ⟨entry, hmem, rfl⟩ := List.mem_map.mp hrecord
      exact .certain _ (after.certain_of_entry id (h.length ▸ hid)
        ((h.isEntry_eq id hid).trans hentry) entry
        ((h.mem_exports id hid entry).mpr ⟨hmem, .inl hentry⟩))
  | through record aggregate hground haggregate ih =>
    obtain ⟨id, hid, hself, hmember⟩ := through_of_mem_grounds record aggregate hground
    have hagain := ih (hsound.held_export id hid aggregate (Table.value_mem_of_get? _ _ _ hself))
    have hself' := h.get?_exports id hid (hsound.proper id hid) aggregateName aggregate hself
      fun hmem => hkept aggregate hmem haggregate
    have hused : before.Used record := .through record aggregate hground haggregate
    have hstays : record ∉ dropped := fun hmem => hkept record hmem hused
    rcases hmember with ⟨name, hmem, hname⟩ | ⟨star, hstar, found, hfound, hname, hsource⟩
    · exact used_of_member id (h.length ▸ hid) aggregate hself' hagain (name, record)
        ((h.mem_exports id hid _).mpr ⟨hmem, .inr hstays⟩) (by simpa [isMemberName] using hname)
    · -- the namespace of the external is in its table, so that the module still takes it in
      obtain ⟨found', hfound', hprovides⟩ := hheld
      obtain rfl := Option.some.inj (hfound.symm.trans hfound')
      have hvalid := (hsound.modules id hid).stars star hstar
      have hforeign : (before.external star.external).exports.get? aggregateName =
          some record := by
        cases hprovides with
        | external external hexternal _ _ hentry =>
          obtain rfl := Target.external.inj (hsource.symm.trans hexternal)
          exact hname ▸ hentry
        | declared module _ _ hmodule => cases hsource.symm.trans hmodule
        | unnamed module hmodule => cases hsource.symm.trans hmodule
        | aggregate module hmodule => cases hsource.symm.trans hmodule
      have hforeign' : (after.external star.external).exports.has aggregateName = true := by
        rw [h.external star.external hvalid, Table.has,
          get?_exportsWithout _ (hsound.externals star.external hvalid).proper _ record hforeign
            hstays]
        rfl
      exact used_of_foreign id (h.length ▸ hid) aggregate hself' hagain star
        (hspares id hid star hstar (.inr hforeign')) record found (h.records ▸ hfound) hname
        hsource

theorem Shaken.ranked (hplain : before.PlainNames) :
    after.Ranked before.namespaceRank := by
  have hbelow : ∀ record aggregate, .through aggregate ∈ after.grounds record →
      ∃ id < before.modules.length,
        (before.module id).exports.get? aggregateName = some aggregate ∧
          ((∃ name, (name, record) ∈ (before.module id).exports ∧
              name ≠ defaultName ∧ name ≠ aggregateName) ∨
            ∃ star ∈ (before.module id).stars, ∃ found, before.records[record]? = some found ∧
              found.localName = aggregateName ∧ found.source = .external star.external) := by
    intro record aggregate hground
    obtain ⟨id, hid, hself, hheld⟩ := through_of_mem_grounds record aggregate hground
    have hid : id < before.modules.length := h.length ▸ hid
    obtain ⟨hself, -⟩ := (h.mem_exports id hid _).mp (Table.mem_of_get? _ _ _ hself)
    refine ⟨id, hid, Table.get?_of_mem _ (hsound.proper id hid) _ _ hself, ?_⟩
    rcases hheld with ⟨name, hmem, hname⟩ | ⟨star, hstar, found, hfound, hrest⟩
    · exact .inl ⟨name, ((h.mem_exports id hid _).mp hmem).1, hname⟩
    · exact .inr ⟨star, h.stars_subset id hid hstar, found, h.records ▸ hfound, hrest⟩
  constructor
  · intro record aggregate hground
    obtain ⟨id, hid, hself, hheld⟩ := hbelow record aggregate hground
    exact hplain.rank_lt hsound id hid aggregate hself record hheld
  · intro record aggregate hground
    obtain ⟨id, hid, hself, -⟩ := hbelow record aggregate hground
    obtain ⟨found, hfound, -⟩ := hplain.isAggregate hsound id hid aggregate hself
    rw [h.records]
    exact (List.getElem?_eq_some_iff.mp hfound).1

/-- All records that are left in tables are used. -/
theorem Shaken.used_of_removable (hspares : before.SparesStars after)
    (hjust : before.Just gone dropped before.Used) (record : RecordId)
    (hrecord : record ∈ after.removableRecords) : after.Used record := by
  rcases after.mem_removableRecords record hrecord with
    ⟨id, hid, hentry, entry, hmem, rfl⟩ | ⟨id, hid, entry, hmem, rfl⟩
  · have hid : id < before.modules.length := h.length ▸ hid
    have hentry : (before.module id).isEntry = false := (h.isEntry_eq id hid).symm.trans hentry
    obtain ⟨hmem, hstays⟩ := (h.mem_exports id hid entry).mp hmem
    have hstays := hstays.resolve_left (by simp [hentry])
    exact h.used hsound hspares hjust.unused entry.2
      (hjust.kept _ (before.removable_of_export id hid hentry entry hmem) hstays)
      (hsound.held_export id hid entry.2 (List.mem_map_of_mem hmem))
  · have hid : id < before.externals.length := h.externals_length ▸ hid
    obtain ⟨hmem, hstays⟩ := (h.mem_foreign id hid entry).mp hmem
    exact h.used hsound hspares hjust.unused entry.2
      (hjust.kept _ (before.removable_of_foreign id hid entry hmem) hstays)
      (hsound.held_foreign id hid entry hmem)

end

/-! ## Shaking again -/

theorem eq_of_silent {first second : Session} (h : first.silent = second.silent) :
    first = { second with journal := first.journal } :=
  congrArg (fun session : Session => { session with journal := first.journal }) h

theorem stars_shake (session : Session) (id : ModuleId) (hid : id < session.modules.length) :
    (((InSession.shake).run session).2.module id).stars =
      if (session.module id).isEntry then (session.module id).stars
      else (session.module id).stars.filter fun star =>
        (((InSession.shake).run session).2.external star.external).exports.has aggregateName := by
  have hsilent : ((InSession.shake).run session).2.silent = session.silent.relieve
      (session.verdict.idle.map Prod.fst) session.verdict.unused session.silent.modules.length :=
    InSession.performs_shake session
  have hstars := session.silent.stars_relieve_filter (session.verdict.idle.map Prod.fst)
    session.verdict.unused id hid
  rw [← hsilent] at hstars
  exact hstars

theorem sparesStars_shake (session : Session) :
    session.SparesStars ((InSession.shake).run session).2 := by
  intro id hid star hstar hspared
  rw [session.stars_shake id hid]
  split
  · exact hstar
  · rename_i hentry
    exact List.mem_filter.mpr ⟨hstar, hspared.resolve_left hentry⟩

theorem PlainNames.settled_shake {session : Session} (hplain : session.PlainNames)
    (hsound : session.Sound) : ((InSession.shake).run session).2.Settled := by
  have hjust := just_used (hplain.ranked hsound)
  have hshaken := session.shaken_shake
  have hstars := session.stars_shake
  have hspares := session.sparesStars_shake
  have hidle := (idle_verdict (hplain.ranked hsound)).1
  generalize ((InSession.shake).run session).2 = once at *
  have hranked := hshaken.ranked hsound hplain
  have hused := hshaken.used_of_removable hsound hspares hjust
  constructor
  case unused =>
    obtain ⟨final, hrests, -⟩ := once.verdict_restsOn
    refine List.eq_nil_iff_forall_not_mem.mpr fun record hrecord => ?_
    exact (just_used hranked).unused record hrecord
      (hused record (hrests.unused record hrecord).1)
  case stars =>
    intro id hid hentry star hstar
    have hid : id < session.modules.length := hshaken.length ▸ hid
    rw [hstars id hid, ← hshaken.isEntry_eq id hid, hentry] at hstar
    exact (List.mem_filter.mp hstar).2
  case programs =>
    intro id hid
    have hid : id < session.modules.length := hshaken.length ▸ hid
    rw [hshaken.program_eq id hid]
    apply Program.relieved_settled
    intro identity hidentity
    obtain ⟨binding, hbinding, hnamed⟩ := List.mem_filterMap.mp hidentity
    obtain ⟨hmember, hidle'⟩ := List.mem_filter.mp hbinding
    have hunreferenced : once.Unreferenced binding := by
      obtain ⟨module, hmodule, -, hreason⟩ :=
        (idle_verdict hranked).2 binding (by simpa using hidle')
      refine hreason.resolve_right fun ⟨hentry, record, howned, hunused⟩ =>
        hunused (hused record ?_)
      exact List.mem_append_left _ (List.mem_flatMap.mpr ⟨module,
        List.mem_filter.mpr ⟨hmodule, by simp [hentry]⟩, (List.mem_filter.mp howned).1⟩)
    rw [hshaken.bindings_eq id hid] at hmember
    have hbefore := hidle _ (session.module_mem id hid) binding hmember
      (hshaken.unreferenced binding hunreferenced)
    rw [hshaken.identity] at hnamed
    exact List.mem_filterMap.mpr ⟨binding,
      List.mem_filter.mpr ⟨hmember, by simpa using hbefore⟩, hnamed⟩

end Session

/-- Shaking once more right after shaking removes nothing and changes nothing but the journal. -/
theorem shaking_settles (options : BundleOptions) (session : Session)
    (h : session.FromBuilds options) (hplain : session.PlainNames) :
    let once := ((InSession.shake).run session).2
    let again := (InSession.shake).run once
    again.1 = ⟨0, 0⟩ ∧ again.2 = { once with journal := again.2.journal } := by
  have hsettled := (hplain.settled_shake h.sound).run_shake
  exact ⟨hsettled.1, Session.eq_of_silent hsettled.2⟩

/-- Declarations that are not used, one of which shares its pattern with one that is, an export that
is not used, and two externals that are exported whole. -/
def dusty : FileTree :=
  ⟨[(["i"], .file "import{a}from'./m';import*as n from'./k';f(a,n)".toUTF8),
    (["m"], .file ("export*from'p';export const a=1,b=2;const[c,d]=[3,4];g(d);" ++
      "function e(){}").toUTF8),
    (["k"], .file "export*from'q';export let z=1".toUTF8)], []⟩

def dustySession : Session := builtFrom dusty "i"

def dustyShaken : Session := ((InSession.shake).run dustySession).2

set_option maxRecDepth 100000 in
theorem dustySession_checked :
    dustySession.PlainNames ∧ ((InSession.shake).run dustySession).1 = ⟨2, 1⟩ ∧
      dustySession.verdict.idle.map Prod.fst = [1, 2, 4] ∧
      dustyShaken.verdict.idle.map Prod.fst = [2, 4] := by
  decide +kernel

theorem shaking_settles_dusty :
    dustySession.FromBuilds .standard ∧ dustySession.PlainNames ∧
      ((InSession.shake).run dustySession).1 = ⟨2, 1⟩ ∧
      dustyShaken.verdict.idle.map Prod.fst = [2, 4] ∧
      ((InSession.shake).run dustyShaken).1 = ⟨0, 0⟩ ∧
      ((InSession.shake).run dustyShaken).2 =
        { dustyShaken with journal := ((InSession.shake).run dustyShaken).2.journal } := by
  obtain ⟨hplain, hstats, -, hidle⟩ := dustySession_checked
  have hbuilt : dustySession.FromBuilds .standard := by
    rw [dustySession]
    exact fromBuilds_builtFrom dusty FileTree.holds_nil "i"
  have hsettles := shaking_settles .standard dustySession hbuilt hplain
  rw [← dustyShaken] at hsettles
  exact ⟨hbuilt, hplain, hstats, hidle, hsettles⟩

end ScopeHoist
