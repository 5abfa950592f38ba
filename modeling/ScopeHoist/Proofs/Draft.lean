import ScopeHoist.Proofs.Providing
import ScopeHoist.Proofs.Usage

/-!
# Modules under completion

A module that is getting its interface is not stored yet, so what it declares itself is held by
nobody. Each entry of its table is borrowed from a target, is of one of its own declarations, or is
its unnamed default; once the module is stored it therefore holds all that it exports.
-/

set_option autoImplicit false

namespace ScopeHoist

namespace Session

variable (session : Session) (module : Module)

def Borrows (record : RecordId) : Prop :=
  ∃ target ∈ module.dependencyTargets, session.Supplies target record

def Owns (record : RecordId) : Prop :=
  ∃ found owner binding, session.records[record]? = some found ∧
    found.source = .module module.id ∧ found.owner = some owner ∧ owner ∈ module.bindings ∧
      session.bindings[owner]? = some binding ∧ binding.removed = false ∧
        0 < binding.usage.references

def SoundEntry (entry : String × RecordId) : Prop :=
  session.Borrows module entry.2 ∨ session.Owns module entry.2 ∨
    (entry.1 = defaultName ∧ module.unnamedDefault = some entry.2)

/-- A module that will be the next one stored. -/
structure Opened : Prop where
  id_eq : module.id = session.modules.length
  targets : ∀ target ∈ module.dependencyTargets, session.Valid target

structure SoundDraft : Prop where
  opened : session.Opened module
  uses_eq : module.uses = module.program.uses
  bindings_nodup : module.bindings.Nodup
  bindings : List.Forall₂ (session.IsBinding module) module.bindings module.program.declarations
  imports : ∀ binding ∈ module.imports, session.SoundImport module binding
  imported : (module.imports.map ImportBinding.name).Sublist module.program.importedNames
  stars : ∀ star ∈ module.stars, star.external < session.externals.length
  proper : module.exports.Proper
  entries : ∀ entry ∈ module.exports, session.SoundEntry module entry
  unnamed : ∀ record, module.unnamedDefault = some record → session.IsUnnamed module.id record
  aggregate : aggregateName ∈ module.exports.names → module.program.ExportsAggregateName
  leaves : module.unnamedDefault ≠ none →
    ∃ item ∈ module.program.items, session.LeavesUnnamed module item

end Session

namespace InSession

open Session

theorem steady_borrows (module : Module) (record : RecordId) :
    Steady fun session => session.Borrows module record := by
  rintro before after hsound hfills ⟨target, htarget, hsupplies⟩
  exact ⟨target, htarget, hfills.grows.supplies hsound target record hsupplies⟩

theorem steady_owns (module : Module) (record : RecordId) :
    Steady fun session => session.Owns module record := by
  rintro before after hsound hfills ⟨found, owner, binding, hfound, hsource, howner, hmember,
    hbinding, hrest⟩
  exact ⟨found, owner, binding, hfills.grows.record _ _ hfound, hsource, howner, hmember,
    hfills.grows.binding _ _ hbinding, hrest⟩

theorem steady_opened (module : Module) : Steady fun session => session.Opened module := by
  intro before after _ hfills hopened
  exact ⟨by rw [hfills.length]; exact hopened.id_eq,
    fun target htarget => hfills.grows.valid target (hopened.targets target htarget)⟩

theorem forall₂_bindings_lt {session : Session} {module : Module} {bindings : List BindingId}
    {declarations : List Declaration}
    (h : List.Forall₂ (session.IsBinding module) bindings declarations) (id : BindingId)
    (hid : id ∈ bindings) : id < session.bindings.length := by
  induction h with
  | nil => simp at hid
  | cons hfirst _ ih =>
    rcases List.mem_cons.mp hid with rfl | hid
    · exact (List.getElem?_eq_some_iff.mp hfirst).1
    · exact ih hid

theorem steady_draft (module : Module) : Steady fun session => session.SoundDraft module := by
  intro before after hsound hfills hdraft
  have hgrows := hfills.grows
  refine ⟨steady_opened module before after hsound hfills hdraft.opened, hdraft.uses_eq,
    hdraft.bindings_nodup, hdraft.bindings.imp (hgrows.isBinding module), fun binding hbinding =>
      hgrows.soundImport hsound module binding (hdraft.imports binding hbinding),
    hdraft.imported,
    fun star hstar => Nat.lt_of_lt_of_le (hdraft.stars star hstar) hgrows.externals_length,
    hdraft.proper, fun entry hentry => ?_,
    fun record hrecord => hgrows.isUnnamed _ record (hdraft.unnamed record hrecord),
    hdraft.aggregate, fun hdefault => ?_⟩
  · rcases hdraft.entries entry hentry with h | h | h
    · exact .inl (steady_borrows module entry.2 before after hsound hfills h)
    · exact .inr (.inl (steady_owns module entry.2 before after hsound hfills h))
    · exact .inr (.inr h)
  · obtain ⟨item, hitem, hleaves⟩ := hdraft.leaves hdefault
    exact ⟨item, hitem, LeavesUnnamed.grows hgrows module
      (forall₂_bindings_lt hdraft.bindings) item hleaves⟩

/-! ## Declarations -/

def newBindingOf (module : Module) (declaration : Declaration) : Binding :=
  ⟨declaration, declaration.name, module.id, usageOf module.uses declaration.name, false⟩

theorem run_newBindings (module : Module) (declarations : List Declaration) (session : Session) :
    (declarations.mapM fun declaration => newBinding (newBindingOf module declaration)).run session
      = (List.range' session.bindings.length declarations.length,
          { session with
            bindings := session.bindings ++ declarations.map (newBindingOf module) }) := by
  induction declarations generalizing session with
  | nil =>
    rw [List.mapM_nil, run_pure]
    simp
  | cons first rest ih =>
    have hfirst : (newBinding (newBindingOf module first)).run session = (session.bindings.length,
        { session with bindings := session.bindings ++ [newBindingOf module first] }) := by rfl
    rw [List.mapM_cons]
    simp only [run_bind, hfirst, ih, run_pure, List.length_append, List.length_nil,
      Nat.zero_add, List.length_cons, List.range'_succ, List.map_cons, List.append_assoc,
      List.singleton_append]

theorem isBinding_range' (module : Module) (declarations : List Declaration) (session : Session)
    (start : Nat)
    (h : ∀ i (hi : i < declarations.length), session.bindings[start + i]? =
      some (newBindingOf module declarations[i])) :
    List.Forall₂ (session.IsBinding module) (List.range' start declarations.length)
      declarations := by
  induction declarations generalizing start with
  | nil => exact .nil
  | cons first rest ih =>
    rw [List.length_cons, List.range'_succ]
    refine .cons ?_ (ih (start + 1) fun i hi => ?_)
    · exact h 0 (by simp)
    · have := h (i + 1) (by simpa using hi)
      rwa [List.getElem_cons_succ, ← Nat.add_assoc, Nat.add_right_comm] at this

theorem run_declareAll (module : Module) (session : Session) :
    (declareAll module).run session =
      ({ module with
          bindings := List.range' session.bindings.length module.program.declarations.length },
        { session with
          bindings := session.bindings ++
            module.program.declarations.map (newBindingOf module) }) := by
  rw [declareAll, run_bind]
  change ((pure _ : InSession Module).run (((module.program.declarations.mapM fun declaration =>
    newBinding (newBindingOf module declaration)).run session).2)) = _
  rw [run_newBindings, run_pure]
  change ({ module with bindings := (((module.program.declarations.mapM fun declaration =>
    newBinding (newBindingOf module declaration)).run session).1) }, _) = _
  rw [run_newBindings]

theorem keeps_declareAll (module : Module) (huses : module.uses = module.program.uses)
    (hexports : module.exports = []) (himports : module.imports = []) (hstars : module.stars = [])
    (hunnamed : module.unnamedDefault = none) :
    Keeps (fun session => session.Opened module) (declareAll module) fun result session =>
      session.SoundDraft result ∧ result.unnamedDefault = none := by
  intro session hsound hopened
  rw [run_declareAll]
  have hfills : session.Fills { session with
      bindings := session.bindings ++ module.program.declarations.map (newBindingOf module) } :=
    .of_same hsound rfl rfl List.prefix_rfl (List.prefix_append _ _) rfl
  refine ⟨hfills, ⟨⟨hopened.id_eq, ?_⟩, huses,
    List.nodup_range', ?_, ?_, ?_, ?_, ?_, ?_, ?_, ?_, ?_⟩, hunnamed⟩
  · exact fun target htarget => hfills.grows.valid target (hopened.targets target htarget)
  · refine isBinding_range' module _ _ _ fun i hi => ?_
    simp [hi]
  · simp [himports]
  · simp [himports]
  · simp [hstars]
  · simp only [hexports]
    exact Table.proper_nil
  · simp [hexports]
  · simp [hunnamed]
  · simp [hexports, Table.names]
  · simp [hunnamed]

end InSession

end ScopeHoist
