import ScopeHoist.Proofs.Assigning
import ScopeHoist.Proofs.NameCases
import ScopeHoist.Proofs.Pool

/-!
# Names are assigned apart

Naming claims a name for one holder after the other. So no two of them are called the same, none is
called like what is reserved, and whatever is exported is called like its declaration.
-/

set_option autoImplicit false

namespace ScopeHoist

namespace InNaming

open Session

/-! ## What naming keeps -/

section

variable {start : Session} {reserved : List String} {bindings : List BindingId}
  {exported : List (ModuleId × RecordId)} {outer : List RecordId}

/-- A state in which some declarations, exports and externals were gone through. -/
def Reached (start : Session) (reserved : List String) (bindings : List BindingId)
    (exported : List (ModuleId × RecordId)) (outer : List RecordId) (naming : Naming)
    (session : Session) : Prop :=
  ∃ holders, start.Assigned reserved bindings exported outer holders naming session

theorem unnoted_reached : Unnoted (Reached start reserved bindings exported outer) :=
  fun _ _ level text h => h.imp fun _ hassigned => hassigned.note level text

theorem reached_nameBinding (path : Path) (id : BindingId) (hnew : id ∉ bindings) :
    Yields (Reached start reserved bindings exported outer) (nameBinding path id)
      fun _ => Reached start reserved (bindings ++ [id]) exported outer := by
  apply yields_nameBinding unnoted_reached
  case hgone =>
    rintro naming session ⟨holders, h⟩ hgone
    exact ⟨holders, h.skip id fun halive =>
      hgone (h.apart.respelled.canHold (.binding id) halive)⟩
  case hnamed =>
    rintro naming session binding ⟨holders, h⟩ hbinding hkept
    have halive : start.Alive id :=
      h.apart.respelled.symm.canHold (.binding id) ⟨binding, hbinding, hkept⟩
    exact ⟨_, h.giveBinding id hnew halive _ (naming.pool.choose_not_mem _) _ rfl rfl⟩

theorem reached_nameValue (id : RecordId) (current : String)
    (hvalue : start.CanHold (.value id)) :
    Yields (Reached start reserved bindings exported outer) (nameValue id current)
      fun _ naming session => ∃ holders, start.Assigned reserved bindings exported outer holders
        naming session ∧ .value id ∈ holders := by
  apply yields_nameValue unnoted_reached
  case hknown =>
    rintro naming session ⟨holders, h⟩ hmem
    exact ⟨holders, h, (h.value_iff id).mpr hmem⟩
  case hnamed =>
    rintro naming session ⟨holders, h⟩ hfresh
    exact ⟨_, h.giveValue id hfresh hvalue _ (naming.pool.choose_not_mem _) _ rfl rfl,
      List.mem_cons_self⟩

theorem reached_nameExternal (id : RecordId) (hvalue : start.CanHold (.value id)) :
    Yields (Reached start reserved bindings exported outer) (nameExternal id)
      fun _ => Reached start reserved bindings exported (outer ++ [id]) := by
  apply yields_nameExternal
  case hmissing =>
    rintro naming session ⟨holders, h⟩ hmissing
    obtain ⟨record, hrecord, -⟩ := h.apart.respelled.canHold (.value id) hvalue
    exact absurd (hmissing.symm.trans hrecord) nofun
  case hvalue =>
    intro naming session record hreached hrecord
    refine yields_weaken (yields_state (reached_nameValue id record.identifier hvalue) hreached)
      (fun _ _ h => h) fun _ naming session ⟨holders, h, hmem⟩ => ⟨holders, ?_⟩
    refine { h with outer_named := fun other hother => ?_ }
    rcases List.mem_append.mp hother with hother | hother
    · exact h.outer_named other hother
    · exact List.mem_singleton.mp hother ▸ hmem

theorem reached_nameExport (module : ModuleId) (id : RecordId)
    (hbindings : ∀ owner ∈ (start.module module).bindings, owner ∈ bindings) :
    Yields (Reached start reserved bindings exported outer) (nameExport module id)
      fun _ => Reached start reserved bindings (exported ++ [(module, id)]) outer := by
  apply yields_nameExport
  case hmissing =>
    rintro naming session ⟨holders, h⟩ hmissing
    have hnone : ∀ record, start.records[id]? ≠ some record := fun record hrecord => by
      obtain ⟨identifier, hafter⟩ := h.apart.respelled.exists_record id record hrecord
      exact absurd (hmissing.symm.trans hafter) nofun
    exact ⟨holders, h.export module id hbindings
      (fun record hrecord => absurd hrecord (hnone record))
      fun record hrecord => absurd hrecord (hnone record)⟩
  case howned =>
    rintro naming session record owner ⟨holders, h⟩ hrecord howner
    obtain ⟨identifier, hstart⟩ := h.apart.respelled.symm.exists_record id record hrecord
    obtain ⟨hassigned, hself⟩ := h.copyName id _ hstart owner howner
    refine ⟨holders, hassigned.export module id hbindings (fun found hfound hnone _ => ?_)
      fun found hfound other _ hother _ => ?_⟩
    all_goals obtain rfl := Option.some.inj (hstart.symm.trans hfound)
    · exact absurd (howner.symm.trans hnone) nofun
    · rw [← Option.some.inj (howner.symm.trans hother)]
      exact hself
  case hforeign =>
    rintro naming session record ⟨holders, h⟩ hrecord howner hsource
    obtain ⟨identifier, hstart⟩ := h.apart.respelled.symm.exists_record id record hrecord
    refine ⟨holders, h.export module id hbindings (fun found hfound _ heq => ?_)
      fun found hfound other _ hother _ => ?_⟩
    all_goals obtain rfl := Option.some.inj (hstart.symm.trans hfound)
    · exact absurd heq hsource
    · exact absurd (howner.symm.trans hother) nofun
  case hvalue =>
    rintro naming session record ⟨first, h⟩ hrecord howner -
    obtain ⟨identifier, hstart⟩ := h.apart.respelled.symm.exists_record id record hrecord
    refine yields_weaken (yields_state
      (reached_nameValue id record.identifier ⟨_, hstart, howner⟩) ⟨first, h⟩) (fun _ _ h => h)
        fun _ naming session ⟨holders, h, hmem⟩ => ⟨holders, ?_⟩
    refine h.export module id hbindings (fun _ _ _ _ => hmem)
      fun found hfound other _ hother _ => ?_
    obtain rfl := Option.some.inj (hstart.symm.trans hfound)
    exact absurd (howner.symm.trans hother) nofun

theorem reached_nameModule (module : ModuleId) (hnodup : (start.module module).bindings.Nodup)
    (hnew : ∀ id ∈ (start.module module).bindings, id ∉ bindings) :
    Yields (Reached start reserved bindings exported outer) (nameModule module)
      fun _ => Reached start reserved (bindings ++ (start.module module).bindings)
        (exported ++ ((start.module module).exports.values ++
          (start.module module).unnamedDefault.toList).map (module, ·)) outer := by
  have hbindings := yields_forM (fun done =>
    Reached start reserved (bindings ++ done) exported outer)
    (nameBinding (start.module module).path) (start.module module).bindings
    fun done id rest heq => by
      rw [← List.append_assoc]
      refine reached_nameBinding _ id fun hmem => ?_
      have hmember : id ∈ (start.module module).bindings := by simp [heq]
      rcases List.mem_append.mp hmem with hmem | hmem
      · exact hnew id hmember hmem
      · rw [heq, List.nodup_append] at hnodup
        exact hnodup.2.2 id hmem id List.mem_cons_self rfl
  have hexports := yields_forM (fun done =>
    Reached start reserved (bindings ++ (start.module module).bindings)
      (exported ++ done.map (module, ·)) outer) (nameExport module)
    ((start.module module).exports.values ++ (start.module module).unnamedDefault.toList)
    fun done id rest heq => by
      rw [List.map_append, ← List.append_assoc]
      exact reached_nameExport module id fun owner howner => List.mem_append_right _ howner
  rw [List.append_nil] at hbindings
  rw [List.map_nil, List.append_nil] at hexports
  exact yields_nameModule module (start.module module)
    (fun naming session ⟨holders, h⟩ => h.apart.respelled.module module) hbindings hexports

end

end InNaming

namespace Session

/-- Whether a holder needs a name in the program of an order. -/
def Bears (session : Session) (order : List ModuleId) : Holder → Prop
  | .binding id => session.Alive id ∧ ∃ module ∈ order, id ∈ (session.module module).bindings
  | .value id => ∃ record, session.records[id]? = some record ∧ record.owner = none ∧
    ((∃ module ∈ order, record.source = .module module ∧
      (id ∈ (session.module module).exports.values ∨
        (session.module module).unnamedDefault = some id)) ∨
      ∃ external < session.externals.length, id ∈ (session.external external).exports.values)

/-- All names that are needed are there. -/
structure Distinct (session : Session) (order : List ModuleId) : Prop where
  fresh : ∀ holder, session.Bears order holder →
    session.nameOf holder ∉ session.reservedNames order
  injective : ∀ first, session.Bears order first → ∀ second, session.Bears order second →
    session.nameOf first = session.nameOf second → first = second
  owned : ∀ module ∈ order, ∀ id ∈ (session.module module).exports.values, ∀ record,
    session.records[id]? = some record → ∀ owner ∈ (session.module module).bindings,
      record.owner = some owner → session.Alive owner →
        session.identifier id = session.nameOf (.binding owner)

theorem reached_start (session : Session) (reserved : List String) (renamed : Nat) :
    InNaming.Reached session reserved [] [] [] ⟨⟨reserved⟩, [], renamed⟩ session :=
  ⟨[], ⟨.refl session, by simp, fun _ h => h, by simp, by simp, by simp⟩, by simp, by simp, by simp,
    by simp, by simp, by simp⟩

theorem Linkable.bindings_new {source session : Session} {order done rest : List ModuleId}
    {id : ModuleId} (h : Linkable source session order) (heq : order = done ++ id :: rest)
    (other : ModuleId) (hother : other ∈ done) (binding : BindingId)
    (hbinding : binding ∈ (session.module id).bindings) :
    binding ∉ (session.module other).bindings := by
  intro hmem
  have hsame := h.bindings_apart other (h.order.valid other (by simp [heq, hother])) id
    (h.order.valid id (by simp [heq])) binding hmem hbinding
  have hnodup := h.order.nodup
  rw [heq, List.nodup_append] at hnodup
  exact hnodup.2.2 other hother id List.mem_cons_self hsame

/-- Naming goes through the declarations and exports of an order, and through all externals. -/
theorem reached_assignNames (session source : Session) (order : List ModuleId)
    (h : Linkable source session order) :
    ∃ naming, InNaming.Reached session (session.reservedNames order)
      (order.flatMap fun id => (session.module id).bindings)
      (order.flatMap fun id => ((session.module id).exports.values ++
        (session.module id).unnamedDefault.toList).map (id, ·))
      (session.externals.flatMap fun external => external.exports.values) naming
      ((InSession.assignNames order).run session).2 := by
  refine InNaming.yields_assignNames session order (reached_start session _ 0)
    (InNaming.yields_forM (fun done => InNaming.Reached session
      (session.reservedNames order) (done.flatMap fun id => (session.module id).bindings)
      (done.flatMap fun id => ((session.module id).exports.values ++
        (session.module id).unnamedDefault.toList).map (id, ·)) []) _ order
      fun done id rest heq => ?_)
    (InNaming.yields_forM (InNaming.Reached session
      (session.reservedNames order) (order.flatMap fun id => (session.module id).bindings)
      (order.flatMap fun id => ((session.module id).exports.values ++
        (session.module id).unnamedDefault.toList).map (id, ·))) _ _ fun done id rest heq => ?_)
    InNaming.unnoted_reached
  · rw [List.flatMap_append, List.flatMap_append, List.flatMap_singleton, List.flatMap_singleton]
    refine InNaming.reached_nameModule id (h.bindings_nodup id (h.order.valid id (by simp [heq])))
      fun binding hbinding hmem => ?_
    obtain ⟨other, hother, hmem⟩ := List.mem_flatMap.mp hmem
    exact h.bindings_new heq other hother binding hbinding hmem
  · exact InNaming.reached_nameExternal id (session.canHold_outer h.externals id (by simp [heq]))

theorem linked_assignNames (session source : Session) (order : List ModuleId)
    (h : Linkable source session order) :
    let linked := ((InSession.assignNames order).run session).2
    Linkable source linked order ∧ linked.Distinct order ∧ session.Respelled linked := by
  obtain ⟨naming, holders, hassigned⟩ := session.reached_assignNames source order h
  generalize ((InSession.assignNames order).run session).2 = linked at hassigned
  have hrespelled := hassigned.apart.respelled
  have hbears : ∀ holder, linked.Bears order holder → holder ∈ holders := by
    intro holder hholder
    cases holder with
    | binding id =>
      obtain ⟨halive, module, hmodule, hmember⟩ := hholder
      rw [hrespelled.module] at hmember
      exact (hassigned.binding_iff id).mpr ⟨List.mem_flatMap.mpr ⟨module, hmodule, hmember⟩,
        hrespelled.symm.canHold (.binding id) halive⟩
    | value id =>
      obtain ⟨record, hrecord, howner,
        ⟨module, hmodule, hsource, hentry⟩ | ⟨external, hexternal, hid⟩⟩
        := hholder
      · obtain ⟨identifier, hbefore⟩ := hrespelled.symm.exists_record id record hrecord
        refine hassigned.exports_named (module, id) (List.mem_flatMap.mpr ⟨module, hmodule,
          List.mem_map_of_mem ?_⟩) _ hbefore howner hsource
        rw [hrespelled.module] at hentry
        exact List.mem_append.mpr (hentry.imp_right fun hdefault => by simp [hdefault])
      · rw [hrespelled.external] at hid
        rw [hrespelled.externals] at hexternal
        exact hassigned.outer_named id
          (List.mem_flatMap.mpr ⟨_, session.external_mem external hexternal, hid⟩)
  have hreserved : linked.reservedNames order = session.reservedNames order := by
    simp only [reservedNames, hrespelled.module]
  refine ⟨hrespelled.linkable source order h, ⟨fun holder hholder => ?_,
    fun first hfirst second hsecond heq => ?_,
    fun module hmodule id hid record hrecord owner hmember howner halive => ?_⟩, hrespelled⟩
  · rw [hreserved]
    exact hassigned.apart.fresh holder (hbears holder hholder)
  · exact hassigned.apart.injective first (hbears first hfirst) second (hbears second hsecond) heq
  · obtain ⟨identifier, hbefore⟩ := hrespelled.symm.exists_record id record hrecord
    rw [hrespelled.module] at hid hmember
    exact hassigned.exports_owned (module, id) (List.mem_flatMap.mpr ⟨module, hmodule,
      List.mem_map_of_mem (List.mem_append_left _ hid)⟩) _ hbefore owner hmember howner
      (hrespelled.symm.canHold (.binding owner) halive)

end Session

end ScopeHoist
