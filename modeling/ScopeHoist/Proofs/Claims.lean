import ScopeHoist.Proofs.Naming
import ScopeHoist.Proofs.Stars

/-!
# Who claims which name

Naming asks one holder after the other: in each module its declarations that are left, then its
values without a declaration, and last what externals hand out. A holder wishes to be called as in
the source, and all of them together get what one pool gives out for their wishes. Nobody else gets
another name, but for records that are called like their declarations.
-/

set_option autoImplicit false

namespace ScopeHoist

namespace NamePool

def after (pool : NamePool) (bases : List String) : NamePool :=
  ⟨(pool.claimAll bases).reverse ++ pool.taken⟩

@[simp] theorem after_nil (pool : NamePool) : pool.after [] = pool := rfl

theorem after_cons (pool : NamePool) (base : String) (rest : List String) :
    pool.after (base :: rest) = (pool.claim base).2.after rest := by
  simp [after, claimAll]

theorem claimAll_concat (pool : NamePool) (bases : List String) (base : String) :
    pool.claimAll (bases ++ [base]) = pool.claimAll bases ++ [(pool.after bases).choose base] := by
  induction bases generalizing pool with
  | nil => rfl
  | cons first rest ih =>
    rw [List.cons_append, claimAll, ih, claimAll, after_cons, List.cons_append]

theorem after_concat (pool : NamePool) (bases : List String) (base : String) :
    (pool.after (bases ++ [base])).taken =
      (pool.after bases).choose base :: (pool.after bases).taken := by
  simp [after, claimAll_concat]

theorem choose_cases (pool : NamePool) (base : String) :
    pool.choose base = base ∨ ∃ k, pool.choose base = numbered base k := by
  unfold choose
  split
  · obtain ⟨k, -, hname, -, -⟩ := firstFree_least pool.taken base 1
    exact .inr ⟨k, hname⟩
  · exact .inl rfl

theorem claimAll_forall₂ (pool : NamePool) (bases : List String) :
    List.Forall₂ (fun base name => name = base ∨ ∃ k, name = numbered base k) bases
      (pool.claimAll bases) := by
  induction bases generalizing pool with
  | nil => exact .nil
  | cons base rest ih => exact .cons (pool.choose_cases base) (ih _)

end NamePool

namespace Session

/-! ## Holders in the order in which they are asked -/

def wish (session : Session) : Holder → String
  | .binding id => ((session.bindings[id]?).map fun binding => binding.declaration.name).getD ""
  | .value id => stem (session.identifier id)

def isLeft (session : Session) (id : BindingId) : Bool :=
  (session.bindings[id]?).any fun binding => !binding.removed

/-- Whether a record is of a value of a module that has no declaration. -/
def isOwn (session : Session) (module : ModuleId) (id : RecordId) : Bool :=
  (session.records[id]?).any fun record => record.owner.isNone && record.source == .module module

/-- The records that naming goes through in a module. -/
def exportedBy (session : Session) (module : ModuleId) : List RecordId :=
  (session.module module).exports.values ++ (session.module module).unnamedDefault.toList

def moduleHolders (session : Session) (module : ModuleId) : List Holder :=
  ((session.module module).bindings.filter session.isLeft).map .binding ++
    ((session.exportedBy module).filter (session.isOwn module)).map .value

def outerHolders (session : Session) : List Holder :=
  (session.externals.flatMap fun external => external.exports.values).map .value

/-- All that are asked, each once. -/
def holders (session : Session) (order : List ModuleId) : List Holder :=
  (order.flatMap session.moduleHolders ++ session.outerHolders).foldl addNew []

theorem isLeft_iff (session : Session) (id : BindingId) :
    session.isLeft id = true ↔ session.Alive id := by
  unfold isLeft Alive
  cases session.bindings[id]? <;> simp

theorem isOwn_iff (session : Session) (module : ModuleId) (id : RecordId) :
    session.isOwn module id = true ↔ ∃ record, session.records[id]? = some record ∧
      record.owner = none ∧ record.source = .module module := by
  unfold isOwn
  cases session.records[id]? <;> simp

theorem Bears.mem_holders {session : Session} {order : List ModuleId} {holder : Holder}
    (h : session.Bears order holder) : holder ∈ session.holders order := by
  refine (mem_foldl_addNew _ _ _).mpr (.inr (List.mem_append.mpr ?_))
  cases holder with
  | binding id =>
    obtain ⟨halive, module, hmodule, hmember⟩ := h
    exact .inl (List.mem_flatMap.mpr ⟨module, hmodule, List.mem_append_left _
      (List.mem_map_of_mem (List.mem_filter.mpr ⟨hmember, (session.isLeft_iff id).mpr halive⟩))⟩)
  | value id =>
    obtain ⟨record, hrecord, howner,
      ⟨module, hmodule, hsource, hentry⟩ | ⟨external, hexternal, hid⟩⟩ := h
    · refine .inl (List.mem_flatMap.mpr ⟨module, hmodule, List.mem_append_right _
        (List.mem_map_of_mem (List.mem_filter.mpr ⟨?_,
          (session.isOwn_iff module id).mpr ⟨record, hrecord, howner, hsource⟩⟩))⟩)
      exact List.mem_append.mpr (hentry.imp_right fun hdefault => by simp [hdefault])
    · exact .inr (List.mem_map_of_mem (List.mem_flatMap.mpr
        ⟨_, session.external_mem external hexternal, hid⟩))

/-! ## What is told to those asked -/

/-- The state of a naming when some holders were told their names, and some exports were gone
through. -/
structure Told (start : Session) (reserved : List String) (asked : List Holder)
    (passed : List RecordId) (naming : Naming) (session : Session) : Prop where
  respelled : start.Respelled session
  can : ∀ holder ∈ asked, start.CanHold holder
  taken : naming.pool.taken = (NamePool.after ⟨reserved⟩ (asked.map start.wish)).taken
  names : asked.map session.nameOf = NamePool.claimAll ⟨reserved⟩ (asked.map start.wish)
  value_iff : ∀ id, .value id ∈ asked ↔ id ∈ naming.named
  binding_eq : ∀ id : BindingId, .binding id ∉ asked → session.bindings[id]? = start.bindings[id]?
  record_eq : ∀ (id : RecordId) record, start.records[id]? = some record → .value id ∉ asked →
    (record.owner ≠ none → id ∉ passed) → session.records[id]? = some record

section

variable {start session : Session} {reserved : List String} {asked : List Holder}
  {passed : List RecordId} {naming : Naming}

theorem told_start (start : Session) (reserved : List String) (renamed : Nat) :
    start.Told reserved [] [] ⟨⟨reserved⟩, [], renamed⟩ start :=
  ⟨.refl start, by simp, rfl, rfl, by simp, fun _ _ => rfl, fun _ _ h _ _ => h⟩

theorem Told.note (h : start.Told reserved asked passed naming session) (level : Level)
    (text : String) : start.Told reserved asked passed naming (session.note level text) :=
  ⟨⟨h.respelled.modules, h.respelled.externals, h.respelled.binding, h.respelled.record⟩, h.can,
    h.taken, h.names, h.value_iff, h.binding_eq, h.record_eq⟩

theorem Told.give (h : start.Told reserved asked passed naming session) (holder : Holder)
    (hnew : holder ∉ asked) (hcan : start.CanHold holder) (naming' : Naming)
    (htaken : naming'.pool.taken = naming.pool.choose (start.wish holder) :: naming.pool.taken)
    (hnamed : ∀ id, id ∈ naming'.named ↔ .value id = holder ∨ id ∈ naming.named) :
    start.Told reserved (asked ++ [holder]) passed naming'
      (session.give (naming.pool.choose (start.wish holder)) holder) := by
  have hcan' := h.respelled.canHold holder hcan
  have hpool : naming.pool = NamePool.after ⟨reserved⟩ (asked.map start.wish) :=
    congrArg NamePool.mk h.taken
  have hold : ∀ other ∈ asked, (session.give (naming.pool.choose (start.wish holder)) holder).nameOf
      other = session.nameOf other := fun other hother => by
    have hne : other ≠ holder := fun heq => hnew (heq ▸ hother)
    rw [nameOf_give _ _ _ _ hcan', if_neg hne]
  refine ⟨h.respelled.give _ holder, fun other hother => ?_, ?_, ?_, fun id => ?_, fun id hid => ?_,
    fun id record hrecord hid hpassed => ?_⟩
  · rcases List.mem_append.mp hother with hother | hother
    · exact h.can other hother
    · exact List.mem_singleton.mp hother ▸ hcan
  · rw [htaken, List.map_append, List.map_singleton, NamePool.after_concat, hpool]
  · rw [List.map_append, List.map_append, List.map_singleton, List.map_singleton,
      NamePool.claimAll_concat, ← hpool, List.map_congr_left hold, h.names,
      nameOf_give _ _ _ _ hcan', if_pos rfl]
  · rw [hnamed, List.mem_append, List.mem_singleton, h.value_iff, or_comm]
  · rw [List.mem_append, List.mem_singleton, not_or] at hid
    rw [← h.binding_eq id hid.1]
    cases holder with
    | binding other =>
      have hne : other ≠ id := fun heq => hid.2 (heq ▸ rfl)
      simp [Session.give, setBinding, hne]
    | value other => rfl
  · rw [List.mem_append, List.mem_singleton, not_or] at hid
    rw [← h.record_eq id record hrecord hid.1 hpassed]
    cases holder with
    | binding other => rfl
    | value other =>
      have hne : other ≠ id := fun heq => hid.2 (heq ▸ rfl)
      simp [Session.give, setRecord, hne]

theorem Told.pass (h : start.Told reserved asked passed naming session) (id : RecordId) :
    start.Told reserved asked (passed ++ [id]) naming session :=
  { h with
    record_eq := fun other record hrecord hother hpassed =>
      h.record_eq other record hrecord hother fun howner hmem =>
        hpassed howner (List.mem_append_left _ hmem) }

theorem Told.copyName (h : start.Told reserved asked passed naming session) (id : RecordId)
    (record : ExportRecord) (hrecord : start.records[id]? = some record)
    (howner : record.owner ≠ none) (name : String) :
    start.Told reserved asked (passed ++ [id]) naming
      (session.setRecord id fun record => { record with identifier := name }) := by
  have hvalue : Holder.value id ∉ asked := fun hmem => by
    obtain ⟨found, hfound, hnone⟩ := h.can _ hmem
    rw [hrecord] at hfound
    exact howner (Option.some.inj hfound ▸ hnone)
  have hold : ∀ holder ∈ asked, (session.setRecord id fun record =>
      { record with identifier := name }).nameOf holder = session.nameOf holder :=
    fun holder hholder => by
      cases holder with
      | binding other => rfl
      | value other =>
        have hne : id ≠ other := fun heq => hvalue (heq ▸ hholder)
        simp [nameOf, setRecord, identifier, hne]
  refine ⟨h.respelled.setRecord id name, h.can, h.taken, ?_, h.value_iff, h.binding_eq,
    fun other found hfound hother hpassed => ?_⟩
  · rw [List.map_congr_left hold, h.names]
  · have hne : id ≠ other := fun heq => by
      subst heq
      rw [hrecord] at hfound
      exact hpassed (Option.some.inj hfound ▸ howner) (List.mem_append_right _ List.mem_cons_self)
    have hsame := h.record_eq other found hfound hother fun hsome hmem =>
      hpassed hsome (List.mem_append_left _ hmem)
    simpa [setRecord, hne] using hsame

/-- A holder is called as it wishes, or so with a number behind. -/
theorem Told.nameOf_cases (h : start.Told reserved asked passed naming session) (holder : Holder)
    (hasked : holder ∈ asked) :
    session.nameOf holder = start.wish holder ∨
      ∃ k, session.nameOf holder = numbered (start.wish holder) k := by
  have hall := NamePool.claimAll_forall₂ ⟨reserved⟩ (asked.map start.wish)
  rw [← h.names, List.forall₂_map_left_iff, List.forall₂_map_right_iff, List.forall₂_same] at hall
  exact hall holder hasked

end

end Session

namespace InNaming

open Session

variable {start : Session} {reserved : List String} {asked : List Holder} {passed : List RecordId}

theorem unnoted_told : Unnoted (start.Told reserved asked passed) :=
  fun _ _ level text h => h.note level text

theorem tells_nameBinding (path : Path) (id : BindingId) (hnew : .binding id ∉ asked) :
    Yields (start.Told reserved asked passed) (nameBinding path id)
      fun _ => start.Told reserved
        ((([id].filter start.isLeft).map .binding).foldl addNew asked) passed := by
  apply yields_nameBinding unnoted_told
  case hgone =>
    intro naming session h hgone
    have hgone : ¬ start.isLeft id = true := fun hleft =>
      hgone (h.respelled.canHold (.binding id) ((start.isLeft_iff id).mp hleft))
    rwa [List.filter_cons_of_neg hgone]
  case hnamed =>
    intro naming session binding h hbinding hkept
    have halive : start.Alive id :=
      h.respelled.symm.canHold (.binding id) ⟨binding, hbinding, hkept⟩
    have hwish : start.wish (.binding id) = binding.declaration.name := by
      obtain ⟨name, hstart⟩ := h.respelled.symm.exists_binding id binding hbinding
      simp [wish, hstart]
    have hasked : (([id].filter start.isLeft).map Holder.binding).foldl addNew asked =
        asked ++ [.binding id] := by
      rw [List.filter_cons_of_pos ((start.isLeft_iff id).mpr halive), List.filter_nil,
        List.map_singleton, List.foldl_cons, List.foldl_nil, addNew,
        if_neg (mt List.contains_iff_mem.mp hnew)]
    rw [hasked, ← hwish]
    exact h.give (.binding id) hnew halive _ rfl fun other => by simp [Naming.claimed]

theorem tells_nameValue (id : RecordId) (current : String) (hvalue : start.CanHold (.value id))
    (hwish : .value id ∉ asked → stem current = start.wish (.value id)) :
    Yields (start.Told reserved asked passed) (nameValue id current)
      fun _ => start.Told reserved (addNew asked (.value id)) passed := by
  apply yields_nameValue unnoted_told
  case hknown =>
    intro naming session h hmem
    rwa [addNew, if_pos (List.contains_iff_mem.mpr ((h.value_iff id).mpr hmem))]
  case hnamed =>
    intro naming session h hfresh
    have hnew : Holder.value id ∉ asked := mt (h.value_iff id).mp hfresh
    rw [addNew, if_neg (mt List.contains_iff_mem.mp hnew), hwish hnew]
    exact h.give (.value id) hnew hvalue _ rfl fun other => by
      simp [Naming.claimed, Naming.marked]

theorem wish_of_told {naming : Naming} {session : Session}
    (h : start.Told reserved asked passed naming session) (id : RecordId) (record : ExportRecord)
    (hfound : session.records[id]? = some record) (howner : record.owner = none)
    (hnew : .value id ∉ asked) : stem record.identifier = start.wish (.value id) := by
  obtain ⟨identifier, hstart⟩ := h.respelled.symm.exists_record id record hfound
  have hsame := h.record_eq id _ hstart hnew fun hsome => absurd howner hsome
  rw [hfound] at hsame
  have heq : record.identifier = identifier :=
    congrArg ExportRecord.identifier (Option.some.inj hsame)
  simp [wish, Session.identifier, hstart, heq]

theorem tells_nameExport (module : ModuleId) (id : RecordId) :
    Yields (start.Told reserved asked passed) (nameExport module id)
      fun _ => start.Told reserved
        ((([id].filter (start.isOwn module)).map .value).foldl addNew asked) (passed ++ [id]) := by
  have hother : start.isOwn module id = false →
      ([id].filter (start.isOwn module)).map Holder.value = [] := fun hother => by
    simp [hother]
  apply yields_nameExport
  case hmissing =>
    intro naming session h hmissing
    rw [hother ?_]
    · exact h.pass id
    rw [← Bool.not_eq_true, start.isOwn_iff]
    rintro ⟨record, hrecord, -⟩
    obtain ⟨identifier, hafter⟩ := h.respelled.exists_record id record hrecord
    exact absurd (hmissing.symm.trans hafter) nofun
  case howned =>
    intro naming session record owner h hrecord howner
    obtain ⟨identifier, hstart⟩ := h.respelled.symm.exists_record id record hrecord
    rw [hother (by simp [isOwn, hstart, howner])]
    exact h.copyName id _ hstart (by simp [howner]) _
  case hforeign =>
    intro naming session record h hrecord howner hsource
    obtain ⟨identifier, hstart⟩ := h.respelled.symm.exists_record id record hrecord
    rw [hother (by simpa [isOwn, hstart, howner] using hsource)]
    exact h.pass id
  case hvalue =>
    intro naming session record h hrecord howner hsource
    obtain ⟨identifier, hstart⟩ := h.respelled.symm.exists_record id record hrecord
    have hown : start.isOwn module id = true :=
      (start.isOwn_iff module id).mpr ⟨_, hstart, howner, hsource⟩
    rw [List.filter_cons_of_pos hown]
    exact yields_weaken (yields_state (tells_nameValue id record.identifier ⟨_, hstart, howner⟩
      (wish_of_told h id record hrecord howner)) h) (fun _ _ h => h) fun _ _ _ h => h.pass id

theorem tells_nameExternal (id : RecordId) (hvalue : start.CanHold (.value id)) :
    Yields (start.Told reserved asked passed) (nameExternal id)
      fun _ => start.Told reserved (addNew asked (.value id)) passed := by
  apply yields_nameExternal
  case hmissing =>
    intro naming session h hmissing
    obtain ⟨record, hrecord, -⟩ := h.respelled.canHold (.value id) hvalue
    exact absurd (hmissing.symm.trans hrecord) nofun
  case hvalue =>
    intro naming session record h hrecord
    obtain ⟨found, hfound, howner⟩ := h.respelled.canHold (.value id) hvalue
    obtain rfl := Option.some.inj (hfound.symm.trans hrecord)
    exact yields_state (tells_nameValue id found.identifier hvalue
      (wish_of_told h id found hrecord howner)) h

theorem tells_nameBindings (path : Path) (bindings : List BindingId) (hnodup : bindings.Nodup)
    (hnew : ∀ id ∈ bindings, .binding id ∉ asked) :
    Yields (start.Told reserved asked passed) (bindings.forM (nameBinding path)) fun _ =>
      start.Told reserved (((bindings.filter start.isLeft).map .binding).foldl addNew asked)
        passed := by
  refine yields_forM (fun done =>
    start.Told reserved (((done.filter start.isLeft).map .binding).foldl addNew asked) passed)
    _ bindings fun done id rest heq => ?_
  rw [List.filter_append, List.map_append, List.foldl_append]
  refine tells_nameBinding _ id fun hmem => ?_
  rcases (mem_foldl_addNew _ _ _).mp hmem with hmem | hmem
  · exact hnew id (by simp [heq]) hmem
  · obtain ⟨other, hother, hsame⟩ := List.mem_map.mp hmem
    rw [heq, List.nodup_append] at hnodup
    exact hnodup.2.2 other (List.mem_filter.mp hother).1 id List.mem_cons_self
      (Holder.binding.inj hsame)

theorem tells_nameExports (module : ModuleId) (exported : List RecordId) :
    Yields (start.Told reserved asked passed) (exported.forM (nameExport module)) fun _ =>
      start.Told reserved (((exported.filter (start.isOwn module)).map .value).foldl addNew asked)
        (passed ++ exported) := by
  have hall := yields_forM (fun done =>
    start.Told reserved (((done.filter (start.isOwn module)).map .value).foldl addNew asked)
      (passed ++ done)) (nameExport module) exported fun done id rest heq => by
      rw [List.filter_append, List.map_append, List.foldl_append, ← List.append_assoc]
      exact tells_nameExport module id
  rwa [List.append_nil] at hall

theorem tells_nameModule (module : ModuleId) (hnodup : (start.module module).bindings.Nodup)
    (hnew : ∀ id ∈ (start.module module).bindings, .binding id ∉ asked) :
    Yields (start.Told reserved asked passed) (nameModule module)
      fun _ => start.Told reserved ((start.moduleHolders module).foldl addNew asked)
        (passed ++ start.exportedBy module) := by
  rw [moduleHolders, List.foldl_append]
  exact yields_nameModule module (start.module module)
    (fun naming session h => h.respelled.module module) (tells_nameBindings _ _ hnodup hnew)
    (tells_nameExports module _)

end InNaming

/-- The names of a bundle are what a pool gives out for the wishes of all holders, one after the
other. -/
theorem Session.told_assignNames (session source : Session) (order : List ModuleId)
    (h : Linkable source session order) :
    ∃ naming, session.Told (session.reservedNames order) (session.holders order)
      (order.flatMap session.exportedBy) naming ((InSession.assignNames order).run session).2 := by
  rw [holders, List.foldl_append]
  refine InNaming.yields_assignNames session order (session.told_start _ 0)
    (InNaming.yields_forM (fun done => session.Told (session.reservedNames order)
      ((done.flatMap session.moduleHolders).foldl addNew []) (done.flatMap session.exportedBy)) _
        order fun done id rest heq => ?_)
    (InNaming.yields_forM (fun done => session.Told (session.reservedNames order)
      ((done.map Holder.value).foldl addNew ((order.flatMap session.moduleHolders).foldl addNew []))
        (order.flatMap session.exportedBy)) _ _ fun done id rest heq => ?_)
    InNaming.unnoted_told
  · have hvalid := h.order.valid id (by simp [heq])
    rw [List.flatMap_append, List.flatMap_append, List.flatMap_singleton, List.flatMap_singleton,
      List.foldl_append]
    refine InNaming.tells_nameModule id (h.bindings_nodup id hvalid) fun binding hbinding hmem => ?_
    obtain ⟨other, hother, hmem⟩ := List.mem_flatMap.mp
      (((mem_foldl_addNew _ _ _).mp hmem).resolve_left List.not_mem_nil)
    refine h.bindings_new heq other hother binding hbinding ?_
    rcases List.mem_append.mp hmem with hmem | hmem
    · obtain ⟨found, hfound, hsame⟩ := List.mem_map.mp hmem
      obtain rfl := Holder.binding.inj hsame
      exact (List.mem_filter.mp hfound).1
    · obtain ⟨_, -, hsame⟩ := List.mem_map.mp hmem
      exact absurd hsame nofun
  · rw [List.map_append, List.foldl_append]
    exact InNaming.tells_nameExternal id (session.canHold_outer h.externals id (by simp [heq]))

end ScopeHoist
