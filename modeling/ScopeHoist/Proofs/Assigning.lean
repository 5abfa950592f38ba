import ScopeHoist.Proofs.Respelling

/-!
# Names that are given out

Holders get their names one after the other. A name that is not taken keeps the holders of names
apart, and a record of a declaration is called like the declaration from then on.
-/

set_option autoImplicit false

namespace ScopeHoist

namespace Session

/-! ## One holder after the other -/

theorem nameOf_give (session : Session) (name : String) (holder other : Holder)
    (h : session.CanHold holder) :
    (session.give name holder).nameOf other =
      if other = holder then name else session.nameOf other := by
  cases holder with
  | binding id =>
    obtain ⟨binding, hbinding, -⟩ := h
    cases other with
    | binding other =>
      by_cases heq : other = id
      · subst heq
        simp [nameOf, give, setBinding, hbinding]
      · have hne : id ≠ other := fun hsame => heq hsame.symm
        simp [nameOf, give, setBinding, hne, heq]
    | value other => simp [nameOf, give, setBinding, identifier]
  | value id =>
    obtain ⟨record, hrecord, -⟩ := h
    cases other with
    | binding other => simp [nameOf, give, setRecord]
    | value other =>
      by_cases heq : other = id
      · subst heq
        simp [nameOf, give, setRecord, identifier, hrecord]
      · have hne : id ≠ other := fun hsame => heq hsame.symm
        simp [nameOf, give, setRecord, identifier, hne, heq]

/-- Some holders have names that differ from each other and from what is reserved. -/
structure Apart (start : Session) (reserved : List String) (holders : List Holder)
    (taken : List String) (session : Session) : Prop where
  respelled : start.Respelled session
  can : ∀ holder ∈ holders, start.CanHold holder
  covers : ∀ name ∈ reserved, name ∈ taken
  fresh : ∀ holder ∈ holders, session.nameOf holder ∉ reserved
  claimed : ∀ holder ∈ holders, session.nameOf holder ∈ taken
  injective : ∀ first ∈ holders, ∀ second ∈ holders,
    session.nameOf first = session.nameOf second → first = second

theorem Apart.give {start session : Session} {reserved taken : List String} {holders : List Holder}
    (h : start.Apart reserved holders taken session) (holder : Holder) (hnew : holder ∉ holders)
    (hcan : start.CanHold holder) (name : String) (hname : name ∉ taken) :
    start.Apart reserved (holder :: holders) (name :: taken) (session.give name holder) := by
  have hcan' := h.respelled.canHold holder hcan
  have hself : (session.give name holder).nameOf holder = name := by
    rw [nameOf_give _ _ _ _ hcan', if_pos rfl]
  have hother : ∀ other ∈ holders, (session.give name holder).nameOf other = session.nameOf other :=
    fun other hmem => by
      have hne : other ≠ holder := fun heq => hnew (heq ▸ hmem)
      rw [nameOf_give _ _ _ _ hcan', if_neg hne]
  have hnames : ∀ other ∈ holders, session.nameOf other ≠ name := fun other hmem heq =>
    hname (heq ▸ h.claimed other hmem)
  refine ⟨h.respelled.give name holder, fun other hmem => ?_, fun reserve hmem =>
    List.mem_cons_of_mem _ (h.covers reserve hmem), fun other hmem => ?_, fun other hmem => ?_,
    fun first hfirst second hsecond heq => ?_⟩
  · rcases List.mem_cons.mp hmem with rfl | hmem
    · exact hcan
    · exact h.can other hmem
  · rcases List.mem_cons.mp hmem with rfl | hmem
    · rw [hself]
      exact fun hreserved => hname (h.covers name hreserved)
    · rw [hother other hmem]
      exact h.fresh other hmem
  · rcases List.mem_cons.mp hmem with rfl | hmem
    · rw [hself]
      exact List.mem_cons_self
    · rw [hother other hmem]
      exact List.mem_cons_of_mem _ (h.claimed other hmem)
  · rcases List.mem_cons.mp hfirst with hself' | hold <;>
      rcases List.mem_cons.mp hsecond with hself'' | hold'
    · rw [hself', hself'']
    · rw [hself', hself, hother second hold'] at heq
      exact absurd heq.symm (hnames second hold')
    · rw [hself'', hself, hother first hold] at heq
      exact absurd heq (hnames first hold)
    · rw [hother first hold, hother second hold'] at heq
      exact h.injective first hold second hold' heq

/-- What is known after some declarations, exports of modules and externals were gone through. -/
structure Assigned (start : Session) (reserved : List String) (bindings : List BindingId)
    (exported : List (ModuleId × RecordId)) (outer : List RecordId) (holders : List Holder)
    (naming : Naming) (session : Session) : Prop where
  apart : start.Apart reserved holders naming.pool.taken session
  binding_iff : ∀ id, .binding id ∈ holders ↔ id ∈ bindings ∧ start.Alive id
  value_iff : ∀ id, .value id ∈ holders ↔ id ∈ naming.named
  gone_through : ∀ entry ∈ exported, ∀ owner ∈ (start.module entry.1).bindings, owner ∈ bindings
  exports_named : ∀ entry ∈ exported, ∀ record, start.records[entry.2]? = some record →
    record.owner = none → record.source = .module entry.1 → .value entry.2 ∈ holders
  exports_owned : ∀ entry ∈ exported, ∀ record, start.records[entry.2]? = some record →
    ∀ owner ∈ (start.module entry.1).bindings, record.owner = some owner → start.Alive owner →
      session.identifier entry.2 = session.nameOf (.binding owner)
  outer_named : ∀ id ∈ outer, .value id ∈ holders

section

variable {start session : Session} {reserved : List String} {bindings : List BindingId}
  {exported : List (ModuleId × RecordId)} {outer : List RecordId} {holders : List Holder}
  {naming : Naming}

theorem Assigned.note (h : start.Assigned reserved bindings exported outer holders naming session)
    (level : Level) (text : String) :
    start.Assigned reserved bindings exported outer holders naming (session.note level text) where
  apart := ⟨⟨h.apart.respelled.modules, h.apart.respelled.externals, h.apart.respelled.binding,
    h.apart.respelled.record⟩, h.apart.can, h.apart.covers, h.apart.fresh, h.apart.claimed,
    h.apart.injective⟩
  binding_iff := h.binding_iff
  value_iff := h.value_iff
  gone_through := h.gone_through
  exports_named := h.exports_named
  exports_owned := h.exports_owned
  outer_named := h.outer_named

theorem Assigned.skip (h : start.Assigned reserved bindings exported outer holders naming session)
    (id : BindingId) (hgone : ¬ start.Alive id) :
    start.Assigned reserved (bindings ++ [id]) exported outer holders naming session where
  apart := h.apart
  binding_iff := fun other => by
    rw [h.binding_iff, List.mem_append, List.mem_singleton]
    refine ⟨fun ⟨hmem, halive⟩ => ⟨.inl hmem, halive⟩, fun ⟨hmem, halive⟩ => ⟨?_, halive⟩⟩
    exact hmem.resolve_right fun heq => hgone (heq ▸ halive)
  value_iff := h.value_iff
  gone_through := fun entry hentry owner howner =>
    List.mem_append_left _ (h.gone_through entry hentry owner howner)
  exports_named := h.exports_named
  exports_owned := h.exports_owned
  outer_named := h.outer_named

theorem Assigned.giveBinding
    (h : start.Assigned reserved bindings exported outer holders naming session) (id : BindingId)
    (hnew : id ∉ bindings) (halive : start.Alive id) (name : String)
    (hname : name ∉ naming.pool.taken) (naming' : Naming)
    (htaken : naming'.pool.taken = name :: naming.pool.taken)
    (hnamed : naming'.named = naming.named) :
    start.Assigned reserved (bindings ++ [id]) exported outer (.binding id :: holders) naming'
      (session.give name (.binding id)) := by
  have hfresh : Holder.binding id ∉ holders := fun hmem => hnew ((h.binding_iff id).mp hmem).1
  have hcan : session.CanHold (.binding id) := h.apart.respelled.canHold _ halive
  refine ⟨htaken ▸ h.apart.give (.binding id) hfresh halive name hname, fun other => ?_,
    fun other => ?_, fun entry hentry owner howner => ?_,
    fun entry hentry record hrecord hnone hsource => ?_,
    fun entry hentry record hrecord owner hmember howner hlive => ?_, fun other hother => ?_⟩
  · rw [List.mem_cons, h.binding_iff, List.mem_append, List.mem_singleton, Holder.binding.injEq]
    constructor
    · rintro (rfl | ⟨hmem, hlive⟩)
      · exact ⟨.inr rfl, halive⟩
      · exact ⟨.inl hmem, hlive⟩
    · rintro ⟨hmem | rfl, hlive⟩
      · exact .inr ⟨hmem, hlive⟩
      · exact .inl rfl
  · rw [List.mem_cons, h.value_iff, hnamed]
    simp
  · exact List.mem_append_left _ (h.gone_through entry hentry owner howner)
  · exact List.mem_cons_of_mem _ (h.exports_named entry hentry record hrecord hnone hsource)
  · have hne : Holder.binding owner ≠ .binding id := fun heq =>
      hnew (Holder.binding.inj heq ▸ h.gone_through entry hentry owner hmember)
    rw [nameOf_give _ _ _ _ hcan, if_neg hne]
    exact (nameOf_give session name _ (.value entry.2) hcan).trans
      (h.exports_owned entry hentry record hrecord owner hmember howner hlive)
  · exact List.mem_cons_of_mem _ (h.outer_named other hother)

theorem Assigned.giveValue
    (h : start.Assigned reserved bindings exported outer holders naming session) (id : RecordId)
    (hnew : id ∉ naming.named) (hvalue : start.CanHold (.value id)) (name : String)
    (hname : name ∉ naming.pool.taken) (naming' : Naming)
    (htaken : naming'.pool.taken = name :: naming.pool.taken)
    (hnamed : naming'.named = id :: naming.named) :
    start.Assigned reserved bindings exported outer (.value id :: holders) naming'
      (session.give name (.value id)) := by
  have hfresh : Holder.value id ∉ holders := fun hmem => hnew ((h.value_iff id).mp hmem)
  have hcan : session.CanHold (.value id) := h.apart.respelled.canHold _ hvalue
  refine ⟨htaken ▸ h.apart.give (.value id) hfresh hvalue name hname, fun other => ?_,
    fun other => ?_, h.gone_through,
    fun entry hentry record hrecord hnone hsource => ?_,
    fun entry hentry record hrecord owner hmember howner hlive => ?_, fun other hother => ?_⟩
  · rw [List.mem_cons, h.binding_iff]
    simp
  · rw [List.mem_cons, h.value_iff, hnamed, List.mem_cons, Holder.value.injEq]
  · exact List.mem_cons_of_mem _ (h.exports_named entry hentry record hrecord hnone hsource)
  · have hne : Holder.value entry.2 ≠ .value id := fun heq => by
      obtain ⟨found, hfound, hnone⟩ := hvalue
      rw [← Holder.value.inj heq, hrecord] at hfound
      rw [← Option.some.inj hfound, howner] at hnone
      exact absurd hnone nofun
    rw [nameOf_give _ _ _ _ hcan, if_neg nofun]
    refine Eq.trans ?_ (h.exports_owned entry hentry record hrecord owner hmember howner hlive)
    exact (nameOf_give session name _ (.value entry.2) hcan).trans (if_neg hne)
  · exact List.mem_cons_of_mem _ (h.outer_named other hother)

theorem Assigned.export
    (h : start.Assigned reserved bindings exported outer holders naming session)
    (module : ModuleId) (id : RecordId)
    (hbindings : ∀ owner ∈ (start.module module).bindings, owner ∈ bindings)
    (hvalue : ∀ record, start.records[id]? = some record → record.owner = none →
      record.source = .module module → .value id ∈ holders)
    (howned : ∀ record, start.records[id]? = some record →
      ∀ owner ∈ (start.module module).bindings, record.owner = some owner → start.Alive owner →
        session.identifier id = session.nameOf (.binding owner)) :
    start.Assigned reserved bindings (exported ++ [(module, id)]) outer holders naming session := by
  refine ⟨h.apart, h.binding_iff, h.value_iff, fun entry hentry => ?_, fun entry hentry => ?_,
    fun entry hentry => ?_, h.outer_named⟩
  all_goals rcases List.mem_append.mp hentry with hentry | hentry
  · exact h.gone_through entry hentry
  · obtain rfl := List.mem_singleton.mp hentry
    exact hbindings
  · exact h.exports_named entry hentry
  · obtain rfl := List.mem_singleton.mp hentry
    exact hvalue
  · exact h.exports_owned entry hentry
  · obtain rfl := List.mem_singleton.mp hentry
    exact howned

theorem Assigned.copyName
    (h : start.Assigned reserved bindings exported outer holders naming session) (id : RecordId)
    (record : ExportRecord) (hrecord : start.records[id]? = some record) (owner : BindingId)
    (howner : record.owner = some owner) :
    start.Assigned reserved bindings exported outer holders naming
        (session.setRecord id fun record =>
          { record with identifier := session.nameOf (.binding owner) }) ∧
      (session.setRecord id fun record =>
        { record with identifier := session.nameOf (.binding owner) }).identifier id =
          session.nameOf (.binding owner) := by
  obtain ⟨identifier, hcurrent⟩ := h.apart.respelled.exists_record id record hrecord
  have hself : (session.setRecord id fun record =>
      { record with identifier := session.nameOf (.binding owner) }).identifier id =
        session.nameOf (.binding owner) := by
    simp [setRecord, Session.identifier, hcurrent]
  have hother : ∀ other, other ≠ id → (session.setRecord id fun record =>
      { record with identifier := session.nameOf (.binding owner) }).identifier other =
        session.identifier other := fun other hne => by
    have hne' : id ≠ other := fun heq => hne heq.symm
    simp [setRecord, Session.identifier, hne']
  have hnames : ∀ holder ∈ holders, (session.setRecord id fun record =>
      { record with identifier := session.nameOf (.binding owner) }).nameOf holder =
        session.nameOf holder := fun holder hholder => by
    cases holder with
    | binding other => rfl
    | value other =>
      refine hother other fun heq => ?_
      obtain ⟨found, hfound, hnone⟩ := h.apart.can _ hholder
      rw [heq, hrecord] at hfound
      rw [← Option.some.inj hfound, howner] at hnone
      exact absurd hnone nofun
  refine ⟨⟨⟨h.apart.respelled.setRecord id _, h.apart.can, h.apart.covers, fun holder hholder => ?_,
    fun holder hholder => ?_, fun first hfirst second hsecond heq => ?_⟩, h.binding_iff,
      h.value_iff,
    h.gone_through, h.exports_named,
    fun entry hentry found hfound other hmember hother' hlive => ?_, h.outer_named⟩, hself⟩
  · rw [hnames holder hholder]
    exact h.apart.fresh holder hholder
  · rw [hnames holder hholder]
    exact h.apart.claimed holder hholder
  · rw [hnames first hfirst, hnames second hsecond] at heq
    exact h.apart.injective first hfirst second hsecond heq
  · have hold := h.exports_owned entry hentry found hfound other hmember hother' hlive
    by_cases heq : entry.2 = id
    · rw [heq, hrecord] at hfound
      rw [← Option.some.inj hfound, howner] at hother'
      rw [heq, hself, Option.some.inj hother']
      rfl
    · rw [hother entry.2 heq]
      exact hold

end

end Session

end ScopeHoist
