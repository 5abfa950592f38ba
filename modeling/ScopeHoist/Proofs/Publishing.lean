import ScopeHoist.Proofs.Interface

/-!
# What export statements publish

A published record is borrowed, of a declaration that counts as used since it is exported, or the
unnamed default of a statement that leaves its value without a name. Entering such records one
after the other keeps the draft of a module sound.
-/

set_option autoImplicit false

namespace ScopeHoist

namespace Session

variable (session : Session) (module : Module)

def Counted (id : BindingId) : Prop :=
  id ∈ module.bindings ∧ ∃ found, session.bindings[id]? = some found ∧ found.removed = false ∧
    0 < found.usage.references

def PublishedAs (name : String) (published : Published) : Prop :=
  published.isUnnamed = false ∧ published.name = name ∧
    (session.Borrows module published.record ∨ session.Owns module published.record)

def PublishedUnnamed (item : Item) (published : Published) : Prop :=
  published.isUnnamed = true ∧ published.name = defaultName ∧
    session.IsUnnamed module.id published.record ∧ session.LeavesUnnamed module item

def SoundPublished (item : Item) (published : Published) : Prop :=
  (∃ name, session.PublishedAs module name published ∧
    (name ∈ item.exportedNames ∨ name = defaultName)) ∨
    session.PublishedUnnamed module item published

variable {session module}

theorem SoundDraft.counted (h : session.SoundDraft module) (item : Item)
    (hitem : item ∈ module.program.items) (id : Ident) (hid : id ∈ item.exportedIdents)
    (binding : BindingId) (hbinding : module.bindingOf? session id = some binding) :
    session.Counted module binding ∧
      ∃ found, session.bindings[binding]? = some found ∧
        found.usage = usageOf module.program.uses id.name := by
  obtain ⟨hmember, found, hfound, hidentity⟩ := bindingOf?_spec module session id binding hbinding
  obtain ⟨i, hi, rfl⟩ := List.getElem_of_mem hmember
  have hlength := h.bindings.length_eq
  have hstored : session.IsBinding module module.bindings[i] module.program.declarations[i] :=
    (List.forall₂_iff_get.mp h.bindings).2 i hi (by omega)
  rw [IsBinding, hfound] at hstored
  obtain rfl := Option.some.inj hstored
  obtain ⟨hname, hscope⟩ := Identity.mk.inj hidentity
  have husage := references_pos_of_exported module.program item hitem id hid hscope.symm
  simp only at hname
  refine ⟨⟨hmember, _, hfound, rfl, ?_⟩, _, hfound, ?_⟩
  · rw [hname, h.uses_eq]
    exact husage
  · rw [hname, h.uses_eq]

end Session

namespace InSession

open Session

theorem steady_publishedAs (module : Module) (name : String) (published : Published) :
    Steady fun session => session.PublishedAs module name published := by
  rintro before after hsound hfills ⟨hkind, hname, hrecord⟩
  exact ⟨hkind, hname, hrecord.imp (steady_borrows module _ before after hsound hfills)
    (steady_owns module _ before after hsound hfills)⟩

theorem steady_all {α : Type} {property : α → Session → Prop} (h : ∀ a, Steady (property a))
    (values : List α) : Steady fun session => ∀ a ∈ values, property a session :=
  fun before after hsound hfills hall a ha => h a before after hsound hfills (hall a ha)

theorem run_publishBinding (module : Module) (name : String) (id : BindingId) (session : Session)
    (found : Binding) (hfound : session.bindings[id]? = some found) :
    (publishBinding module name id).run session =
      ([⟨name, session.records.length, false⟩], session.addRecord
        ⟨found.declaration.name, found.name, .module module.id, some id, none⟩) := by
  simp only [publishBinding, run_bind, run_get, hfound, run_newRecord, run_pure]
  rfl

theorem run_publishUnnamed (module : Module) (session : Session) :
    (publishUnnamed module).run session =
      ([⟨defaultName, session.records.length, true⟩], session.addRecord
        ⟨defaultName, module.path.identifierName, .module module.id, none, none⟩) := by
  simp only [publishUnnamed, run_bind, run_newRecord, run_pure]
  rfl

theorem keeps_publishBinding (module : Module) (name : String) (id : BindingId) :
    Keeps (fun session => session.SoundDraft module ∧ session.Counted module id)
      (publishBinding module name id)
      fun result session => ∀ published ∈ result, session.PublishedAs module name published := by
  intro session hsound ⟨hdraft, hcounted⟩
  obtain ⟨hmember, found, hfound, hkept, hreferences⟩ := hcounted
  rw [run_publishBinding module name id session found hfound]
  refine ⟨session.fills_addRecord hsound _, fun published hpublished => ?_⟩
  obtain rfl := List.mem_singleton.mp hpublished
  exact ⟨rfl, rfl, .inr ⟨_, id, found, session.addRecord_get? _, rfl, rfl, hmember, hfound, hkept,
    hreferences⟩⟩

theorem keeps_publishUnnamed (module : Module) (item : Item) :
    Keeps (fun session => session.SoundDraft module ∧ session.LeavesUnnamed module item)
      (publishUnnamed module)
      fun result session => ∀ published ∈ result,
        session.PublishedUnnamed module item published := by
  intro session hsound ⟨hdraft, hleaves⟩
  rw [run_publishUnnamed]
  have hfills := session.fills_addRecord hsound
    ⟨defaultName, module.path.identifierName, .module module.id, none, none⟩
  refine ⟨hfills, fun published hpublished => ?_⟩
  obtain rfl := List.mem_singleton.mp hpublished
  exact ⟨rfl, rfl, ⟨_, session.addRecord_get? _, rfl, rfl, rfl⟩,
    LeavesUnnamed.grows hfills.grows module (forall₂_bindings_lt hdraft.bindings) item hleaves⟩

theorem keeps_publishFound (module : Module) (item : Item) (hitem : item ∈ module.program.items)
    (id : Ident) (hid : id ∈ item.exportedIdents) (before : Session) (binding : BindingId)
    (hbinding : module.bindingOf? before id = some binding) (name : String) :
    Keeps (fun session => session = before ∧ session.SoundDraft module)
      (publishBinding module name binding)
      fun result session => ∀ published ∈ result, session.PublishedAs module name published := by
  refine keeps_weaken (keeps_publishBinding module name binding) (fun session hpre => ?_)
    fun _ _ hpost => hpost
  obtain ⟨rfl, hdraft⟩ := hpre
  exact ⟨hdraft, (hdraft.counted item hitem id hid binding hbinding).1⟩

theorem keeps_publishDeclared (module : Module) (item : Item) (hitem : item ∈ module.program.items)
    (ids : List Ident) (hids : ∀ id ∈ ids, id ∈ item.exportedIdents) :
    Keeps (fun session => session.SoundDraft module) (publishDeclared module ids)
      fun result session => ∀ published ∈ result, ∃ id ∈ ids,
        session.PublishedAs module id.name published := by
  refine keeps_bind (steady_draft module) (keeps_mapM (steady_draft module)
    (fun id result => steady_all (steady_publishedAs module id.name) result) ids
    fun id hid => keeps_get fun before => ?_)
    fun results => keeps_pure fun session _ hpre published hpublished =>
      forall₂_flatten hpre.2 published hpublished
  cases hbinding : module.bindingOf? before id with
  | some binding =>
    exact keeps_publishFound module item hitem id (hids id hid) before binding hbinding id.name
  | none => exact keeps_pure fun _ _ _ => by simp

theorem borrows_import? {session : Session} {module : Module} (h : session.SoundDraft module)
    (identity : Identity) (binding : ImportBinding)
    (hbinding : module.import? identity = some binding)
    (record : RecordId) (hrecord : binding.resolved = some record) :
    session.Borrows module record := by
  have hsound := h.imports binding (List.mem_of_find?_eq_some hbinding)
  exact ⟨binding.target, hsound.target, hsound.resolved record hrecord⟩

theorem keeps_publishLocal (module : Module) (item : Item) (hitem : item ∈ module.program.items)
    (name : String) (id : Ident) (hid : id ∈ item.exportedIdents) :
    Keeps (fun session => session.SoundDraft module) (publishLocal module name id)
      fun result session => ∀ published ∈ result, session.PublishedAs module name published := by
  refine keeps_get fun before => ?_
  cases hbinding : module.bindingOf? before id with
  | some binding =>
    exact keeps_publishFound module item hitem id hid before binding hbinding name
  | none =>
    cases himport : module.import? id.identity with
    | some binding =>
      refine keeps_pure fun session _ hpre published hpublished => ?_
      simp only [Option.mem_toList, Option.map_eq_some_iff] at hpublished
      obtain ⟨record, hrecord, rfl⟩ := hpublished
      exact ⟨rfl, rfl, .inl (borrows_import? hpre.2 _ binding himport record hrecord)⟩
    | none =>
      exact keeps_weaken (keeps_bind (steady_const True)
        (keeps_note _ _) fun _ => keeps_pure fun _ _ _ => by simp) (fun _ _ => trivial)
        fun _ _ hpost => hpost

theorem keeps_publishSpecifier (module : Module) (item : Item)
    (hitem : item ∈ module.program.items) (specifier : ExportSpecifier)
    (hids : ∀ id ∈ specifier.originIdents, id ∈ item.exportedIdents) :
    Keeps (fun session => session.SoundDraft module) (publishSpecifier module specifier)
      fun result session => ∀ published ∈ result,
        session.PublishedAs module specifier.namePair.2 published := by
  have hnone : Keeps (fun session => session.SoundDraft module)
      (pure [] : InSession (List Published))
      fun result session => ∀ published ∈ result,
        session.PublishedAs module specifier.namePair.2 published :=
    keeps_pure fun _ _ _ => by simp
  cases specifier with
  | aggregate exported span => exact hnone
  | named origin exported span =>
    cases origin with
    | ident id =>
      exact keeps_publishLocal module item hitem _ id (hids id List.mem_cons_self)
    | text quotation => exact hnone

theorem keeps_publishFrom (module : Module) (target : Target)
    (htarget : target ∈ module.dependencyTargets) (source : String)
    (specifier : ExportSpecifier) :
    Keeps (fun session => session.SoundDraft module) (publishFrom module target source specifier)
      fun result session => ∀ published ∈ result,
        session.PublishedAs module specifier.namePair.2 published := by
  refine keeps_bind (steady_draft module) (keeps_weaken (keeps_request module target source _ _)
    (fun session hdraft => hdraft.opened.targets target htarget) fun _ _ hpost => hpost)
    fun result => keeps_pure fun session _ hpre published hpublished => ?_
  simp only [Option.mem_toList, Option.map_eq_some_iff] at hpublished
  obtain ⟨record, hrecord, rfl⟩ := hpublished
  exact ⟨rfl, rfl, .inl ⟨target, htarget, hpre.2 record hrecord⟩⟩

/-! ## Default exports -/

theorem keeps_named (module : Module) (item : Item) (name : String)
    (hname : name ∈ item.exportedNames ∨ name = defaultName) (pre : Session → Prop)
    (action : InSession (List Published))
    (h : Keeps pre action fun result session => ∀ published ∈ result,
      session.PublishedAs module name published) :
    Keeps pre action fun result session => ∀ published ∈ result,
      session.SoundPublished module item published :=
  keeps_weaken h (fun _ hpre => hpre) fun _ _ hall published hpublished =>
    .inl ⟨name, hall published hpublished, hname⟩

theorem keeps_unnamed (module : Module) (item : Item) (pre : Session → Prop)
    (h : ∀ session, pre session →
      session.SoundDraft module ∧ session.LeavesUnnamed module item) :
    Keeps pre (publishUnnamed module) fun result session => ∀ published ∈ result,
      session.SoundPublished module item published :=
  keeps_weaken (keeps_publishUnnamed module item) h fun _ _ hall published hpublished =>
    .inr (hall published hpublished)

theorem keeps_publishDefaultDecl (module : Module) (decl : Tree) (span : Span)
    (hitem : .exportDefaultDecl decl span ∈ module.program.items) :
    Keeps (fun session => session.SoundDraft module) (publishDefaultDecl module decl)
      fun result session => ∀ published ∈ result,
        session.SoundPublished module (.exportDefaultDecl decl span) published := by
  unfold publishDefaultDecl
  cases hhead : (declaredIdents decl).head? with
  | none =>
    refine keeps_unnamed module _ _ fun session hdraft => ⟨hdraft, fun id hid => ?_⟩
    rw [hhead] at hid
    exact absurd hid nofun
  | some id =>
    refine keeps_get fun before => ?_
    cases hbinding : module.bindingOf? before id with
    | some binding =>
      exact keeps_named module _ defaultName (.inr rfl) _ _
        (keeps_publishFound module _ hitem id (List.mem_of_mem_head? hhead) before binding
          hbinding defaultName)
    | none =>
      refine keeps_unnamed module _ _ fun session hpre => ⟨hpre.2, fun other hother => ?_⟩
      rw [hhead] at hother
      obtain rfl := Option.some.inj hother
      rw [hpre.1]
      exact hbinding

theorem keeps_publishDefault (module : Module) (value : Tree) (span : Span)
    (hitem : .exportDefault value span ∈ module.program.items) :
    Keeps (fun session => session.SoundDraft module) (publishDefault module value)
      fun result session => ∀ published ∈ result,
        session.SoundPublished module (.exportDefault value span) published := by
  cases value with
  | node form span' children =>
    exact keeps_unnamed module _ _ fun session hdraft => ⟨hdraft, trivial⟩
  | ident id =>
    refine keeps_get fun before => ?_
    cases hbinding : module.bindingOf? before id with
    | some binding =>
      by_cases hassigned :
        ((before.bindings[binding]?).map (·.usage.reassignments)).getD 0 = 0
      · simp only [hassigned, beq_self_eq_true, if_true]
        exact keeps_named module _ defaultName (.inr rfl) _ _
          (keeps_publishFound module _ hitem id List.mem_cons_self before binding hbinding
            defaultName)
      · simp only [beq_iff_eq, hassigned, if_false]
        refine keeps_unnamed module _ _ fun session hpre => ⟨hpre.2, fun other hother => ?_, ?_⟩
        · rw [hpre.1, hbinding] at hother
          obtain rfl := Option.some.inj hother
          cases hfound : before.bindings[binding]? with
          | none => simp [hfound] at hassigned
          | some found =>
            rw [hpre.1]
            exact ⟨found, hfound, by simpa [hfound] using hassigned⟩
        · rw [hpre.1, hbinding]
          exact nofun
    | none =>
      cases himport : (module.import? id.identity).bind ImportBinding.resolved with
      | some record =>
        refine keeps_pure fun session _ hpre published hpublished => ?_
        obtain rfl := List.mem_singleton.mp hpublished
        obtain ⟨binding, hbinding, hrecord⟩ := Option.bind_eq_some_iff.mp himport
        exact .inl ⟨defaultName, ⟨rfl, rfl, .inl
          (borrows_import? hpre.2 _ binding hbinding record hrecord)⟩, .inr rfl⟩
      | none =>
        refine keeps_unnamed module _ _ fun session hpre => ⟨hpre.2, fun other hother => ?_,
          fun _ => himport⟩
        rw [hpre.1, hbinding] at hother
        exact absurd hother nofun

/-! ## All export statements -/

/-- What an item publishes into a draft that is sound. -/
def PublishesItem (module : Module) (item : Item) (result : List Published)
    (session : Session) : Prop :=
  session.SoundDraft module ∧ ∀ published ∈ result, session.SoundPublished module item published

theorem steady_publishesItem (module : Module) (item : Item) (result : List Published) :
    Steady (PublishesItem module item result) := by
  intro before after hsound hfills ⟨hdraft, hall⟩
  refine ⟨steady_draft module before after hsound hfills hdraft, fun published hpublished => ?_⟩
  rcases hall published hpublished with ⟨name, hnamed, hname⟩ | ⟨hkind, hname, hunnamed, hleaves⟩
  · exact .inl ⟨name, steady_publishedAs module name published before after hsound hfills hnamed,
      hname⟩
  · exact .inr ⟨hkind, hname, hfills.grows.isUnnamed _ _ hunnamed,
      LeavesUnnamed.grows hfills.grows module (forall₂_bindings_lt hdraft.bindings) item hleaves⟩

theorem keeps_publishedBy (module : Module) (item : Item) (hitem : item ∈ module.program.items) :
    Keeps (fun session => session.SoundDraft module) (publishedBy module item)
      (PublishesItem module item) := by
  refine keeps_and_pre (steady_draft module) ?_
  have hnone : Keeps (fun session => session.SoundDraft module)
      (pure [] : InSession (List Published))
      fun result session => ∀ published ∈ result,
        session.SoundPublished module item published :=
    keeps_pure fun _ _ _ => by simp
  cases item with
  | exportDecl decl span =>
    refine keeps_weaken (keeps_publishDeclared module _ hitem (declaredIdents decl)
      fun _ hid => hid) (fun _ hdraft => hdraft) fun _ _ hall published hpublished => ?_
    obtain ⟨id, hid, hnamed⟩ := hall published hpublished
    exact .inl ⟨id.name, hnamed, .inl (List.mem_map_of_mem hid)⟩
  | exportList specifiers span =>
    refine keeps_bind (steady_draft module) (keeps_mapM (steady_draft module)
      (fun specifier result => steady_all (steady_publishedAs module specifier.namePair.2) result)
      specifiers fun specifier hspecifier => keeps_publishSpecifier module _ hitem specifier
        fun id hid => List.mem_flatMap.mpr ⟨specifier, hspecifier, hid⟩)
      fun results => keeps_pure fun session _ hpre published hpublished => ?_
    obtain ⟨specifier, hspecifier, hnamed⟩ := forall₂_flatten hpre.2 published hpublished
    exact .inl ⟨_, hnamed, .inl (List.mem_map_of_mem
      (f := fun specifier => specifier.namePair.2) hspecifier)⟩
  | exportFrom specifiers source span =>
    simp only [publishedBy]
    cases htarget : module.target? source.value with
    | none => exact hnone
    | some target =>
      refine keeps_bind (steady_draft module) (keeps_mapM (steady_draft module)
        (fun specifier result =>
          steady_all (steady_publishedAs module specifier.namePair.2) result)
        specifiers fun specifier _ => keeps_publishFrom module target
          (target?_mem module _ target htarget) source.value specifier)
        fun results => keeps_pure fun session _ hpre published hpublished => ?_
      obtain ⟨specifier, hspecifier, hnamed⟩ := forall₂_flatten hpre.2 published hpublished
      exact .inl ⟨_, hnamed, .inl (List.mem_map_of_mem
        (f := fun specifier => specifier.namePair.2) hspecifier)⟩
  | exportDefaultDecl decl span => exact keeps_publishDefaultDecl module decl span hitem
  | exportDefault value span => exact keeps_publishDefault module value span hitem
  | _ => exact hnone

theorem aggregateName_ne_defaultName : aggregateName ≠ defaultName := by decide

theorem draft_publish {session : Session} {module : Module} (h : session.SoundDraft module)
    (item : Item) (hitem : item ∈ module.program.items) (published : Published)
    (hpublished : session.SoundPublished module item published) :
    session.SoundDraft (module.publish published) := by
  have himports : ∀ binding ∈ (module.publish published).imports,
      session.SoundImport (module.publish published) binding := fun binding hbinding =>
    ⟨(h.imports binding hbinding).target, (h.imports binding hbinding).references,
      (h.imports binding hbinding).resolved⟩
  have hmem := Table.mem_insert module.exports h.proper published.name published.record
  have hproper := Table.proper_insert module.exports h.proper published.name published.record
  have haggregate : (published.name = aggregateName →
      module.program.ExportsAggregateName) →
      aggregateName ∈ (module.publish published).exports.names →
        module.program.ExportsAggregateName := by
    intro hname hmem
    rcases (Table.mem_names_insert _ _ _ _).mp hmem with heq | hold
    · exact hname heq.symm
    · exact h.aggregate hold
  rcases hpublished with ⟨name, ⟨hkind, rfl, hrecord⟩, hname⟩ | ⟨hkind, hname, hunnamed, hleaves⟩
  · have hdefault : (module.publish published).unnamedDefault = module.unnamedDefault := by
      simp [Module.publish, hkind]
    refine ⟨⟨h.opened.id_eq, h.opened.targets⟩, h.uses_eq, h.bindings_nodup, h.bindings, himports,
      h.imported, h.stars, hproper, fun entry hentry => ?_, ?_, haggregate fun heq => ?_, ?_⟩
    · rcases (hmem entry).mp hentry with rfl | ⟨hold, -⟩
      · exact hrecord.imp_right .inl
      · rcases h.entries entry hold with hborrows | howns | ⟨hkey, hentry⟩
        · exact .inl hborrows
        · exact .inr (.inl howns)
        · exact .inr (.inr ⟨hkey, hdefault ▸ hentry⟩)
    · rw [hdefault]
      exact h.unnamed
    · rcases hname with hname | hname
      · exact ⟨item, hitem, heq ▸ hname⟩
      · exact absurd (heq.symm.trans hname) aggregateName_ne_defaultName
    · rw [hdefault]
      exact h.leaves
  · have hdefault : (module.publish published).unnamedDefault = some published.record := by
      simp [Module.publish, hkind]
    refine ⟨⟨h.opened.id_eq, h.opened.targets⟩, h.uses_eq, h.bindings_nodup, h.bindings, himports,
      h.imported, h.stars, hproper, fun entry hentry => ?_, ?_, haggregate fun heq => ?_, ?_⟩
    · rcases (hmem entry).mp hentry with rfl | ⟨hold, hne⟩
      · exact .inr (.inr ⟨hname, hdefault⟩)
      · rcases h.entries entry hold with hborrows | howns | ⟨hkey, -⟩
        · exact .inl hborrows
        · exact .inr (.inl howns)
        · exact absurd (hkey.trans hname.symm) hne
    · intro record hrecord
      rw [hdefault] at hrecord
      obtain rfl := Option.some.inj hrecord
      exact hunnamed
    · exact absurd (heq.symm.trans hname) aggregateName_ne_defaultName
    · exact fun _ => ⟨item, hitem, hleaves⟩

theorem draft_foldl_publish {session : Session} (published : List Published) (module : Module)
    (h : session.SoundDraft module)
    (hall : ∀ entry ∈ published, ∃ item ∈ module.program.items,
      session.SoundPublished module item entry) :
    session.SoundDraft (published.foldl Module.publish module) := by
  induction published generalizing module with
  | nil => exact h
  | cons first rest ih =>
    obtain ⟨item, hitem, hfirst⟩ := hall first List.mem_cons_self
    exact ih _ (draft_publish h item hitem first hfirst) fun entry hentry =>
      hall entry (List.mem_cons_of_mem _ hentry)

theorem keeps_publishAll (module : Module) :
    Keeps (fun session => session.SoundDraft module) (publishAll module)
      fun result session => session.SoundDraft result := by
  refine keeps_bind (steady_draft module) (keeps_mapM (steady_draft module)
    (steady_publishesItem module) module.program.items
    fun item hitem => keeps_publishedBy module item hitem)
    fun results => keeps_pure fun session _ hpre => ?_
  obtain ⟨hdraft, hall⟩ := hpre
  exact draft_foldl_publish _ module hdraft fun entry hentry =>
    forall₂_flatten (hall.imp fun _ _ h => h.2) entry hentry

/-! ## Completion -/

/-- What is left to do for a module with its declarations and the names from `export *`. -/
def connect (module : Module) : InSession Module := do
  let module ← importAll module
  let module ← publishAll module
  note .debug (completionRemark module)
  return module

theorem keeps_connect (module : Module) (hunnamed : module.unnamedDefault = none) :
    Keeps (fun session => session.SoundDraft module) (connect module)
      fun result session => session.SoundDraft result := by
  refine keeps_bind (steady_draft module) (keeps_importAll module hunnamed) fun imported => ?_
  refine keeps_weaken (keeps_bind (steady_draft imported) (keeps_publishAll imported)
    fun published => ?_) (fun _ hpre => hpre.2) fun _ _ hpost => hpost
  refine keeps_weaken (keeps_bind (steady_draft published) (keeps_note _ _)
    fun _ => keeps_pure fun _ _ hpre => hpre.1) (fun _ hpre => hpre.2) fun _ _ hpost => hpost

theorem keeps_complete (module : Module) (hexports : module.exports = [])
    (himports : module.imports = []) (hstars : module.stars = [])
    (hunnamed : module.unnamedDefault = none) :
    Keeps (fun session => session.Opened module) (complete module) fun result session =>
      session.SoundDraft result := by
  have hdeclare := keeps_declareAll { module with uses := module.program.uses } rfl hexports
    himports hstars hunnamed
  change Keeps _ (declareAll { module with uses := module.program.uses } >>= fun declared =>
    get >>= fun session => connect (declared.withStars session)) _
  refine keeps_bind (steady_opened module) (keeps_weaken hdeclare
    (fun session hopened => ⟨hopened.id_eq, hopened.targets⟩) fun _ _ hpost => hpost)
    fun declared => keeps_get fun before session hsound hpre => ?_
  obtain ⟨rfl, -, hdraft, hnone⟩ := hpre
  exact keeps_connect _ (Session.withStars_unnamedDefault.trans hnone) session hsound
    (draft_withStars hsound hdraft)

end InSession

end ScopeHoist
