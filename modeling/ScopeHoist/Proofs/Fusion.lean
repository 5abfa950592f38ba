import ScopeHoist.Proofs.Origins

/-!
# No two values share a name

Every origin stands for one holder of a name, and different origins for different ones. So two
declarations of one name in the outermost scope of a program come from the same declaration of the
same module, unless one of them strayed: it is spelled with a name that is not the one claimed for
it, or a module declares several values in the place of one.
-/

set_option autoImplicit false

namespace ScopeHoist

def Item.isDefault : Item → Bool
  | .exportDefaultDecl _ _ | .exportDefault _ _ => true
  | _ => false

def Program.DefaultsOnce (program : Program) : Prop :=
  program.items.Pairwise fun first second => ¬ (first.isDefault = true ∧ second.isDefault = true)

theorem Item.isDefault_withoutIdle (unused : List Identity) (item rest : Item)
    (h : item.withoutIdle unused = some rest) : rest.isDefault = item.isDefault := by
  cases item with
  | statement tree | exportDecl decl span =>
    obtain ⟨tree', -, rfl⟩ := Option.map_eq_some_iff.mp h
    rfl
  | exportDefaultDecl decl span =>
    obtain ⟨-, hkept⟩ := Option.ite_none_left_eq_some.mp h
    exact Option.some.inj hkept ▸ rfl
  | _ =>
    obtain rfl := Option.some.inj h
    rfl

theorem Program.DefaultsOnce.relieved (unused : List Identity) (program : Program)
    (h : program.DefaultsOnce) : (program.relieved unused).DefaultsOnce := by
  unfold Program.relieved
  split
  · exact h
  · refine List.pairwise_filterMap.mpr (h.imp fun hnot rest hrest rest' hrest' hboth => hnot ?_)
    rwa [← Item.isDefault_withoutIdle unused _ rest hrest,
      ← Item.isDefault_withoutIdle unused _ rest' hrest']

def Origin.isDeclaration : Origin → Bool
  | .declaration _ _ => true
  | _ => false

def ExportRecord.origin (record : ExportRecord) : Origin :=
  match record.source with
  | .external id => .external id record.localName
  | .module id => if record.localName = aggregateName then .aggregate id else .unnamedDefault id

namespace Session

/-- How a declaration can come to have a name that was not claimed for it alone. -/
inductive Stray (built linked : Session) : Origin → Prop
  /-- The binding was removed, but not with all of its declarations. -/
  | outlived (module : ModuleId) (binding : BindingId) (found : Binding)
      (hmember : binding ∈ (linked.module module).bindings)
      (hbinding : linked.bindings[binding]? = some found) (hremoved : found.removed = true) :
      Stray built linked (.declaration module found.identity)
  /-- The module imports what it declares. -/
  | imported (module : ModuleId) (identity : Identity)
      (himported : identity ∈ importIdentities (linked.module module)) :
      Stray built linked (.declaration module identity)
  /-- Scope resolution has the declaration elsewhere than at the top level of the module. -/
  | misplaced (module : ModuleId) (identity : Identity) (hscope : identity.scope ≠ .module) :
      Stray built linked (.declaration module identity)
  /-- The module writes the name of namespace objects as that of an export. -/
  | starred (module : ModuleId) (hstarred : (built.module module).program.ExportsAggregateName) :
      Stray built linked (.aggregate module)
  /-- The module has several default exports. -/
  | repeated (module : ModuleId) (hrepeated : ¬ (built.module module).program.DefaultsOnce) :
      Stray built linked (.unnamedDefault module)

/-- What an origin declares. -/
inductive Declares (session : Session) : Origin → Holder → Prop
  | external (id : ExternalId) (imported : String) (record : RecordId)
      (hvalid : id < session.externals.length)
      (hentry : (imported, record) ∈ (session.external id).exports) :
      Declares session (.external id imported) (.value record)
  | declaration (module : ModuleId) (binding : BindingId) (found : Binding)
      (hmember : binding ∈ (session.module module).bindings)
      (hbinding : session.bindings[binding]? = some found) :
      Declares session (.declaration module found.identity) (.binding binding)
  | unnamedDefault (module : ModuleId) (record : RecordId)
      (hdefault : session.IsUnnamed module record) :
      Declares session (.unnamedDefault module) (.value record)
  | aggregate (module : ModuleId) (record : RecordId)
      (haggregate : session.IsAggregate module record) :
      Declares session (.aggregate module) (.value record)

section

variable {built linked : Session} {order : List ModuleId}

/-! ## Spellings of declarations -/

theorem Linkable.spelling_binding (h : Linkable built linked order) (module : ModuleId)
    (hmodule : module < linked.modules.length) (binding : BindingId)
    (hmember : binding ∈ (linked.module module).bindings) (found : Binding)
    (hbinding : linked.bindings[binding]? = some found) (hkept : found.removed = false)
    (himported : found.identity ∉ importIdentities (linked.module module)) :
    linked.spelling (linked.module module) found.identity = found.name := by
  have hkey : found.identity ∈ (linked.topLevelRenames (linked.module module)).map Prod.fst := by
    rw [topLevelRenames_keys, mem_survivingIdentities]
    exact .inl ⟨binding, hmember, found, hbinding, hkept, rfl⟩
  have hmem := mem_of_mem_lastNames _ _ (spelling_of_key linked _ _ hkey)
  rcases List.mem_append.mp hmem with hmem | hmem
  · obtain ⟨other, hother, hfound⟩ := List.mem_filterMap.mp hmem
    split at hfound
    · rename_i found' hbinding'
      split at hfound
      · exact absurd hfound nofun
      · obtain ⟨hidentity, hname⟩ := Prod.mk.inj (Option.some.inj hfound)
        have hsame := h.bindings_unique module hmodule other hother binding hmember
          (by rw [hbinding', hbinding, Option.map_some, Option.map_some, hidentity])
        rw [hsame, hbinding] at hbinding'
        rw [← hname, Option.some.inj hbinding']
    · exact absurd hfound nofun
  · obtain ⟨import', himport, heq⟩ := List.mem_map.mp hmem
    exact absurd (List.mem_map.mpr ⟨import', himport, congrArg Prod.fst heq⟩) himported

/-! ## Holders of origins -/

theorem mem_importedEntries (external : External) (entry : String × RecordId)
    (h : entry ∈ external.importedEntries) : entry ∈ external.exports := by
  have hwhole : ∀ name, entry ∈ ((external.exports.get? name).toList.map fun record =>
      (name, record)) → entry ∈ external.exports := by
    intro name hmem
    obtain ⟨record, hrecord, rfl⟩ := List.mem_map.mp hmem
    exact Table.mem_of_get? _ _ _ (by simpa using hrecord)
  unfold External.importedEntries at h
  dsimp only at h
  split at h <;> simp only [List.mem_append] at h
  all_goals
    rcases h with (h | h) | h
    all_goals first
      | exact hwhole _ h
      | exact (List.mem_filter.mp h).1

theorem named_of_mem_externalOrigins (h : Linkable built linked order) (entry : Origin × String)
    (hentry : entry ∈ linked.externalOrigins) :
    ∃ holder, linked.Declares entry.1 holder ∧ linked.Bears order holder ∧
      entry.2 = linked.nameOf holder := by
  obtain ⟨id, hid, hmem⟩ := List.mem_flatMap.mp hentry
  obtain ⟨⟨imported, record⟩, himported, rfl⟩ := List.mem_map.mp hmem
  have hvalid := List.mem_range.mp hid
  have hexports := mem_importedEntries _ _ himported
  obtain ⟨found, hfound, -, -, howner⟩ := (h.externals id hvalid).entries _ hexports
  exact ⟨.value record, .external id imported record hvalid hexports,
    ⟨found, hfound, howner, .inr ⟨id, hvalid, List.mem_map_of_mem hexports⟩⟩, rfl⟩

theorem named_of_mem_itemOrigins (h : Linkable built linked order) (module : ModuleId)
    (hmodule : module ∈ order) (item : Item) (hitem : item ∈ (linked.module module).program.items)
    (entry : Origin × String) (hentry : entry ∈ linked.itemOrigins module item) :
    Stray built linked entry.1 ∨ ∃ holder, linked.Declares entry.1 holder ∧
      linked.Bears order holder ∧ entry.2 = linked.nameOf holder := by
  have hvalid := h.order.valid module hmodule
  have hdeclared : ∀ ident ∈ item.topLevel, item.importedNames = [] →
      entry = (.declaration module ident.identity,
        linked.spelling (linked.module module) ident.identity) →
      Stray built linked entry.1 ∨ ∃ holder, linked.Declares entry.1 holder ∧
        linked.Bears order holder ∧ entry.2 = linked.nameOf holder := by
    rintro ident hident hnone rfl
    obtain ⟨kind, hoccurs⟩ := (item.topLevel_occur ident hident).resolve_left (by simp [hnone])
    by_cases hscope : ident.scope = .module
    · obtain ⟨binding, hmember, hidentity⟩ := h.declared module hvalid _
        (List.mem_flatMap.mpr ⟨item, hitem, hoccurs⟩) kind rfl hscope
      obtain ⟨found, hbinding, hsame⟩ := Option.map_eq_some_iff.mp hidentity
      by_cases himported : found.identity ∈ importIdentities (linked.module module)
      · exact .inl (hsame ▸ .imported module _ himported)
      · cases hremoved : found.removed with
        | true => exact .inl (hsame ▸ .outlived module binding found hmember hbinding hremoved)
        | false =>
          refine .inr ⟨.binding binding, hsame ▸ .declaration module binding found hmember hbinding,
            ⟨⟨found, hbinding, hremoved⟩, module, hmodule, hmember⟩, ?_⟩
          rw [← hsame, h.spelling_binding module hvalid binding hmember found hbinding hremoved
            himported]
          simp [nameOf, hbinding]
    · exact .inl (.misplaced module _ hscope)
  have hunnamed : entry ∈ ((linked.module module).unnamedDefault.map linked.identifier).toList.map
      (fun name => (Origin.unnamedDefault module, name)) →
      Stray built linked entry.1 ∨ ∃ holder, linked.Declares entry.1 holder ∧
        linked.Bears order holder ∧ entry.2 = linked.nameOf holder := by
    intro hmem
    obtain ⟨name, hname, rfl⟩ := List.mem_map.mp hmem
    obtain ⟨record, hdefault, rfl⟩ := Option.map_eq_some_iff.mp (Option.mem_toList.mp hname)
    have hrecord := h.unnamed module hvalid record hdefault
    refine .inr ⟨.value record, .unnamedDefault module record hrecord, ?_, rfl⟩
    obtain ⟨found, hfound, -, hsource, howner⟩ := hrecord
    exact ⟨found, hfound, howner, .inl ⟨module, hmodule, hsource, .inr hdefault⟩⟩
  unfold itemOrigins at hentry
  cases item with
  | statement tree =>
    obtain ⟨ident, hident, rfl⟩ := List.mem_map.mp hentry
    exact hdeclared ident hident rfl rfl
  | exportDecl decl span =>
    obtain ⟨ident, hident, rfl⟩ := List.mem_map.mp hentry
    exact hdeclared ident hident rfl rfl
  | exportDefaultDecl decl span =>
    dsimp only at hentry
    split at hentry
    · obtain ⟨ident, hident, rfl⟩ := List.mem_map.mp hentry
      exact hdeclared ident hident rfl rfl
    · exact hunnamed hentry
  | exportDefault value span => exact hunnamed hentry
  | _ => exact absurd hentry List.not_mem_nil

theorem named_of_mem_origins (h : Linkable built linked order) (entry : Origin × String)
    (hentry : entry ∈ linked.origins order) :
    Stray built linked entry.1 ∨ entry = (.helper, mergeHelperName) ∨
      ∃ holder, linked.Declares entry.1 holder ∧ linked.Bears order holder ∧
        entry.2 = linked.nameOf holder := by
  rcases List.mem_append.mp hentry with hentry | hentry
  · rcases List.mem_append.mp hentry with hentry | hentry
    · exact .inr (.inr (named_of_mem_externalOrigins h entry hentry))
    · unfold helperOrigins at hentry
      split at hentry
      · exact .inr (.inl (List.mem_singleton.mp hentry))
      · exact absurd hentry List.not_mem_nil
  · obtain ⟨module, hmodule, hentry⟩ := List.mem_flatMap.mp hentry
    rcases List.mem_append.mp hentry with hentry | hentry
    · obtain ⟨item, hitem, hentry⟩ := List.mem_flatMap.mp hentry
      exact (named_of_mem_itemOrigins h module hmodule item hitem entry hentry).imp_right .inr
    · obtain ⟨record, hrecord, rfl⟩ := List.mem_map.mp hentry
      have hvalid := h.order.valid module hmodule
      have hget := Option.mem_toList.mp hrecord
      rcases h.aggregate module hvalid record hget with haggregate | hstarred
      · refine .inr (.inr ⟨.value record, .aggregate module record haggregate, ?_, rfl⟩)
        obtain ⟨found, hfound, -, hsource, howner⟩ := haggregate
        exact ⟨found, hfound, howner, .inl ⟨module, hmodule, hsource,
          .inl (Table.value_mem_of_get? _ _ _ hget)⟩⟩
      · exact .inl (.starred module hstarred)

theorem Declares.origin_of_value (h : Linkable built linked order) (origin : Origin)
    (id : RecordId) (hdeclares : linked.Declares origin (.value id)) :
    ∃ record, linked.records[id]? = some record ∧ origin = record.origin := by
  cases hdeclares with
  | external external imported _ hvalid hentry =>
    obtain ⟨record, hrecord, hname, hsource, -⟩ := (h.externals external hvalid).entries _ hentry
    exact ⟨record, hrecord, by simp [ExportRecord.origin, hsource, hname]⟩
  | unnamedDefault module _ hdefault =>
    obtain ⟨record, hrecord, hname, hsource, -⟩ := hdefault
    refine ⟨record, hrecord, ?_⟩
    rw [ExportRecord.origin, hsource, hname]
    rfl
  | aggregate module _ haggregate =>
    obtain ⟨record, hrecord, hname, hsource, -⟩ := haggregate
    refine ⟨record, hrecord, ?_⟩
    rw [ExportRecord.origin, hsource, hname]
    rfl

/-- Different origins declare different holders. -/
theorem Declares.origin_eq (h : Linkable built linked order) (first second : Origin)
    (holder : Holder) (hfirst : linked.Declares first holder)
    (hsecond : linked.Declares second holder) : first = second := by
  cases holder with
  | binding id =>
    have hvalid : ∀ module, id ∈ (linked.module module).bindings →
        module < linked.modules.length := by
      intro module hmember
      by_contra hout
      rw [linked.module_of_length_le module (Nat.le_of_not_lt hout)] at hmember
      exact absurd hmember List.not_mem_nil
    cases hfirst with
    | declaration module _ found hmember hbinding =>
      cases hsecond with
      | declaration module' _ found' hmember' hbinding' =>
        rw [hbinding] at hbinding'
        rw [Option.some.inj hbinding', h.bindings_apart module (hvalid module hmember) module'
          (hvalid module' hmember') id hmember hmember']
  | value id =>
    obtain ⟨record, hrecord, rfl⟩ := hfirst.origin_of_value h
    obtain ⟨record', hrecord', rfl⟩ := hsecond.origin_of_value h
    rw [hrecord] at hrecord'
    rw [Option.some.inj hrecord']

/-! ## Origins listed twice -/

/-- Whether two places of one origin in a program are no fault: only a declaration may be repeated,
but for what strayed. -/
def Repeatable (built linked : Session) (origin : Origin) : Prop :=
  Stray built linked origin ∨ origin.isDeclaration = true

theorem importedEntries_names (external : External) (hproper : external.exports.Proper) :
    external.importedEntries.names.Nodup := by
  have hnamed := Table.proper_filter external.exports hproper fun entry =>
    entry.1 != defaultName && entry.1 != aggregateName
  have hother : ∀ name ∈ Table.names (external.exports.filter fun entry =>
      entry.1 != defaultName && entry.1 != aggregateName),
        name ≠ defaultName ∧ name ≠ aggregateName := by
    intro name hname
    obtain ⟨entry, hentry, rfl⟩ := List.mem_map.mp hname
    simpa using (List.mem_filter.mp hentry).2
  have hwhole : ∀ name, (Table.names ((external.exports.get? name).toList.map fun record =>
      (name, record))).Nodup ∧ ∀ other ∈ Table.names ((external.exports.get? name).toList.map
        fun record => (name, record)), other = name := fun name => by
    cases external.exports.get? name <;> simp [Table.names]
  obtain ⟨hdefault, hdefault_eq⟩ := hwhole defaultName
  obtain ⟨haggregate, haggregate_eq⟩ := hwhole aggregateName
  have hrest := List.nodup_append.mpr ⟨haggregate, hnamed, fun name hname other hmem heq =>
    (hother other hmem).2 (heq ▸ haggregate_eq name hname)⟩
  have hall := List.nodup_append.mpr ⟨hdefault, hrest, fun name hname other hmem heq => by
    have hname := hdefault_eq name hname
    rcases List.mem_append.mp hmem with hmem | hmem
    · exact absurd (hname.symm.trans (heq.trans (haggregate_eq other hmem))) (by decide)
    · exact (hother other hmem).1 (heq ▸ hname)⟩
  unfold External.importedEntries Table.names
  dsimp only
  split
  · rw [List.append_assoc, List.map_append, List.map_append]
    exact hall
  · rw [List.append_assoc, List.map_append, List.map_append]
    exact (List.perm_append_comm.append_left _).nodup_iff.mpr hall

theorem externalOrigins_pairwise (h : Linkable built linked order) :
    linked.externalOrigins.Pairwise fun first second => first.1 ≠ second.1 := by
  refine List.pairwise_flatMap.mpr ⟨fun id hid => ?_, ?_⟩
  · refine List.pairwise_map.mpr ?_
    have hnames := importedEntries_names _ (h.externals id (List.mem_range.mp hid)).proper
    refine (List.pairwise_map.mp hnames).imp fun hne heq => hne ?_
    exact (Origin.external.inj heq).2
  · refine List.nodup_range.imp fun hne entry hentry entry' hentry' heq => hne ?_
    obtain ⟨_, -, rfl⟩ := List.mem_map.mp hentry
    obtain ⟨_, -, rfl⟩ := List.mem_map.mp hentry'
    exact (Origin.external.inj heq).1

theorem itemOrigins_origin (module : ModuleId) (item : Item) (entry : Origin × String)
    (h : entry ∈ linked.itemOrigins module item) :
    (∃ identity, entry.1 = .declaration module identity) ∨
      (entry.1 = .unnamedDefault module ∧ item.isDefault = true ∧
        (linked.itemOrigins module item).length ≤ 1) := by
  have hunnamed : (((linked.module module).unnamedDefault.map linked.identifier).toList.map
      fun name => (Origin.unnamedDefault module, name)).length ≤ 1 := by
    cases (linked.module module).unnamedDefault <;> simp
  unfold itemOrigins at h ⊢
  cases item with
  | statement tree | exportDecl decl span =>
    obtain ⟨ident, -, rfl⟩ := List.mem_map.mp h
    exact .inl ⟨_, rfl⟩
  | exportDefaultDecl decl span =>
    dsimp only at h ⊢
    split at h
    · obtain ⟨ident, -, rfl⟩ := List.mem_map.mp h
      exact .inl ⟨_, rfl⟩
    · rename_i hnone
      obtain ⟨name, -, rfl⟩ := List.mem_map.mp h
      rw [if_neg hnone]
      exact .inr ⟨rfl, rfl, hunnamed⟩
  | exportDefault value span =>
    obtain ⟨name, -, rfl⟩ := List.mem_map.mp h
    exact .inr ⟨rfl, rfl, hunnamed⟩
  | _ => exact absurd h List.not_mem_nil

theorem itemOrigins_pairwise (module : ModuleId) (items : List Item)
    (hrepeated : ¬ (built.module module).program.DefaultsOnce ∨
      items.Pairwise fun first second => ¬ (first.isDefault = true ∧ second.isDefault = true)) :
    (items.flatMap (linked.itemOrigins module)).Pairwise fun first second =>
      first.1 = second.1 → Repeatable built linked first.1 := by
  have hdeclared : ∀ entry : Origin × String,
      (∃ identity, entry.1 = .declaration module identity) → Repeatable built linked entry.1 :=
    fun _ ⟨identity, h⟩ => .inr (h ▸ rfl)
  rcases hrepeated with hrepeated | hitems
  · refine List.pairwise_iff_forall_sublist.mpr fun {first second} hsub _ => ?_
    obtain ⟨item, -, hfirst⟩ := List.mem_flatMap.mp (hsub.subset List.mem_cons_self)
    rcases itemOrigins_origin module item first hfirst with h | ⟨h, -⟩
    · exact hdeclared first h
    · rw [h]
      exact .inl (.repeated module hrepeated)
  · refine List.pairwise_flatMap.mpr ⟨fun item _ => ?_, hitems.imp ?_⟩
    · refine List.pairwise_iff_forall_sublist.mpr fun {first second} hsub _ => ?_
      rcases itemOrigins_origin module item first (hsub.subset List.mem_cons_self) with
        h | ⟨-, -, h⟩
      · exact hdeclared first h
      · exact absurd (Nat.le_trans hsub.length_le h) (by simp)
    · intro first second hnot entry hentry entry' hentry' heq
      rcases itemOrigins_origin module first entry hentry with h | ⟨h, hdefault, -⟩
      · exact hdeclared entry h
      · rcases itemOrigins_origin module second entry' hentry' with
          ⟨identity, h'⟩ | ⟨-, hdefault', -⟩
        · exact absurd (h.symm.trans (heq.trans h')) nofun
        · exact absurd ⟨hdefault, hdefault'⟩ hnot

theorem Linked.program_eq (h : built.Linked linked order) (module : ModuleId)
    (hvalid : module < linked.modules.length) :
    ∃ unused, (linked.module module).program = (built.module module).program.relieved unused := by
  obtain ⟨gone, dropped, used, shaken, -, hshaken, hrespelled⟩ := h.shaken
  have hbuilt : module < built.modules.length := by
    rw [← hshaken.length, ← hrespelled.modules]
    exact hvalid
  exact ⟨_, by rw [hrespelled.module, hshaken.program_eq module hbuilt]⟩

theorem moduleOrigins_pairwise (h : built.Linked linked order) (module : ModuleId)
    (hmodule : module ∈ order) :
    (linked.moduleOrigins module).Pairwise fun first second =>
      first.1 = second.1 → Repeatable built linked first.1 := by
  refine List.pairwise_append.mpr ⟨?_, ?_, fun entry hentry entry' hentry' heq => ?_⟩
  · refine itemOrigins_pairwise module _ ?_
    by_cases hrepeated : (built.module module).program.DefaultsOnce
    · obtain ⟨unused, hprogram⟩ := h.program_eq module (h.linkable.order.valid module hmodule)
      exact .inr (hprogram ▸ hrepeated.relieved unused)
    · exact .inl hrepeated
  · cases (linked.module module).exports.get? aggregateName <;> simp
  · obtain ⟨item, -, hentry⟩ := List.mem_flatMap.mp hentry
    obtain ⟨record, -, rfl⟩ := List.mem_map.mp hentry'
    rcases itemOrigins_origin module item entry hentry with ⟨identity, h⟩ | ⟨h, -⟩
    · exact absurd (h.symm.trans heq) nofun
    · exact absurd (h.symm.trans heq) nofun

def originModule? : Origin → Option ModuleId
  | .declaration module _ | .unnamedDefault module | .aggregate module => some module
  | _ => none

theorem moduleOrigins_module (module : ModuleId) (entry : Origin × String)
    (h : entry ∈ linked.moduleOrigins module) : originModule? entry.1 = some module := by
  rcases List.mem_append.mp h with h | h
  · obtain ⟨item, -, h⟩ := List.mem_flatMap.mp h
    rcases itemOrigins_origin module item entry h with ⟨identity, h⟩ | ⟨h, -⟩ <;> rw [h] <;> rfl
  · obtain ⟨record, -, rfl⟩ := List.mem_map.mp h
    rfl

theorem origins_pairwise (h : built.Linked linked order) :
    (linked.origins order).Pairwise fun first second =>
      first.1 = second.1 → Repeatable built linked first.1 := by
  have houter : ∀ entry ∈ linked.externalOrigins ++ linked.helperOrigins order,
      originModule? entry.1 = none := by
    intro entry hentry
    rcases List.mem_append.mp hentry with hentry | hentry
    · obtain ⟨id, -, hentry⟩ := List.mem_flatMap.mp hentry
      obtain ⟨_, -, rfl⟩ := List.mem_map.mp hentry
      rfl
    · unfold helperOrigins at hentry
      split at hentry
      · rw [List.mem_singleton.mp hentry]
        rfl
      · exact absurd hentry List.not_mem_nil
  have hhelper : (linked.helperOrigins order).Pairwise fun first second =>
      first.1 = second.1 → Repeatable built linked first.1 := by
    unfold helperOrigins
    split <;> simp
  refine List.pairwise_append.mpr ⟨List.pairwise_append.mpr ⟨?_, hhelper, ?_⟩, ?_, ?_⟩
  · exact (externalOrigins_pairwise h.linkable).imp fun hne heq => absurd heq hne
  · intro entry hentry entry' hentry' heq
    obtain ⟨id, -, hentry⟩ := List.mem_flatMap.mp hentry
    obtain ⟨_, -, rfl⟩ := List.mem_map.mp hentry
    unfold helperOrigins at hentry'
    split at hentry'
    · rw [List.mem_singleton.mp hentry'] at heq
      exact absurd heq nofun
    · exact absurd hentry' List.not_mem_nil
  · refine List.pairwise_flatMap.mpr ⟨fun module hmodule => moduleOrigins_pairwise h module hmodule,
      h.linkable.order.nodup.imp fun hne entry hentry entry' hentry' heq => absurd ?_ hne⟩
    have hmodule := moduleOrigins_module _ entry hentry
    rw [heq, moduleOrigins_module _ entry' hentry'] at hmodule
    exact (Option.some.inj hmodule).symm
  · intro entry hentry entry' hentry' heq
    obtain ⟨module, -, hentry'⟩ := List.mem_flatMap.mp hentry'
    have hnone := houter entry hentry
    rw [heq, moduleOrigins_module _ entry' hentry'] at hnone
    exact absurd hnone nofun

/-- Whether two declarations of a program declare different values under one name. -/
def Fused (first second : Origin × String) : Prop :=
  first.2 = second.2 ∧ ¬ (first.1 = second.1 ∧ first.1.isDeclaration = true)

instance (first second : Origin × String) : Decidable (Fused first second) :=
  inferInstanceAs (Decidable (_ ∧ ¬ (_ ∧ _)))

/-- Values of a linked program are fused only where one of them strayed. -/
theorem Linked.origins_fused (h : built.Linked linked order) :
    (linked.origins order).Pairwise fun first second => Fused first second →
      Stray built linked first.1 ∨ Stray built linked second.1 := by
  refine (origins_pairwise h).imp_of_mem fun {first second} hfirst hsecond hrepeat hfused => ?_
  have hreserved : mergeHelperName ∈ linked.reservedNames order :=
    List.mem_append_left _ (by decide)
  have hhelper : ∀ entry : Origin × String, ∀ holder, linked.Bears order holder →
      entry.2 = linked.nameOf holder → entry.2 ≠ mergeHelperName := by
    intro entry holder hbears hname heq
    exact h.distinct.fresh holder hbears (hname ▸ heq ▸ hreserved)
  have hsame : first.1 = second.1 → Stray built linked first.1 := fun heq =>
    (hrepeat heq).resolve_right fun hdeclaration => hfused.2 ⟨heq, hdeclaration⟩
  rcases named_of_mem_origins h.linkable first hfirst with hstray | rfl |
    ⟨holder, hdeclares, hbears, hname⟩
  · exact .inl hstray
  · rcases named_of_mem_origins h.linkable second hsecond with hstray | rfl |
      ⟨holder, -, hbears, hname⟩
    · exact .inr hstray
    · exact .inl (hsame rfl)
    · exact absurd hfused.1.symm (hhelper second holder hbears hname)
  · rcases named_of_mem_origins h.linkable second hsecond with hstray | rfl |
      ⟨holder', hdeclares', hbears', hname'⟩
    · exact .inr hstray
    · exact absurd hfused.1 (hhelper first holder hbears hname)
    · have hholder := h.distinct.injective holder hbears holder' hbears'
        (hname.symm.trans (hfused.1.trans hname'))
      exact .inl (hsame (hdeclares.origin_eq h.linkable _ _ _ (hholder ▸ hdeclares')))

end

end Session

/-- Two values of a bundle share a name only if one of them strayed. So no two do exactly if none
does so with a declaration that strayed. -/
theorem bundle_fuses_only_strays (tree : FileTree) (entry : Path) (output : Option Path)
    (options : BundleOptions) (bundled : Bundle)
    (h : (bundle tree entry output options).outcome = .ok bundled) :
    let built := builtSession tree entry options
    let linked := linkedSession tree entry options
    let program := bundledProgram tree entry options
    let origins := linked.origins (bundleOrder tree entry options)
    bundled.code = program.text linked.comments linked.options.minify ∧
      program.topLevel.map Ident.name = origins.map Prod.snd ∧
      (origins.Pairwise fun first second => Session.Fused first second →
        built.Stray linked first.1 ∨ built.Stray linked second.1) ∧
      ((origins.Pairwise fun first second => ¬ Session.Fused first second) ↔
        origins.Pairwise fun first second =>
          built.Stray linked first.1 ∨ built.Stray linked second.1 →
            ¬ Session.Fused first second) := by
  intro built linked program origins
  have hfused := (linked_linkedSession tree entry options).origins_fused
  refine ⟨bundle_code tree entry output options bundled h, linked.linkedProgram_names _, hfused,
    fun hapart => hapart.imp fun hnot _ hfused => hnot hfused, fun hstrays => ?_⟩
  exact (hstrays.and hfused).imp fun ⟨hstray, hfused⟩ hboth => hstray (hfused hboth) hboth

/-- Two modules that declare the same name. -/
def alike : FileTree :=
  ⟨[(["i"], .file "import'./l';const a=5;f(a)".toUTF8), (["l"], .file "const a=1;g(a)".toUTF8)], []⟩

set_option maxRecDepth 100000 in
theorem bundle_fuses_only_strays_alike :
    (bundle alike "/i" none .standard).outcome =
        .ok ⟨"const a = 1;\ng(a);\nconst a$1 = 5;\nf(a$1);\n", ⟨40, 42, 2, 0, false, true⟩, []⟩ ∧
      ((linkedSession alike "/i" .standard).origins (bundleOrder alike "/i" .standard)).Pairwise
        fun first second =>
          (builtSession alike "/i" .standard).Stray (linkedSession alike "/i" .standard) first.1 ∨
              (builtSession alike "/i" .standard).Stray (linkedSession alike "/i" .standard)
                second.1 →
            ¬ Session.Fused first second := by
  have hbundle : (bundle alike "/i" none .standard).outcome =
      .ok ⟨"const a = 1;\ng(a);\nconst a$1 = 5;\nf(a$1);\n", ⟨40, 42, 2, 0, false, true⟩, []⟩ := by
    decide +kernel
  have hapart : ((linkedSession alike "/i" .standard).origins
      (bundleOrder alike "/i" .standard)).Pairwise fun first second =>
        ¬ Session.Fused first second := by
    decide +kernel
  exact ⟨hbundle, (bundle_fuses_only_strays alike "/i" none .standard _ hbundle).2.2.2.mp hapart⟩

/-- A module in which one of two declarations of a name that is not used is taken out. -/
def leftover : FileTree :=
  ⟨[(["i"], .file "import'./l';const a=5;f(a)".toUTF8),
    (["l"], .file "var a=1;if(b){var a=2}".toUTF8)], []⟩

set_option maxRecDepth 100000 in
/-- Some bundles fuse two values: the declaration that is left of one module is called like that of
another. -/
theorem bundle_may_fuse_strays :
    ¬ ∀ (tree : FileTree) (entry : Path) (output : Option Path) (options : BundleOptions)
      (bundled : Bundle), (bundle tree entry output options).outcome = .ok bundled →
        ((linkedSession tree entry options).origins (bundleOrder tree entry options)).Pairwise
          fun first second => ¬ Session.Fused first second := by
  intro hall
  have hbundle : (bundle leftover "/i" none .standard).outcome =
      .ok ⟨"if (b) \x7b\n    var a = 2;\n\x7d\nconst a = 5;\nf(a);\n",
        ⟨48, 45, 2, 0, false, true⟩, []⟩ := by
    decide +kernel
  have hfused : ¬ ((linkedSession leftover "/i" .standard).origins
      (bundleOrder leftover "/i" .standard)).Pairwise fun first second =>
        ¬ Session.Fused first second := by
    decide +kernel
  exact hfused (hall _ _ _ _ _ hbundle)

end ScopeHoist
