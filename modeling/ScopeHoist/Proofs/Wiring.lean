import ScopeHoist.Proofs.Completion

/-!
# Wired sessions

A session is wired if every stored module is completed, and every namespace in a table is there
because a stored module asks for it. What extends a session keeps it wired, and so does storing a
module that is finished: all that was entered in its course is asked for by its program.
-/

set_option autoImplicit false

namespace ScopeHoist

namespace Module.Grows

variable {before after : Module} (h : before.Grows after)
include h

theorem target?_eq (specifier : String) : after.target? specifier = before.target? specifier := by
  rw [Module.target?, h.dependencies_eq, ← Module.target?]

theorem asks_eq : after.Asks = before.Asks := by
  unfold Module.Asks Module.target?
  rw [h.dependencies_eq, h.program_eq]

theorem starModules_eq : after.starModules = before.starModules := by
  unfold Module.starModules Module.starSpecifiers Module.starModule? Module.target?
  rw [h.dependencies_eq, h.program_eq]

theorem covered (hcovered : before.Covered) : after.Covered := by
  unfold Module.Covered Module.target?
  rw [h.dependencies_eq, h.program_eq]
  exact hcovered

end Module.Grows

namespace Session

variable (session : Session) (first : ModuleId → Table RecordId)

/-- What a module held at some time, between what it was stored with and what it has. -/
def Holds (held : ModuleId → Table RecordId) (id : ModuleId) : Prop :=
  id < session.modules.length ∧ ∀ name record,
    ((first id).get? name = some record → (held id).get? name = some record) ∧
    ((held id).get? name = some record → (session.module id).exports.get? name = some record)

/-- What a module is stored with under a name: what was last published, else what came last from an
`export *`. -/
def firstEntry (held : ModuleId → Table RecordId) (published : List Published) (module : Module)
    (name : String) : Option RecordId :=
  (lastPublished published name).or (lastHeld held module.starModules name)

/-- A module that is about to be stored, when stored ones were stored with the first tables. -/
structure Finished (module : Module) : Prop where
  draft : session.SoundDraft module
  covered : module.Covered
  imported : session.Imported module
  stars : module.stars = session.starsOf module
  exports : ∃ held published, session.Publishes module module.program.clauses published ∧
    (∀ id ∈ module.starModules, session.Holds first held id) ∧
    ∀ name, module.exports.get? name = firstEntry held published module name

/-- A stored module, with the first tables. -/
structure Completed (module : Module) : Prop where
  covered : module.Covered
  imported : session.Imported module
  stars : module.stars = session.starsOf module
  exports : ∃ held published, session.Publishes module module.program.clauses published ∧
    (∀ id ∈ module.starModules, session.Holds first held id) ∧
    ∀ name, (first module.id).get? name = firstEntry held published module name
  kept : ∀ name record, (first module.id).get? name = some record →
    module.exports.get? name = some record
  added : ∀ name record, (first module.id).get? name = none →
    module.exports.get? name = some record → session.Added module.id name record

/-- All modules are completed, and all namespaces asked for. -/
structure Wired : Prop where
  completed : ∀ id, id < session.modules.length → session.Completed first (session.module id)
  aggregate : ∀ id, id < session.modules.length →
    (session.module id).exports.get? aggregateName ≠ none →
      (first id).get? aggregateName ≠ none ∨
        ∃ asker, asker < session.modules.length ∧
          (session.module asker).Asks (.module id) aggregateName
  whole : ∀ id, id < session.modules.length →
    (session.module id).exports.get? aggregateName ≠ none →
      (first id).get? aggregateName ≠ none ∨
        ∀ star ∈ (session.module id).stars,
          (session.external star.external).exports.get? aggregateName ≠ none
  external : ∀ id, (session.external id).exports.get? aggregateName ≠ none →
    ∃ asker, asker < session.modules.length ∧
      session.AsksExternal (session.module asker).Asks id aggregateName

theorem wired_new (options : BundleOptions) : (Session.new options).Wired first where
  completed := fun id h => absurd h (Nat.not_lt_zero id)
  aggregate := fun id h => absurd h (Nat.not_lt_zero id)
  whole := fun id h => absurd h (Nat.not_lt_zero id)
  external := fun _ h => absurd rfl h

/-! ## What extension keeps -/

variable {before after : Session} {first : ModuleId → Table RecordId}

theorem starsOf_eq (h : before.Grows after) (module : Module)
    (hvalid : ∀ id ∈ module.starModules, id < before.modules.length) :
    after.starsOf module = before.starsOf module := by
  unfold starsOf
  refine List.foldl_ext _ _ _ fun stars specifier hspecifier => ?_
  cases htarget : module.target? specifier with
  | none => rfl
  | some target =>
    cases target with
    | external id => rfl
    | module id =>
      have hmem : id ∈ module.starModules :=
        List.mem_filterMap.mpr ⟨specifier, hspecifier, by rw [Module.starModule?, htarget]⟩
      simp only [h.stars_eq id (hvalid id hmem)]

theorem Grows.holds (h : before.Grows after) (held : ModuleId → Table RecordId)
    (id : ModuleId) (hholds : before.Holds first held id) : after.Holds first held id := by
  obtain ⟨hid, hentries⟩ := hholds
  exact ⟨Nat.lt_of_lt_of_le hid h.modules_length, fun name record =>
    ⟨(hentries name record).1, fun hheld =>
      h.module_exports id hid name record ((hentries name record).2 hheld)⟩⟩

theorem Extends.imported (h : before.Extends after) (module module' : Module)
    (hmodule : module.Grows module') (himported : before.Imported module) :
    after.Imported module' := by
  unfold Imported
  rw [hmodule.program_eq, hmodule.imports_eq]
  exact List.Forall₂.imp (fun clause binding => h.answersImport hmodule.alike clause binding)
    himported

theorem Extends.completed (h : before.Extends after) (hsound : before.Sound) (id : ModuleId)
    (hid : id < before.modules.length) (hcompleted : before.Completed first (before.module id)) :
    after.Completed first (after.module id) := by
  have hmodule := h.grows.module id hid
  have hid_eq := hsound.id_eq id hid
  obtain ⟨held, published, hpublishes, hholds, hentries⟩ := hcompleted.exports
  refine ⟨hmodule.covered hcompleted.covered, h.imported _ _ hmodule hcompleted.imported, ?_,
    ⟨held, published, ?_, ?_, fun name => ?_⟩, fun name record hfirst => ?_,
    fun name record hfirst hafter => ?_⟩
  · have hvalid : ∀ other ∈ (after.module id).starModules, other < before.modules.length := by
      rw [hmodule.starModules_eq]
      exact fun other hother => (hholds other hother).1
    rw [starsOf_eq h.grows _ hvalid, hmodule.stars_eq, hcompleted.stars]
    unfold starsOf Module.starSpecifiers
    rw [hmodule.program_eq]
    simp only [hmodule.target?_eq]
  · rw [hmodule.program_eq]
    exact h.publishes hmodule.alike _ _ hpublishes
  · rw [hmodule.starModules_eq]
    exact fun other hother => h.grows.holds held other (hholds other hother)
  · unfold firstEntry
    rw [hmodule.starModules_eq, hmodule.id_eq]
    exact hentries name
  · rw [hmodule.id_eq] at hfirst
    exact h.grows.module_exports id hid name record (hcompleted.kept name record hfirst)
  · rw [hmodule.id_eq, hid_eq] at hfirst ⊢
    have hadded := hcompleted.added name
    rw [hid_eq] at hadded
    cases hbefore : (before.module id).exports.get? name with
    | none => exact h.module id hid name record hbefore hafter
    | some found =>
      rw [h.grows.module_exports id hid name found hbefore] at hafter
      obtain rfl := Option.some.inj hafter
      exact h.grows.added id hid name found (hadded found hfirst hbefore)

theorem Holds.congr {session : Session} {first first' held : ModuleId → Table RecordId}
    {id : ModuleId} (h : session.Holds first held id) (hid : first' id = first id) :
    session.Holds first' held id := by
  unfold Holds
  rw [hid]
  exact h

theorem Completed.congr {session : Session} {first first' : ModuleId → Table RecordId}
    {module : Module} (h : session.Completed first module)
    (hid : first' module.id = first module.id)
    (hstars : ∀ id ∈ module.starModules, first' id = first id) :
    session.Completed first' module := by
  obtain ⟨held, published, hpublishes, hholds, hentries⟩ := h.exports
  refine ⟨h.covered, h.imported, h.stars, ⟨held, published, hpublishes,
    fun id hmem => (hholds id hmem).congr (hstars id hmem), ?_⟩, ?_, ?_⟩
  · rw [hid]
    exact hentries
  · rw [hid]
    exact h.kept
  · rw [hid]
    exact h.added

theorem Grows.asksExternal (h : before.Grows after) (asker : ModuleId)
    (hasker : asker < before.modules.length) (id : ExternalId) (name : String)
    (hasks : before.AsksExternal (before.module asker).Asks id name) :
    after.AsksExternal (after.module asker).Asks id name := by
  rw [(h.module asker hasker).asks_eq]
  rcases hasks with hasks | ⟨module, hmodule, hasks, star, hstar, hid⟩
  · exact .inl hasks
  · refine .inr ⟨module, Nat.lt_of_lt_of_le hmodule h.modules_length, hasks, star, ?_, hid⟩
    rwa [h.stars_eq module hmodule]

theorem Grows.asked (h : before.Grows after) (target : Target) (name : String)
    (hasked : ∃ asker, asker < before.modules.length ∧ (before.module asker).Asks target name) :
    ∃ asker, asker < after.modules.length ∧ (after.module asker).Asks target name := by
  obtain ⟨asker, hasker, hasks⟩ := hasked
  refine ⟨asker, Nat.lt_of_lt_of_le hasker h.modules_length, ?_⟩
  rwa [(h.module asker hasker).asks_eq]

theorem Wired.extends (hwired : before.Wired first) (hsound : before.Sound)
    (h : before.Extends after) (hlength : after.modules.length = before.modules.length)
    (hmodule : ∀ id, (after.module id).exports = (before.module id).exports)
    (hexternal : ∀ id, (after.external id).exports = (before.external id).exports) :
    after.Wired first where
  completed := fun id hid => by
    rw [hlength] at hid
    exact h.completed hsound id hid (hwired.completed id hid)
  aggregate := fun id hid hentry => by
    rw [hlength] at hid
    rw [hmodule] at hentry
    exact (hwired.aggregate id hid hentry).imp_right (h.grows.asked _ _)
  whole := fun id hid hentry => by
    rw [hlength] at hid
    rw [hmodule] at hentry
    rw [h.grows.stars_eq id hid]
    simp only [hexternal]
    exact hwired.whole id hid hentry
  external := fun id hentry => by
    rw [hexternal] at hentry
    obtain ⟨asker, hasker, hasks⟩ := hwired.external id hentry
    exact ⟨asker, Nat.lt_of_lt_of_le hasker h.grows.modules_length,
      h.grows.asksExternal asker hasker id _ hasks⟩

theorem Extends.store (session : Session) (module : Module) :
    session.Extends (session.store module) :=
  .of_same (.store session module) fun id hid => by
    rw [module_store, if_neg (Nat.ne_of_lt hid)]

theorem Completed.store {session : Session} (hsound : session.Sound) (id : ModuleId)
    (hid : id < session.modules.length) (h : session.Completed first (session.module id))
    (module : Module) :
    (session.store module).Completed
      (Function.update first session.modules.length module.exports)
      ((session.store module).module id) := by
  obtain ⟨held, -, -, hholds, -⟩ := h.exports
  have hsame : (session.store module).module id = session.module id := by
    rw [module_store, if_neg (Nat.ne_of_lt hid)]
  have hextended := (Extends.store session module).completed hsound id hid h
  apply hextended.congr
  · rw [hsame, hsound.id_eq id hid, Function.update_of_ne (Nat.ne_of_lt hid)]
  · intro other hother
    rw [hsame] at hother
    exact Function.update_of_ne (Nat.ne_of_lt (hholds other hother).1) _ _

theorem Finished.completed {session : Session} {module : Module}
    (h : session.Finished first module) :
    (session.store module).Completed
      (Function.update first session.modules.length module.exports) module := by
  obtain ⟨held, published, hpublishes, hholds, hentries⟩ := h.exports
  have hstore := Extends.store session module
  have hfirst : Function.update first session.modules.length module.exports module.id =
      module.exports := by
    rw [h.draft.opened.id_eq, Function.update_self]
  constructor
  · exact h.covered
  · exact hstore.imported module module (.refl module) h.imported
  · rw [starsOf_eq hstore.grows module fun other hother => (hholds other hother).1]
    exact h.stars
  · refine ⟨held, published, hstore.publishes (.refl module) _ _ hpublishes, ?_, ?_⟩
    · intro other hother
      apply (hstore.grows.holds held other (hholds other hother)).congr
      exact Function.update_of_ne (Nat.ne_of_lt (hholds other hother).1) _ _
    · rw [hfirst]
      exact hentries
  · rw [hfirst]
    exact fun name record hsome => hsome
  · rw [hfirst]
    exact fun name record hnone hsome => absurd (hnone.symm.trans hsome) nofun

theorem Answers.held {asks : Target → String → Prop} (h : before.Answers asks after)
    (id : ModuleId) (hid : id < before.modules.length) (name : String)
    (hentry : (after.module id).exports.get? name ≠ none) :
    (before.module id).exports.get? name ≠ none ∨
      ((before.module id).exports.get? name = none ∧ asks (.module id) name) := by
  by_cases hbefore : (before.module id).exports.get? name = none
  · obtain ⟨record, hrecord⟩ := Option.ne_none_iff_exists'.mp hentry
    exact .inr ⟨hbefore, (h.module id hid _ record hbefore hrecord).1⟩
  · exact .inl hbefore

/-- A module that gets its answers and is stored leaves the session wired: all it asked for in its
course is there because it asks. -/
theorem wired_store {module : Module} (hsound : before.Sound) (hwired : before.Wired first)
    (hanswers : before.Answers module.Asks after) (hfinished : after.Finished first module) :
    (after.store module).Wired (Function.update first after.modules.length module.exports) := by
  have hgrows := hanswers.fills.grows
  have hall := hgrows.trans (Extends.store after module).grows
  have hnew : (after.store module).module after.modules.length = module := by
    rw [module_store, if_pos rfl]
  have hasker : after.modules.length < (after.store module).modules.length := by
    rw [store_length]
    exact Nat.lt_succ_self _
  have hold : ∀ id, id < before.modules.length →
      (after.store module).module id = after.module id ∧
        Function.update first after.modules.length module.exports id = first id := by
    intro id hid
    have hne : id ≠ after.modules.length := Nat.ne_of_lt (hanswers.fills.length ▸ hid)
    rw [module_store, if_neg hne, Function.update_of_ne hne]
    exact ⟨rfl, rfl⟩
  have hcases : ∀ id, id < (after.store module).modules.length →
      id < before.modules.length ∨ id = after.modules.length := by
    intro id hid
    rw [store_length, hanswers.fills.length] at hid
    rw [hanswers.fills.length]
    exact Nat.lt_succ_iff_lt_or_eq.mp hid
  constructor
  case completed =>
    intro id hid
    rcases hcases id hid with hid | rfl
    · have hcompleted := hanswers.toExtends.completed hsound id hid (hwired.completed id hid)
      exact hcompleted.store hanswers.fills.sound id (hanswers.fills.length ▸ hid) module
    · rw [hnew]
      exact hfinished.completed
  case aggregate =>
    intro id hid hsome
    rcases hcases id hid with hid | rfl
    · rw [(hold id hid).1] at hsome
      rw [(hold id hid).2]
      rcases hanswers.held id hid _ hsome with hbefore | ⟨-, hasks⟩
      · exact (hwired.aggregate id hid hbefore).imp_right (hall.asked _ _)
      · exact .inr ⟨_, hasker, by rwa [hnew]⟩
    · rw [hnew] at hsome
      rw [Function.update_self]
      exact .inl hsome
  case whole =>
    intro id hid hsome
    rcases hcases id hid with hid | rfl
    · rw [(hold id hid).1] at hsome ⊢
      rw [(hold id hid).2, hgrows.stars_eq id hid]
      rcases hanswers.held id hid _ hsome with hbefore | ⟨hnone, -⟩
      · exact (hwired.whole id hid hbefore).imp_right fun hstars star hstar =>
          hgrows.external_held _ _ (hstars star hstar)
      · exact .inr (hanswers.whole id hid hnone hsome)
    · rw [hnew] at hsome
      rw [Function.update_self]
      exact .inl hsome
  case external =>
    intro id hsome
    by_cases hbefore : (before.external id).exports.get? aggregateName = none
    · have hasks := hanswers.external id _ hbefore hsome
      refine ⟨_, hasker, ?_⟩
      rw [hnew]
      rcases hasks with hasks | ⟨other, hother, hasks, star, hstar, heq⟩
      · exact .inl hasks
      · refine .inr ⟨other, Nat.lt_of_lt_of_le hother hall.modules_length, hasks, star, ?_, heq⟩
        rwa [hall.stars_eq other hother]
    · obtain ⟨asker, hlt, hasks⟩ := hwired.external id hbefore
      exact ⟨asker, Nat.lt_of_lt_of_le hlt hall.modules_length,
        hall.asksExternal asker hlt id _ hasks⟩

end Session

end ScopeHoist
