import Mathlib.Data.List.Induction
import ScopeHoist.Proofs.Growth
import ScopeHoist.Proofs.Steps
import ScopeHoist.Proofs.Verdict

/-!
# What shaking leaves

But for what it notes down, shaking is a function of the session: tables lose the unused records,
programs lose the declarations of idle names, and of each module exactly the declarations of names
that a declaration was taken out for are marked.
-/

set_option autoImplicit false

namespace ScopeHoist

/-! ## Sessions without their journal -/

def Session.silent (session : Session) : Session := { session with journal := .empty }

namespace InSession

/-- A step that does, but for notes, what a function says, and answers with what another one says.
-/
def Performs {α : Type} (action : InSession α) (result : Session → α)
    (change : Session → Session) : Prop :=
  ∀ session, (action.run session).1 = result session.silent ∧
    (action.run session).2.silent = change session.silent

theorem performs_note (level : Level) (text : String) :
    Performs (note level text) (fun _ => ()) id := fun _ => ⟨rfl, rfl⟩

theorem performs_pure {α : Type} (value : α) : Performs (pure value) (fun _ => value) id :=
  fun _ => ⟨rfl, rfl⟩

theorem performs_bind {α β : Type} {action : InSession α} {next : α → InSession β}
    {result : Session → α} {change : Session → Session} {result' : α → Session → β}
    {change' : α → Session → Session} (h : Performs action result change)
    (h' : ∀ value, Performs (next value) (result' value) (change' value)) :
    Performs (action >>= next) (fun session => result' (result session) (change session))
      fun session => change' (result session) (change session) := fun session => by
  obtain ⟨hresult, hchange⟩ := h session
  obtain ⟨hresult', hchange'⟩ := h' (action.run session).1 (action.run session).2
  rw [run_bind, hresult', hchange', hresult, hchange]
  exact ⟨rfl, rfl⟩

theorem performs_forM {α : Type} {action : α → InSession Unit}
    {change : α → Session → Session}
    (h : ∀ value, Performs (action value) (fun _ => ()) (change value)) (values : List α) :
    Performs (values.forM action) (fun _ => ())
      fun session => values.foldl (fun session value => change value session) session := by
  induction values with
  | nil => exact performs_pure ()
  | cons first rest ih => exact performs_bind (h first) fun _ => ih

theorem performs_get_bind {α : Type} (next : Session → InSession α)
    {result : Session → Session → α} {change : Session → Session → Session}
    (hnext : ∀ session, next session = next session.silent)
    (h : ∀ session, Performs (next session) (result session) (change session)) :
    Performs (get >>= next) (fun session => result session session)
      fun session => change session session := fun session => by
  rw [run_bind, run_get, hnext]
  exact h session.silent session

theorem performs_modify (change : Session → Session)
    (h : ∀ session, (change session).silent = change session.silent) :
    Performs (modify change : InSession Unit) (fun _ => ()) change := fun session =>
  ⟨rfl, h session⟩

theorem performs_notes {α : Type} (level : Level) (text : α → String) (values : List α) :
    Performs (values.forM fun value => note level (text value)) (fun _ => ()) id := by
  induction values with
  | nil => exact performs_pure ()
  | cons first rest ih => exact performs_bind (performs_note level (text first)) fun _ => ih

def resultsOf {α β : Type} (result : α → Session → β) (change : α → Session → Session) :
    List α → Session → List β
  | [], _ => []
  | value :: rest, session =>
    result value session :: resultsOf result change rest (change value session)

theorem performs_mapM {α β : Type} {action : α → InSession β} {result : α → Session → β}
    {change : α → Session → Session}
    (h : ∀ value, Performs (action value) (result value) (change value)) (values : List α) :
    Performs (values.mapM action) (resultsOf result change values)
      fun session => values.foldl (fun session value => change value session) session := by
  induction values with
  | nil => exact performs_pure []
  | cons first rest ih =>
    rw [List.mapM_cons]
    exact performs_bind (h first) fun result => performs_bind ih fun results =>
      performs_pure (result :: results)

end InSession

/-! ## Shaking as a function -/

namespace Session

def markRemoved (id : BindingId) (session : Session) : Session :=
  session.setBinding id fun binding => { binding with removed := true }

def lostIdentities (idle : List BindingId) (module : Module) (session : Session) : List Identity :=
  module.program.idleIdentities (session.idleIdentities idle module)

def removal (idle : List BindingId) (id : ModuleId) (session : Session) : List BindingId :=
  (session.module id).bindings.filter
    (session.isAmong (session.lostIdentities idle (session.module id)))

end Session

def Program.relieved (unused : List Identity) (program : Program) : Program :=
  if unused.isEmpty then program else program.withoutIdle unused

theorem isIdle_nil (declarator : Tree) : isIdle [] declarator = false := by
  unfold isIdle
  cases declaratorIdentities declarator <;> simp

theorem Program.idleIdentities_nil (program : Program) : program.idleIdentities [] = [] := by
  have htree : ∀ tree : Tree, tree.idleIdentities [] = [] := fun tree => by
    unfold Tree.idleIdentities
    split <;> simp [isIdle_nil]
  have hitem : ∀ item : Item, item.idleIdentities [] = [] := fun item => by
    unfold Item.idleIdentities
    split <;> simp [htree]
  simp [Program.idleIdentities, hitem]

namespace Session

theorem removal_eq_nil (session : Session) (idle : List BindingId) (id : ModuleId)
    (h : session.lostIdentities idle (session.module id) = []) :
    session.removal idle id = [] := by
  rw [removal, h, List.filter_eq_nil_iff]
  intro binding _
  unfold isAmong
  cases session.bindings[binding]? <;> simp

def removeIdle (idle : List BindingId) (id : ModuleId) (session : Session) : Session :=
  (session.removal idle id).foldl (fun session binding => session.markRemoved binding)
    (session.setModule id fun module =>
      { module with
        program := module.program.relieved (session.idleIdentities idle (session.module id)) })

/-- The session after shaking, given what is idle and unused. -/
def relieve (idle : List BindingId) (unused : List RecordId) (count : Nat) (session : Session) :
    Session :=
  (List.range count).foldl (fun session id => session.removeIdle idle id)
    (session.withoutRecords unused)

end Session

namespace InSession

theorem performs_markRemoved (id : BindingId) :
    Performs (markRemoved id) (fun _ => ()) (Session.markRemoved id) := fun _ => ⟨rfl, rfl⟩

theorem setModule_same (session : Session) (id : ModuleId) :
    (session.setModule id fun module => { module with program := module.program }) = session := by
  have hsame : (session.modules.modify id fun module => module) = session.modules :=
    List.modify_id id session.modules
  simp only [Session.setModule, hsame]

theorem performs_removeIdle (idle : List BindingId) (id : ModuleId) :
    Performs (removeIdle idle id) (fun session => session.removal idle id)
      (Session.removeIdle idle id) := by
  intro session
  cases hunused : session.idleIdentities idle (session.module id) with
  | nil =>
    have hrun : (removeIdle idle id).run session = ([], session) := by
      simp only [removeIdle, run_bind, run_get, hunused, List.isEmpty_nil, if_true, run_pure]
    have hunused' : session.silent.idleIdentities idle (session.silent.module id) = [] := hunused
    have hremoval : session.silent.removal idle id = [] := by
      apply Session.removal_eq_nil
      rw [Session.lostIdentities, hunused', Program.idleIdentities_nil]
    have hsame : session.silent.removeIdle idle id = session.silent := by
      rw [Session.removeIdle, hremoval, hunused']
      exact setModule_same _ _
    rw [hrun]
    exact ⟨hremoval.symm, hsame.symm⟩
  | cons first rest =>
    have hmarked := performs_forM performs_markRemoved (session.removal idle id)
      (session.setModule id fun module =>
        { module with program := module.program.withoutIdle (first :: rest) })
    have hrun : (removeIdle idle id).run session = (session.removal idle id,
        (((session.removal idle id).forM markRemoved).run (session.setModule id fun module =>
          { module with program := module.program.withoutIdle (first :: rest) })).2) := by
      simp only [removeIdle, run_bind, run_get, hunused, List.isEmpty_cons, Bool.false_eq_true,
        if_false, run_pure]
      have hlost : (session.module id).program.idleIdentities (first :: rest) =
          session.lostIdentities idle (session.module id) := by
        rw [Session.lostIdentities, hunused]
      rw [hlost]
      rfl
    have hunused' : session.silent.idleIdentities idle (session.silent.module id) =
        first :: rest := hunused
    rw [hrun]
    refine ⟨rfl, ?_⟩
    rw [hmarked.2, Session.removeIdle, hunused']
    rfl

theorem exportCount_silent (session : Session) :
    session.silent.exportCount = session.exportCount := rfl

theorem run_shake (session : Session) :
    let idle := session.verdict.idle.map Prod.fst
    let trimmed := session.silent.withoutRecords session.verdict.unused
    ((shake).run session).1 =
        ⟨(resultsOf (fun id session => session.removal idle id)
            (fun id session => session.removeIdle idle id) (List.range session.modules.length)
            trimmed).flatten.length, session.exportCount - trimmed.exportCount⟩ ∧
      ((shake).run session).2.silent =
        session.silent.relieve idle session.verdict.unused session.modules.length := by
  have hrest := performs_bind
    (performs_notes .trace (fun idle => session.idleRemark idle) session.verdict.idle)
    fun _ => performs_bind
      (performs_modify (fun later => later.withoutRecords session.verdict.unused)
        fun _ => rfl)
      fun _ => performs_get_bind
        (fun later => do
          let removed ← (List.range session.modules.length).mapM
            (removeIdle (session.verdict.idle.map Prod.fst))
          let removedBindings := removed.flatten.length
          note .info
            ("Tree shaking removed " ++ toString removedBindings ++ " declarations and "
              ++ toString (session.exportCount - later.exportCount) ++ " export entries")
          return (⟨removedBindings, session.exportCount - later.exportCount⟩ : ShakeStats))
        (fun later => by simp only [exportCount_silent])
        fun later => performs_bind (performs_mapM (performs_removeIdle _) _)
          fun removed => performs_bind (performs_note _ _) fun _ => performs_pure _
  rw [shake, run_bind, run_get]
  exact hrest session

theorem performs_shake (session : Session) :
    ((shake).run session).2.silent = session.silent.relieve (session.verdict.idle.map Prod.fst)
      session.verdict.unused session.modules.length :=
  (run_shake session).2

end InSession

/-! ## What is left of a session -/

namespace Session

theorem foldl_markRemoved (ids : List BindingId) (session : Session) :
    let after : Session := ids.foldl (fun session id => session.markRemoved id) session
    after.modules = session.modules ∧ after.externals = session.externals ∧
      after.records = session.records ∧ after.entry = session.entry ∧
        ∀ id : BindingId, after.bindings[id]? = (session.bindings[id]?).map fun binding =>
          { binding with removed := binding.removed || decide (id ∈ ids) } := by
  induction ids generalizing session with
  | nil =>
    refine ⟨rfl, rfl, rfl, rfl, fun id => ?_⟩
    rw [List.foldl_nil]
    cases session.bindings[id]? <;> simp
  | cons first rest ih =>
    obtain ⟨hmodules, hexternals, hrecords, hentry, hbindings⟩ := ih (session.markRemoved first)
    refine ⟨hmodules, hexternals, hrecords, hentry, fun id => ?_⟩
    rw [List.foldl_cons, hbindings, markRemoved, setBinding, List.getElem?_modify]
    by_cases h : first = id
    · subst h
      cases session.bindings[first]? <;> simp
    · have hne : id ≠ first := fun heq => h heq.symm
      cases session.bindings[id]? <;> simp [h, hne]

/-- A session in which some of the modules lost their idle declarations. -/
structure Relieved (before : Session) (idle : List BindingId) (done : List ModuleId)
    (after : Session) : Prop where
  length : after.modules.length = before.modules.length
  module : ∀ id, after.module id =
    if id ∈ done then
      { before.module id with
        program := (before.module id).program.relieved
          (before.idleIdentities idle (before.module id)) }
    else before.module id
  binding : ∀ id : BindingId, after.bindings[id]? = (before.bindings[id]?).map fun binding =>
    { binding with
      removed := binding.removed || decide (∃ module ∈ done, id ∈ before.removal idle module) }
  externals : after.externals = before.externals
  records : after.records = before.records
  entry : after.entry = before.entry

variable {before after : Session} {idle : List BindingId} {done : List ModuleId}

theorem Relieved.identity (h : before.Relieved idle done after) (id : BindingId) :
    (after.bindings[id]?).map Binding.identity = (before.bindings[id]?).map Binding.identity := by
  rw [h.binding]
  cases before.bindings[id]? <;> rfl

theorem Relieved.idleIdentities_eq (h : before.Relieved idle done after) (module : Module) :
    after.idleIdentities idle module = before.idleIdentities idle module := by
  simp only [idleIdentities, h.identity]

theorem Relieved.removal_eq (h : before.Relieved idle done after) (id : ModuleId)
    (hnew : id ∉ done) : after.removal idle id = before.removal idle id := by
  have hmodule : after.module id = before.module id := by rw [h.module, if_neg hnew]
  simp only [removal, lostIdentities, hmodule, h.idleIdentities_eq]
  congr 1
  funext binding
  simp only [isAmong, h.identity]

theorem Relieved.step (h : before.Relieved idle done after) (id : ModuleId) (hnew : id ∉ done)
    (hvalid : id < before.modules.length) :
    before.Relieved idle (done ++ [id]) (after.removeIdle idle id) := by
  have hmodule : after.module id = before.module id := by rw [h.module, if_neg hnew]
  unfold removeIdle
  rw [h.removal_eq id hnew, hmodule, h.idleIdentities_eq]
  obtain ⟨hmodules, hexternals, hrecords, hentry, hbindings⟩ :=
    foldl_markRemoved (before.removal idle id) (after.setModule id fun module =>
      { module with
        program := module.program.relieved (before.idleIdentities idle (before.module id)) })
  refine ⟨?_, fun other => ?_, fun binding => ?_, ?_, ?_, ?_⟩
  · rw [hmodules, setModule_length, h.length]
  · rw [Session.module, hmodules]
    change (after.setModule id _).module other = _
    rw [module_setModule, hmodule, h.module other]
    have hlt : id < after.modules.length := h.length ▸ hvalid
    by_cases heq : other = id
    · subst heq
      simp [hlt]
    · simp [heq]
  · rw [hbindings, setModule, h.binding]
    cases before.bindings[binding]? with
    | none => rfl
    | some found =>
      simp only [Option.map_some, List.mem_append, List.mem_singleton, Bool.or_assoc]
      congr 3
      rw [Bool.eq_iff_iff]
      simp only [Bool.or_eq_true, decide_eq_true_eq]
      constructor
      · rintro (⟨module, hmodule, hmem⟩ | hmem)
        · exact ⟨module, List.mem_append_left _ hmodule, hmem⟩
        · exact ⟨id, List.mem_append_right _ List.mem_cons_self, hmem⟩
      · rintro ⟨module, hmodule, hmem⟩
        rcases List.mem_append.mp hmodule with hmodule | hmodule
        · exact .inl ⟨module, hmodule, hmem⟩
        · exact .inr (List.mem_singleton.mp hmodule ▸ hmem)
  · rw [hexternals]
    exact h.externals
  · rw [hrecords]
    exact h.records
  · rw [hentry]
    exact h.entry

theorem relieved_foldl (idle : List BindingId) (ids : List ModuleId) (session : Session)
    (hnodup : ids.Nodup) (hvalid : ∀ id ∈ ids, id < session.modules.length) :
    session.Relieved idle ids
      (ids.foldl (fun session id => session.removeIdle idle id) session) := by
  induction ids using List.reverseRecOn with
  | nil =>
    refine ⟨rfl, fun _ => by simp, fun id => ?_, rfl, rfl, rfl⟩
    rw [List.foldl_nil]
    cases session.bindings[id]? <;> simp
  | append_singleton init last ih =>
    obtain ⟨hinit, -, hlast⟩ := List.nodup_append.mp hnodup
    rw [List.foldl_append]
    refine (ih hinit fun id hid => hvalid id (List.mem_append_left _ hid)).step last
      (fun hmem => hlast last hmem last List.mem_cons_self rfl)
      (hvalid last (List.mem_append_right _ List.mem_cons_self))

/-- What a session and the same one shaken have to do with each other, if some declarations were
idle and some records unused. -/
structure Shaken (before : Session) (idle : List BindingId) (unused : List RecordId)
    (after : Session) : Prop where
  length : after.modules.length = before.modules.length
  externals_length : after.externals.length = before.externals.length
  module : ∀ id, id < before.modules.length → ∃ stars ⊆ (before.module id).stars,
    after.module id =
      { before.module id with
        exports :=
          if (before.module id).isEntry then (before.module id).exports
          else exportsWithout unused (before.module id).exports
        stars := stars
        program := (before.module id).program.relieved
          (before.idleIdentities idle (before.module id)) }
  external : ∀ id, id < before.externals.length → after.external id =
    { before.external id with exports := exportsWithout unused (before.external id).exports }
  binding : ∀ id : BindingId, after.bindings[id]? = (before.bindings[id]?).map fun binding =>
    { binding with
      removed := binding.removed ||
        decide (∃ module < before.modules.length, id ∈ before.removal idle module) }
  records : after.records = before.records
  entry : after.entry = before.entry

section

variable {before after : Session} {idle : List BindingId} {unused : List RecordId}
  (h : before.Shaken idle unused after)
include h

theorem Shaken.identity (id : BindingId) : (after.bindings[id]?).map Binding.identity =
    (before.bindings[id]?).map Binding.identity := by
  rw [h.binding]
  cases before.bindings[id]? <;> rfl

variable (id : ModuleId) (hid : id < before.modules.length)
include hid

theorem Shaken.path_eq : (after.module id).path = (before.module id).path := by
  obtain ⟨stars, -, hmodule⟩ := h.module id hid
  rw [hmodule]

theorem Shaken.isEntry_eq : (after.module id).isEntry = (before.module id).isEntry := by
  obtain ⟨stars, -, hmodule⟩ := h.module id hid
  rw [hmodule]

theorem Shaken.bindings_eq : (after.module id).bindings = (before.module id).bindings := by
  obtain ⟨stars, -, hmodule⟩ := h.module id hid
  rw [hmodule]

theorem Shaken.imports_eq : (after.module id).imports = (before.module id).imports := by
  obtain ⟨stars, -, hmodule⟩ := h.module id hid
  rw [hmodule]

theorem Shaken.unnamedDefault_eq :
    (after.module id).unnamedDefault = (before.module id).unnamedDefault := by
  obtain ⟨stars, -, hmodule⟩ := h.module id hid
  rw [hmodule]

theorem Shaken.program_eq : (after.module id).program =
    (before.module id).program.relieved (before.idleIdentities idle (before.module id)) := by
  obtain ⟨stars, -, hmodule⟩ := h.module id hid
  rw [hmodule]

theorem Shaken.stars_subset : (after.module id).stars ⊆ (before.module id).stars := by
  obtain ⟨stars, hstars, hmodule⟩ := h.module id hid
  rw [hmodule]
  exact hstars

end

theorem getD_map {α : Type} (values : List α) (f : α → α) (i : Nat) (fallback : α)
    (hi : i < values.length) : (values.map f).getD i fallback = f (values.getD i fallback) := by
  simp [List.getElem?_eq_getElem hi]

theorem module_withoutRecords_eq (session : Session) (unused : List RecordId) (id : ModuleId)
    (hid : id < session.modules.length) : (session.withoutRecords unused).module id =
      ((session.module id).withoutRecords unused).withoutIdleStars
        (session.withoutRecords unused) := by
  rw [Session.module, withoutRecords, getD_map _ _ _ _ (by simpa using hid),
    getD_map _ _ _ _ hid]
  rfl

theorem module_withoutRecords (session : Session) (unused : List RecordId) (id : ModuleId)
    (hid : id < session.modules.length) :
    ∃ stars ⊆ (session.module id).stars, (session.withoutRecords unused).module id =
      { session.module id with
        exports :=
          if (session.module id).isEntry then (session.module id).exports
          else exportsWithout unused (session.module id).exports
        stars := stars } := by
  rw [session.module_withoutRecords_eq unused id hid]
  by_cases hentry : (session.module id).isEntry
  · refine ⟨(session.module id).stars, fun _ h => h, ?_⟩
    rw [Module.withoutRecords, if_pos hentry, Module.withoutIdleStars, if_pos hentry,
      if_pos hentry]
  · refine ⟨((session.module id).stars.filter fun star =>
      ((session.withoutRecords unused).external star.external).exports.has aggregateName),
      fun _ h => (List.mem_filter.mp h).1, ?_⟩
    simp [Module.withoutRecords, Module.withoutIdleStars, hentry]

theorem external_withoutRecords (session : Session) (unused : List RecordId) (id : ExternalId)
    (hid : id < session.externals.length) :
    (session.withoutRecords unused).external id =
      { session.external id with
        exports := exportsWithout unused (session.external id).exports } := by
  rw [Session.external, withoutRecords, getD_map _ _ _ _ hid]
  rfl

theorem withoutRecords_length (session : Session) (unused : List RecordId) :
    (session.withoutRecords unused).modules.length = session.modules.length := by
  simp [withoutRecords]

/-- Once the records are taken out of all tables, every module loses its idle declarations. -/
theorem relieved_relieve (session : Session) (idle : List BindingId) (unused : List RecordId) :
    (session.withoutRecords unused).Relieved idle (List.range session.modules.length)
      (session.relieve idle unused session.modules.length) :=
  relieved_foldl idle (List.range session.modules.length) (session.withoutRecords unused)
    List.nodup_range fun _ hid => session.withoutRecords_length unused ▸ List.mem_range.mp hid

theorem shaken_relieve (session : Session) (idle : List BindingId) (unused : List RecordId) :
    session.Shaken idle unused (session.relieve idle unused session.modules.length) := by
  have hlength := session.withoutRecords_length unused
  have hrelieved := session.relieved_relieve idle unused
  refine ⟨hrelieved.length.trans hlength, ?_, fun id hid => ?_, fun id hid => ?_, fun id => ?_,
    hrelieved.records, hrelieved.entry⟩
  · rw [hrelieved.externals]
    simp [withoutRecords]
  · obtain ⟨stars, hstars, hmodule⟩ := module_withoutRecords session unused id hid
    refine ⟨stars, hstars, ?_⟩
    rw [hrelieved.module, if_pos (List.mem_range.mpr hid), hmodule]
    rfl
  · rw [Session.external, hrelieved.externals]
    exact external_withoutRecords session unused id hid
  · have hremoval : ∀ module, module < session.modules.length →
        (session.withoutRecords unused).removal idle module = session.removal idle module := by
      intro module hmodule
      obtain ⟨stars, -, heq⟩ := module_withoutRecords session unused module hmodule
      rw [removal, removal, lostIdentities, heq]
      rfl
    have hiff : (∃ module ∈ List.range session.modules.length,
        id ∈ (session.withoutRecords unused).removal idle module) ↔
          ∃ module < session.modules.length, id ∈ session.removal idle module := by
      constructor
      · rintro ⟨module, hmodule, hmem⟩
        have hlt := List.mem_range.mp hmodule
        exact ⟨module, hlt, hremoval module hlt ▸ hmem⟩
      · rintro ⟨module, hlt, hmem⟩
        exact ⟨module, List.mem_range.mpr hlt, (hremoval module hlt).symm ▸ hmem⟩
    rw [hrelieved.binding]
    simp only [hiff]
    rfl

theorem stars_relieve_eq (session : Session) (idle : List BindingId) (unused : List RecordId)
    (id : ModuleId) (hid : id < session.modules.length) :
    ((session.relieve idle unused session.modules.length).module id).stars =
      ((session.withoutRecords unused).module id).stars := by
  rw [(session.relieved_relieve idle unused).module, if_pos (List.mem_range.mpr hid)]

theorem stars_relieve_filter (session : Session) (idle : List BindingId) (unused : List RecordId)
    (id : ModuleId) (hid : id < session.modules.length) :
    ((session.relieve idle unused session.modules.length).module id).stars =
      if (session.module id).isEntry then (session.module id).stars
      else (session.module id).stars.filter fun star =>
        ((session.relieve idle unused session.modules.length).external
          star.external).exports.has aggregateName := by
  have hexternal : ∀ other, (session.relieve idle unused session.modules.length).external other =
      (session.withoutRecords unused).external other := fun other => by
    rw [Session.external, (session.relieved_relieve idle unused).externals, Session.external]
  simp only [hexternal, session.stars_relieve_eq idle unused id hid,
    session.module_withoutRecords_eq unused id hid, Module.withoutRecords, Module.withoutIdleStars]
  by_cases hentry : (session.module id).isEntry
  · simp [hentry]
  · simp [hentry]

theorem stars_relieve (session : Session) (idle : List BindingId) (unused : List RecordId)
    (id : ModuleId) (hid : id < session.modules.length)
    (hkept : ∀ star ∈ (session.module id).stars,
      ((session.relieve idle unused session.modules.length).external
        star.external).exports.has aggregateName = true) :
    ((session.relieve idle unused session.modules.length).module id).stars =
      (session.module id).stars := by
  rw [session.stars_relieve_filter idle unused id hid]
  split
  · rfl
  · exact List.filter_eq_self.mpr hkept

theorem stars_relieve_sublist (session : Session) (idle : List BindingId) (unused : List RecordId)
    (id : ModuleId) (hid : id < session.modules.length) :
    ((session.relieve idle unused session.modules.length).module id).stars.Sublist
      (session.module id).stars := by
  rw [session.stars_relieve_filter idle unused id hid]
  split
  · exact List.Sublist.refl _
  · exact List.filter_sublist

theorem stars_relieve_entry (session : Session) (idle : List BindingId) (unused : List RecordId)
    (id : ModuleId) (hid : id < session.modules.length)
    (hentry : (session.module id).isEntry = true) :
    ((session.relieve idle unused session.modules.length).module id).stars =
      (session.module id).stars := by
  rw [session.stars_relieve_filter idle unused id hid, if_pos hentry]

end Session

end ScopeHoist
