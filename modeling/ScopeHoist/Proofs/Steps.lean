import ScopeHoist.Graph.Provide
import ScopeHoist.Proofs.Soundness

/-!
# Steps that fill a session

While a module gets its interface, sessions stay sound, grow, and keep the number of modules and
that of externals. A step keeps this together with what it is for, and a list of steps keeps what
each of them is for.
-/

set_option autoImplicit false

namespace ScopeHoist

structure Session.Fills (before after : Session) : Prop where
  grows : before.Grows after
  sound : after.Sound
  length : after.modules.length = before.modules.length
  outside : after.externals.length = before.externals.length

namespace Session.Fills

theorem refl (session : Session) (h : session.Sound) : session.Fills session :=
  ⟨.refl session, h, rfl, rfl⟩

theorem trans {first second third : Session} (h : first.Fills second) (h' : second.Fills third) :
    first.Fills third :=
  ⟨h.grows.trans h'.grows, h'.sound, h'.length.trans h.length, h'.outside.trans h.outside⟩

theorem of_same {before after : Session} (hsound : before.Sound)
    (hmodules : after.modules = before.modules) (hexternals : after.externals = before.externals)
    (hrecords : before.records <+: after.records)
    (hbindings : before.bindings <+: after.bindings) (hentry : after.entry = before.entry) :
    before.Fills after :=
  ⟨.of_same hmodules hexternals hrecords hbindings,
    hsound.of_same hmodules hexternals hrecords hbindings hentry, by rw [hmodules],
    by rw [hexternals]⟩

end Session.Fills

namespace InSession

/-! ## Runs of the basic steps

These are proved by tactic so that they rewrite: unfolding a whole run by definition is slow. -/

section

variable {α β : Type} (session : Session)

theorem run_pure (value : α) : (pure value : InSession α).run session = (value, session) := by rfl

theorem run_bind (action : InSession α) (next : α → InSession β) :
    (action >>= next).run session =
      (next (action.run session).1).run (action.run session).2 := by rfl

theorem run_get : (get : InSession Session).run session = (session, session) := by rfl

theorem run_modify (change : Session → Session) :
    (modify change : InSession Unit).run session = ((), change session) := by rfl

theorem run_note (level : Level) (text : String) :
    (note level text).run session = ((), session.note level text) := by rfl

theorem run_newRecord (record : ExportRecord) :
    (newRecord record).run session =
      (session.records.length, { session with records := session.records ++ [record] }) := by rfl

theorem run_addExternalExport (id : ExternalId) (name : String) (record : RecordId) :
    (addExternalExport id name record).run session =
      ((), session.setExternal id fun external =>
        { external with exports := external.exports.insert name record }) := by rfl

theorem run_addExport (id : ModuleId) (name : String) (record : RecordId) :
    (addExport id name record).run session =
      ((), session.setModule id fun module =>
        { module with exports := module.exports.insert name record }) := by rfl

end

/-! ## Steps that keep a session sound -/

/-- From a sound session with some property, a step fills the session and yields a result with
another. -/
def Keeps {α : Type} (pre : Session → Prop) (action : InSession α)
    (post : α → Session → Prop) : Prop :=
  ∀ session, session.Sound → pre session →
    session.Fills (action.run session).2 ∧ post (action.run session).1 (action.run session).2

def Steady (property : Session → Prop) : Prop :=
  ∀ before after, before.Sound → before.Fills after → property before → property after

theorem steady_and {first second : Session → Prop} (h : Steady first) (h' : Steady second) :
    Steady fun session => first session ∧ second session :=
  fun before after hsound hfills hboth =>
    ⟨h before after hsound hfills hboth.1, h' before after hsound hfills hboth.2⟩

theorem steady_supplies (target : Target) (record : RecordId) :
    Steady fun session => session.Supplies target record :=
  fun _ _ hsound hfills => hfills.grows.supplies hsound target record

theorem steady_valid (target : Target) : Steady fun session => session.Valid target :=
  fun _ _ _ hfills => hfills.grows.valid target

theorem steady_const (property : Prop) : Steady fun _ => property := fun _ _ _ _ h => h

theorem steady_forall {ι : Type} {property : ι → Session → Prop} (h : ∀ i, Steady (property i)) :
    Steady fun session => ∀ i, property i session :=
  fun before after hsound hfills hall i => h i before after hsound hfills (hall i)

theorem steady_imp {property : Session → Prop} (assumption : Prop) (h : Steady property) :
    Steady fun session => assumption → property session :=
  fun before after hsound hfills himp ha => h before after hsound hfills (himp ha)

section

variable {α β : Type} {pre : Session → Prop}

theorem keeps_weaken {pre' : Session → Prop} {action : InSession α}
    {post post' : α → Session → Prop}
    (h : Keeps pre action post) (hpre : ∀ session, pre' session → pre session)
    (hpost : ∀ value session, post value session → post' value session) :
    Keeps pre' action post' := fun session hsound hp =>
  ⟨(h session hsound (hpre session hp)).1, hpost _ _ (h session hsound (hpre session hp)).2⟩

theorem keeps_and_pre {action : InSession α} {post : α → Session → Prop} (hpre : Steady pre)
    (h : Keeps pre action post) :
    Keeps pre action fun value session => pre session ∧ post value session :=
  fun session hsound hp => by
    obtain ⟨hfills, hpost⟩ := h session hsound hp
    exact ⟨hfills, hpre _ _ hsound hfills hp, hpost⟩

theorem keeps_pure {value : α} {post : α → Session → Prop}
    (h : ∀ session, session.Sound → pre session → post value session) :
    Keeps pre (pure value) post := fun session hsound hpre =>
  ⟨.refl session hsound, h session hsound hpre⟩

theorem keeps_bind {action : InSession α} {next : α → InSession β} {mid : α → Session → Prop}
    {post : β → Session → Prop} (hpre : Steady pre) (haction : Keeps pre action mid)
    (hnext : ∀ value, Keeps (fun session => pre session ∧ mid value session) (next value) post) :
    Keeps pre (action >>= next) post := fun session hsound hp => by
  obtain ⟨hfills, hmid⟩ := haction session hsound hp
  obtain ⟨hfills', hpost⟩ :=
    hnext _ _ hfills.sound ⟨hpre _ _ hsound hfills hp, hmid⟩
  exact ⟨hfills.trans hfills', hpost⟩

theorem keeps_get {next : Session → InSession β} {post : β → Session → Prop}
    (h : ∀ before, Keeps (fun session => session = before ∧ pre session) (next before) post) :
    Keeps pre (get >>= next) post := fun session hsound hp =>
  h session session hsound ⟨rfl, hp⟩

theorem keeps_modify {change : Session → Session} {post : Session → Prop}
    (h : ∀ session, session.Sound → pre session →
      session.Fills (change session) ∧ post (change session)) :
    Keeps pre (modify change : InSession Unit) fun _ => post := h

theorem keeps_note (level : Level) (text : String) :
    Keeps pre (note level text) fun _ _ => True := fun _ hsound _ =>
  ⟨.of_same hsound rfl rfl List.prefix_rfl List.prefix_rfl rfl, trivial⟩

theorem keeps_forM {action : α → InSession Unit} (hpre : Steady pre) (values : List α)
    (h : ∀ value ∈ values, Keeps pre (action value) fun _ _ => True) :
    Keeps pre (values.forM action) fun _ _ => True := by
  induction values with
  | nil => exact keeps_pure fun _ _ _ => trivial
  | cons first rest ih =>
    change Keeps pre (action first >>= fun _ => rest.forM action) _
    refine keeps_bind hpre (h first List.mem_cons_self) fun _ => ?_
    exact keeps_weaken (ih fun value hvalue => h value (List.mem_cons_of_mem _ hvalue))
      (fun _ hp => hp.1) fun _ _ hpost => hpost

theorem keeps_mapM {action : α → InSession β} {post : α → β → Session → Prop}
    (hpre : Steady pre) (hpost : ∀ value result, Steady (post value result)) (values : List α)
    (h : ∀ value ∈ values, Keeps pre (action value) (post value)) :
    Keeps pre (values.mapM action) fun results session =>
      List.Forall₂ (fun value result => post value result session) values results := by
  induction values with
  | nil => exact keeps_pure fun _ _ _ => .nil
  | cons first rest ih =>
    rw [List.mapM_cons]
    refine keeps_bind hpre (h first List.mem_cons_self) fun result => ?_
    refine keeps_bind (steady_and hpre (hpost first result))
      (keeps_weaken (ih fun value hvalue => h value (List.mem_cons_of_mem _ hvalue))
        (fun _ hp => hp.1) fun _ _ hresults => hresults) fun results => ?_
    exact keeps_pure fun _ _ hp => .cons hp.1.2 hp.2

end

end InSession

end ScopeHoist
