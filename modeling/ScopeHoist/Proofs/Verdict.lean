import ScopeHoist.Proofs.Lists
import ScopeHoist.Shake.Session

/-!
# Verdicts are stable

A verdict that was found stays, so that all questions of a run are answered by the verdicts left at
its end. One that has a certain ground is never negative.
-/

set_option autoImplicit false

namespace ScopeHoist

theorem lookup_cons_ne {α : Type} (record other : RecordId) (h : other ≠ record) (verdict : α)
    (verdicts : List (RecordId × α)) :
    ((record, verdict) :: verdicts).lookup other = verdicts.lookup other := by
  have : (other == record) = false := by simpa using h
  simp [List.lookup_cons, this]

namespace Verdicts

def Within (before after : Verdicts) : Prop :=
  ∀ record verdict, before.lookup record = some verdict → after.lookup record = some verdict

theorem Within.refl (verdicts : Verdicts) : verdicts.Within verdicts := fun _ _ h => h

theorem Within.trans {first second third : Verdicts} (h : first.Within second)
    (h' : second.Within third) : first.Within third :=
  fun record verdict hfound => h' record verdict (h record verdict hfound)

theorem lookup_cons_self (record : RecordId) (verdict : Bool) (verdicts : Verdicts) :
    ((record, verdict) :: verdicts : Verdicts).lookup record = some verdict := by
  simp

theorem within_cons (record : RecordId) (verdict : Bool) (verdicts : Verdicts)
    (h : verdicts.lookup record = none) :
    verdicts.Within ((record, verdict) :: verdicts : Verdicts) := by
  intro other held hfound
  by_cases heq : other = record
  · rw [heq, h] at hfound
    exact absurd hfound nofun
  · rwa [lookup_cons_ne record other heq]

end Verdicts

namespace Judging

variable (session : Session)

/-- From some verdicts to later ones: none changed, and no certain one became negative. -/
structure Judged (before after : Verdicts) : Prop where
  within : before.Within after
  certain : ∀ record, .certain ∈ session.grounds record → after.lookup record = some false →
    before.lookup record = some false

theorem Judged.refl (verdicts : Verdicts) : Judged session verdicts verdicts :=
  ⟨.refl verdicts, fun _ _ h => h⟩

theorem Judged.trans {first second third : Verdicts} (h : Judged session first second)
    (h' : Judged session second third) : Judged session first third :=
  ⟨h.within.trans h'.within, fun record hcertain hfound =>
    h.certain record hcertain (h'.certain record hcertain hfound)⟩

/-- An action only adds verdicts, and its result has a property in view of all later ones. -/
def Settles {α : Type} (action : Judging α) (property : α → Verdicts → Prop) : Prop :=
  ∀ verdicts, Judged session verdicts (action.run verdicts).2 ∧
    ∀ final, (action.run verdicts).2.Within final → property (action.run verdicts).1 final

variable {session} {α β : Type}

theorem run_bind (action : Judging α) (next : α → Judging β) (verdicts : Verdicts) :
    (action >>= next).run verdicts =
      (next (action.run verdicts).1).run (action.run verdicts).2 := by rfl

theorem run_pure (value : α) (verdicts : Verdicts) :
    (pure value : Judging α).run verdicts = (value, verdicts) := by rfl

theorem settles_pure {value : α} {property : α → Verdicts → Prop}
    (h : ∀ final, property value final) : Settles session (pure value) property :=
  fun verdicts => ⟨.refl session verdicts, fun final _ => h final⟩

theorem settles_weaken {action : Judging α} {property property' : α → Verdicts → Prop}
    (h : Settles session action property)
    (hproperty : ∀ value final, property value final → property' value final) :
    Settles session action property' := fun verdicts =>
  ⟨(h verdicts).1, fun final hwithin => hproperty _ _ ((h verdicts).2 final hwithin)⟩

theorem settles_bind {action : Judging α} {next : α → Judging β} {mid : α → Verdicts → Prop}
    {property : β → Verdicts → Prop} (haction : Settles session action mid)
    (hnext : ∀ value, Settles session (next value)
      fun result final => mid value final → property result final) :
    Settles session (action >>= next) property := fun verdicts => by
  obtain ⟨hjudged, hmid⟩ := haction verdicts
  obtain ⟨hjudged', hproperty⟩ := hnext (action.run verdicts).1 (action.run verdicts).2
  exact ⟨hjudged.trans session hjudged', fun final hwithin =>
    hproperty final hwithin (hmid final (hjudged'.within.trans hwithin))⟩

theorem settles_mapM_all {action : α → Judging β} (property : α → β → Verdicts → Prop)
    (values : List α) (h : ∀ value ∈ values, Settles session (action value) (property value)) :
    Settles session (values.mapM action) fun results final =>
      List.Forall₂ (fun value result => property value result final) values results := by
  induction values with
  | nil => exact settles_pure fun _ => .nil
  | cons first rest ih =>
    rw [List.mapM_cons]
    refine settles_bind (h first List.mem_cons_self) fun result => ?_
    exact settles_bind (ih fun value hvalue => h value (List.mem_cons_of_mem _ hvalue))
      fun results => settles_pure fun final hrest hfirst => .cons hfirst hrest

theorem settles_mapM {action : α → Judging β} (property : α → β → Verdicts → Prop)
    (values : List α) (h : ∀ value ∈ values, Settles session (action value) (property value)) :
    Settles session (values.mapM action) fun results final =>
      ∀ result ∈ results, ∃ value ∈ values, property value result final :=
  settles_weaken (settles_mapM_all property values h) fun _ _ hall =>
    forall₂_mem_right hall

/-! ## Verdicts on records -/

def Decides (session : Session) (decide : RecordId → Judging Bool) : Prop :=
  ∀ record, ∀ verdicts, Judged session verdicts ((decide record).run verdicts).2

theorem judged_anyM (decide : RecordId → Judging Bool) (hdecide : Decides session decide)
    (grounds : List Ground) (verdicts : Verdicts) :
    Judged session verdicts ((grounds.anyM (groundHolds decide)).run verdicts).2 ∧
      (.certain ∈ grounds → ((grounds.anyM (groundHolds decide)).run verdicts).1 = true) := by
  induction grounds generalizing verdicts with
  | nil => exact ⟨.refl session verdicts, by simp⟩
  | cons first rest ih =>
    rw [List.anyM_cons, run_bind]
    cases first with
    | certain => exact ⟨.refl session verdicts, fun _ => rfl⟩
    | through record =>
      have hfirst := hdecide record verdicts
      cases hresult : ((decide record).run verdicts).1 with
      | true =>
        simp only [groundHolds, hresult, run_pure, if_true]
        exact ⟨hfirst, fun _ => trivial⟩
      | false =>
        simp only [groundHolds, hresult, Bool.false_eq_true, if_false]
        obtain ⟨hrest, hcertain⟩ := ih ((decide record).run verdicts).2
        refine ⟨hfirst.trans session hrest, fun hmem => hcertain ?_⟩
        simpa using hmem

theorem run_get (verdicts : Verdicts) :
    (get : Judging Verdicts).run verdicts = (verdicts, verdicts) := by rfl

theorem run_modify (change : Verdicts → Verdicts) (verdicts : Verdicts) :
    (modify change : Judging Unit).run verdicts = ((), change verdicts) := by rfl

theorem run_judge_known (depth : Nat) (record : RecordId) (verdicts : Verdicts) (verdict : Bool)
    (h : verdicts.lookup record = some verdict) :
    (judge session (depth + 1) record).run verdicts = (verdict, verdicts) := by
  simp only [judge, run_bind, run_get, h, run_pure]

theorem run_judge_new (depth : Nat) (record : RecordId) (verdicts : Verdicts)
    (h : verdicts.lookup record = none) :
    let asked := ((session.grounds record).anyM (groundHolds (judge session depth))).run
      ((record, false) :: verdicts)
    (judge session (depth + 1) record).run verdicts =
      (asked.1, (record, asked.1) :: asked.2) := by
  simp only [judge, run_bind, run_get, h, run_modify, run_pure]

theorem judged_new (record : RecordId) (verdict : Bool) (before after : Verdicts)
    (h : before.lookup record = none)
    (hjudged : Judged session ((record, false) :: before : Verdicts) after)
    (hcertain : .certain ∈ session.grounds record → verdict = true) :
    Judged session before ((record, verdict) :: after : Verdicts) := by
  refine ⟨fun other held hheld => ?_, fun other hground hnegative => ?_⟩
  · have hne : other ≠ record := fun heq => by simp [heq, h] at hheld
    rw [lookup_cons_ne record other hne]
    exact hjudged.within other held (Verdicts.within_cons record false before h other held hheld)
  · by_cases heq : other = record
    · subst heq
      rw [Verdicts.lookup_cons_self, hcertain hground] at hnegative
      exact absurd hnegative (by decide)
    · rw [lookup_cons_ne record other heq] at hnegative
      have := hjudged.certain other hground hnegative
      rwa [lookup_cons_ne record other heq] at this

theorem decides_judge (depth : Nat) : Decides session (judge session depth) := by
  induction depth with
  | zero => exact fun _ verdicts => .refl session verdicts
  | succ depth ih =>
    intro record verdicts
    cases hknown : verdicts.lookup record with
    | some verdict =>
      rw [run_judge_known depth record verdicts verdict hknown]
      exact .refl session verdicts
    | none =>
      rw [run_judge_new depth record verdicts hknown]
      obtain ⟨hjudged, hcertain⟩ := judged_anyM _ ih (session.grounds record)
        ((record, false) :: verdicts)
      exact judged_new record _ verdicts _ hknown hjudged hcertain

theorem settles_isUsed (record : RecordId) :
    Settles session (session.isUsed record) fun used final => final.lookup record = some used := by
  intro verdicts
  refine ⟨decides_judge _ record verdicts, fun final hwithin => hwithin record _ ?_⟩
  change ((judge session (session.records.length + 1) record).run verdicts).2.lookup record =
    some ((judge session (session.records.length + 1) record).run verdicts).1
  cases hknown : verdicts.lookup record with
  | some verdict =>
    rw [run_judge_known _ record verdicts verdict hknown]
    exact hknown
  | none =>
    rw [run_judge_new _ record verdicts hknown]
    exact Verdicts.lookup_cons_self _ _ _

theorem settles_isUnused (record : RecordId) :
    Settles session (do return !(← session.isUsed record))
      fun unused final => final.lookup record = some (!unused) := by
  refine settles_bind (settles_isUsed record) fun used => settles_pure fun final hused => ?_
  rw [Bool.not_not]
  exact hused

/-! ## The verdict on a session -/

theorem settles_allUnused (records : List RecordId) :
    Settles session (allUnused session records) fun all final =>
      all = true → ∀ record ∈ records, final.lookup record = some false := by
  induction records with
  | nil => exact settles_pure fun _ _ => by simp
  | cons first rest ih =>
    unfold allUnused
    rw [List.allM_cons]
    refine settles_bind (settles_isUnused first) fun unused => ?_
    cases unused with
    | false => exact settles_pure fun _ _ => nofun
    | true =>
      refine settles_weaken ih fun all final hall hfirst hall_true record hrecord => ?_
      rcases List.mem_cons.mp hrecord with rfl | hrecord
      · exact hfirst
      · exact hall hall_true record hrecord

/-- A declaration that can go: it has no uses, or none but exports nobody uses. -/
def IsIdle (session : Session) (module : Module) (id : BindingId) (final : Verdicts) : Prop :=
  ∃ binding, session.bindings[id]? = some binding ∧
    (binding.usage.references = 0 ∨
      (module.isEntry = false ∧ binding.usage.localReferences = 0 ∧
        ∀ record ∈ session.ownedRecords module id, final.lookup record = some false))

theorem settles_idleness? (module : Module) (id : BindingId) :
    Settles session (idleness? session module id) fun result final =>
      ∀ idleness, result = some idleness → IsIdle session module id final := by
  unfold idleness?
  cases hbinding : session.bindings[id]? with
  | none => exact settles_pure fun _ => nofun
  | some binding =>
    dsimp only
    split
    · rename_i hunused
      exact settles_pure fun _ _ _ => ⟨binding, hbinding, .inl (by simpa using hunused)⟩
    · split
      · exact settles_pure fun _ => nofun
      · rename_i hlocal
        split
        · exact settles_pure fun _ => nofun
        · refine settles_bind (settles_allUnused _) fun all => ?_
          cases all with
          | false => exact settles_pure fun _ _ => nofun
          | true =>
            refine settles_pure fun final hall _ _ => ⟨binding, hbinding, .inr ?_⟩
            simp only [Bool.or_eq_true, decide_eq_true_eq, not_or, Bool.not_eq_true,
              Nat.not_lt, Nat.le_zero] at hlocal
            exact ⟨hlocal.1, hlocal.2, hall rfl⟩

theorem settles_idleBindingsOf (module : Module) :
    Settles session (idleBindingsOf session module) fun found final =>
      ∀ idle ∈ found, idle.1 ∈ module.bindings ∧ IsIdle session module idle.1 final := by
  refine settles_bind (settles_mapM (fun id found final =>
      ∀ idle ∈ found, idle.1 = id ∧ IsIdle session module id final) module.bindings fun id _ =>
    settles_bind (settles_idleness? module id) fun result =>
      settles_pure fun final h idle hidle => ?_)
    fun results => settles_pure fun final hall idle hidle => ?_
  · simp only [Option.mem_toList, Option.map_eq_some_iff] at hidle
    obtain ⟨idleness, rfl, rfl⟩ := hidle
    exact ⟨rfl, h idleness rfl⟩
  · obtain ⟨found, hfound, hmem⟩ := List.mem_flatten.mp hidle
    obtain ⟨id, hid, hproperty⟩ := hall found hfound
    obtain ⟨rfl, hidle⟩ := hproperty idle hmem
    exact ⟨hid, hidle⟩

theorem settles_filterAuxM (records kept : List RecordId) :
    Settles session
      (List.filterAuxM (fun record => do return !(← session.isUsed record)) records kept)
      fun result final =>
        (∀ record, record ∈ result →
          record ∈ kept ∨ (record ∈ records ∧ final.lookup record = some false)) ∧
        (∀ record, record ∈ kept → record ∈ result) ∧
        (∀ record ∈ records, record ∉ result → final.lookup record = some true) := by
  induction records generalizing kept with
  | nil => exact settles_pure fun _ => ⟨fun _ h => .inl h, fun _ h => h, by simp⟩
  | cons first rest ih =>
    unfold List.filterAuxM
    refine settles_bind (settles_isUnused first) fun unused => ?_
    refine settles_weaken (ih _) fun result final hresult hfirst => ?_
    obtain ⟨hfrom, hkept, hused⟩ := hresult
    cases unused with
    | true =>
      refine ⟨fun record hrecord => ?_, fun record hrecord => hkept record
        (List.mem_cons_of_mem _ hrecord), fun record hrecord hout => ?_⟩
      · rcases hfrom record hrecord with hrecord | ⟨hrecord, hnegative⟩
        · rcases List.mem_cons.mp hrecord with rfl | hrecord
          · exact .inr ⟨List.mem_cons_self, hfirst⟩
          · exact .inl hrecord
        · exact .inr ⟨List.mem_cons_of_mem _ hrecord, hnegative⟩
      · rcases List.mem_cons.mp hrecord with rfl | hrecord
        · exact absurd (hkept _ List.mem_cons_self) hout
        · exact hused record hrecord hout
    | false =>
      refine ⟨fun record hrecord => ?_, hkept, fun record hrecord hout => ?_⟩
      · exact (hfrom record hrecord).imp_right fun h => ⟨List.mem_cons_of_mem _ h.1, h.2⟩
      · rcases List.mem_cons.mp hrecord with rfl | hrecord
        · exact hfirst
        · exact hused record hrecord hout

theorem settles_filterM (records : List RecordId) :
    Settles session (records.filterM fun record => do return !(← session.isUsed record))
      fun result final =>
        (∀ record ∈ result, record ∈ records ∧ final.lookup record = some false) ∧
        (∀ record ∈ records, record ∉ result → final.lookup record = some true) := by
  refine settles_bind (settles_filterAuxM records []) fun kept => settles_pure fun final h => ?_
  obtain ⟨hfrom, -, hused⟩ := h
  refine ⟨fun record hrecord => ?_, fun record hrecord hout => hused record hrecord fun hin =>
    hout (List.mem_reverse.mpr hin)⟩
  exact (hfrom record (List.mem_reverse.mp hrecord)).resolve_left (by simp)

end Judging

/-- The verdicts on records that a verdict on a session rests on. -/
structure Verdict.RestsOn (verdict : Verdict) (session : Session) (final : Verdicts) : Prop where
  idle : ∀ idle ∈ verdict.idle, ∃ module ∈ session.modules,
    idle.1 ∈ module.bindings ∧ Judging.IsIdle session module idle.1 final
  unused : ∀ record ∈ verdict.unused,
    record ∈ session.removableRecords ∧ final.lookup record = some false
  used : ∀ record ∈ session.removableRecords, record ∉ verdict.unused →
    final.lookup record = some true

theorem settles_verdict (session : Session) :
    Judging.Settles session
      (do
        let idle ← session.modules.mapM (idleBindingsOf session)
        let unused ← session.removableRecords.filterM
          fun record => do return !(← session.isUsed record)
        return (⟨idle.flatten, unused⟩ : Verdict))
      fun verdict final => verdict.RestsOn session final := by
  refine Judging.settles_bind (Judging.settles_mapM _ session.modules fun module _ =>
    Judging.settles_idleBindingsOf module) fun idle => ?_
  refine Judging.settles_bind (Judging.settles_filterM session.removableRecords)
    fun unused => Judging.settles_pure fun final hunused hidle => ?_
  refine ⟨fun entry hentry => ?_, hunused.1, hunused.2⟩
  obtain ⟨found, hfound, hmem⟩ := List.mem_flatten.mp hentry
  obtain ⟨module, hmodule, hproperty⟩ := hidle found hfound
  exact ⟨module, hmodule, hproperty entry hmem⟩

/-- All decisions on a session are by the same verdicts, none of which is negative on a record with
a certain ground. -/
theorem Session.verdict_restsOn (session : Session) :
    ∃ final, session.verdict.RestsOn session final ∧
      ∀ record, .certain ∈ session.grounds record → final.lookup record ≠ some false := by
  obtain ⟨hjudged, hproperty⟩ := settles_verdict session []
  refine ⟨_, hproperty _ (.refl _), fun record hcertain hnegative => ?_⟩
  exact absurd (hjudged.certain record hcertain hnegative) nofun

end ScopeHoist
