import ScopeHoist.Proofs.Judgement
import ScopeHoist.Proofs.Namespaces

/-!
# What a namespace that is used keeps

In a graph of plain names the namespace of a module is in its table, and in no other table than its
own and those of modules with greater numbers. So verdicts are right there, and shaking spares all
that a used namespace holds: the exports of the module, and the namespaces of the externals that
the module exports whole.
-/

set_option autoImplicit false

namespace ScopeHoist

/-- One more than the number of the module that a record is the namespace of, or nothing. -/
def ExportRecord.namespaceRank (record : ExportRecord) : Nat :=
  match record.source with
  | .module id => if record.localName = aggregateName ∧ record.owner = none then id + 1 else 0
  | .external _ => 0

namespace Session

def namespaceRank (session : Session) (record : RecordId) : Nat :=
  ((session.records[record]?).map ExportRecord.namespaceRank).getD 0

variable {session : Session}

theorem IsAggregate.namespaceRank {id : ModuleId} {record : RecordId}
    (h : session.IsAggregate id record) : session.namespaceRank record = id + 1 := by
  obtain ⟨found, hfound, hname, hsource, howner⟩ := h
  simp [Session.namespaceRank, ExportRecord.namespaceRank, hfound, hname, hsource, howner]

theorem namespaceRank_pos (record : RecordId) (h : 0 < session.namespaceRank record) :
    ∃ id, session.IsAggregate id record := by
  unfold Session.namespaceRank ExportRecord.namespaceRank at h
  cases hfound : session.records[record]? with
  | none => simp [hfound] at h
  | some found =>
    cases hsource : found.source with
    | external id => simp [hfound, hsource] at h
    | module id =>
      by_cases hnamed : found.localName = aggregateName ∧ found.owner = none
      · exact ⟨id, found, hfound, hnamed.1, hsource, hnamed.2⟩
      · simp [hfound, hsource, hnamed] at h

theorem Sound.le_of_reaches (hsound : session.Sound) (first second : ModuleId)
    (h : session.Reaches first second) : second ≤ first := by
  induction h with
  | refl => exact Nat.le_refl first
  | tail _ hstep ih => exact Nat.le_of_lt (Nat.lt_of_lt_of_le (hsound.dependencies_lt _ _ hstep) ih)

theorem Sound.aggregate_held (hsound : session.Sound) (id : ModuleId)
    (hid : id < session.modules.length) (record : RecordId)
    (hrecord : record ∈ (session.module id).exports.values) (other : ModuleId)
    (haggregate : session.IsAggregate other record) :
    other ≤ id ∧ (session.module other).exports.get? aggregateName = some record := by
  obtain ⟨found, hfound, hname, hsource, howner⟩ := haggregate
  obtain ⟨found', hfound', hprovides, hreaches⟩ :=
    (hsound.modules id hid).exports.supplies record hrecord
  obtain rfl := Option.some.inj (hfound.symm.trans hfound')
  rw [hsound.id_eq id hid] at hreaches
  refine ⟨hsound.le_of_reaches id other (hreaches other hsource), ?_⟩
  cases hprovides with
  | external external hexternal => exact absurd (hsource.symm.trans hexternal) nofun
  | declared module owner binding _ howned => exact absurd (howner.symm.trans howned) nofun
  | unnamed module _ _ _ hdefault =>
    exact absurd (hname.symm.trans hdefault) InSession.aggregateName_ne_defaultName
  | aggregate module hmodule _ _ _ hentry =>
    obtain rfl := Target.module.inj (hsource.symm.trans hmodule)
    exact hentry

/-! ## Grounds -/

theorem through_of_exposure (module : Module) (name : String) (aggregate : RecordId)
    (h : exposureGround module name = some (.through aggregate)) :
    module.exports.get? aggregateName = some aggregate ∧
      name ≠ defaultName ∧ name ≠ aggregateName := by
  unfold exposureGround at h
  split at h
  · exact absurd h nofun
  · split at h
    · exact absurd h nofun
    · rename_i hname
      obtain ⟨found, hfound, heq⟩ := Option.map_eq_some_iff.mp h
      exact ⟨Ground.through.inj heq ▸ hfound, by simpa using hname⟩

/-- A record is used through the namespace of a module only if the module exports it by the name of
a member, or if it is the namespace of an external that the module exports whole. -/
theorem through_of_mem_grounds (record aggregate : RecordId)
    (h : .through aggregate ∈ session.grounds record) :
    ∃ id < session.modules.length,
      (session.module id).exports.get? aggregateName = some aggregate ∧
        ((∃ name, (name, record) ∈ (session.module id).exports ∧
            name ≠ defaultName ∧ name ≠ aggregateName) ∨
          ∃ star ∈ (session.module id).stars, ∃ found, session.records[record]? = some found ∧
            found.localName = aggregateName ∧ found.source = .external star.external) := by
  unfold grounds at h
  split at h
  · exact absurd (List.mem_singleton.mp h) nofun
  · rcases List.mem_append.mp h with h | h
    · obtain ⟨module, hmodule, hground⟩ := List.mem_flatMap.mp h
      obtain ⟨entry, hentry, hground⟩ := List.mem_filterMap.mp hground
      obtain ⟨hmem, hrecord⟩ := List.mem_filter.mp hentry
      obtain ⟨id, hid, rfl⟩ := module_of_mem hmodule
      obtain ⟨haggregate, hname⟩ := through_of_exposure _ _ _ hground
      exact ⟨id, hid, haggregate, .inl ⟨entry.1, eq_of_beq hrecord ▸ hmem, hname⟩⟩
    · unfold starGrounds at h
      split at h
      · rename_i name identifier external owner exportedFrom hfound
        split at h
        · rename_i hname
          obtain ⟨module, hmodule, hground⟩ := List.mem_flatMap.mp h
          obtain ⟨star, hstar, hground⟩ := List.mem_filterMap.mp hground
          obtain ⟨hmem, hexternal⟩ := List.mem_filter.mp hstar
          obtain ⟨found, haggregate, heq⟩ := Option.map_eq_some_iff.mp hground
          obtain ⟨id, hid, rfl⟩ := module_of_mem hmodule
          exact ⟨id, hid, Ground.through.inj heq ▸ haggregate, .inr ⟨star, hmem, _, hfound,
            eq_of_beq hname, congrArg Target.external (eq_of_beq hexternal).symm⟩⟩
        · exact absurd h List.not_mem_nil
      · exact absurd h List.not_mem_nil

section

variable (hsound : session.Sound)
include hsound

theorem PlainNames.isAggregate (hplain : session.PlainNames) (id : ModuleId)
    (hid : id < session.modules.length) (aggregate : RecordId)
    (h : (session.module id).exports.get? aggregateName = some aggregate) :
    session.IsAggregate id aggregate := by
  have haggregate := (hsound.modules id hid).exports.aggregate aggregate h
  rw [hsound.id_eq id hid] at haggregate
  exact haggregate.resolve_right (hplain id hid).2

/-- What the namespace of a module holds is the namespace itself or ranks below it. -/
theorem PlainNames.rank_lt (hplain : session.PlainNames) (id : ModuleId)
    (hid : id < session.modules.length) (aggregate : RecordId)
    (hentry : (session.module id).exports.get? aggregateName = some aggregate) (record : RecordId)
    (hheld : (∃ name, (name, record) ∈ (session.module id).exports ∧
        name ≠ defaultName ∧ name ≠ aggregateName) ∨
      ∃ star ∈ (session.module id).stars, ∃ found, session.records[record]? = some found ∧
        found.localName = aggregateName ∧ found.source = .external star.external) :
    aggregate = record ∨ session.namespaceRank record < session.namespaceRank aggregate := by
  rw [(hplain.isAggregate hsound id hid aggregate hentry).namespaceRank]
  by_cases hnone : session.namespaceRank record = 0
  · exact .inr (hnone ▸ Nat.succ_pos id)
  · obtain ⟨other, hother⟩ := namespaceRank_pos record (Nat.pos_of_ne_zero hnone)
    rcases hheld with ⟨name, hheld, -⟩ | ⟨star, -, found, hfound, -, hexternal⟩
    · obtain ⟨hle, hself⟩ := hsound.aggregate_held id hid record (List.mem_map_of_mem hheld)
        other hother
      rcases Nat.eq_or_lt_of_le hle with rfl | hlt
      · exact .inl (Option.some.inj (hentry.symm.trans hself))
      · exact .inr (hother.namespaceRank ▸ Nat.succ_lt_succ hlt)
    · obtain ⟨found', hfound', -, hsource, -⟩ := hother
      obtain rfl := Option.some.inj (hfound.symm.trans hfound')
      exact absurd (hexternal.symm.trans hsource) nofun

theorem PlainNames.ranked (hplain : session.PlainNames) :
    session.Ranked session.namespaceRank := by
  constructor
  · intro record aggregate hground
    obtain ⟨id, hid, hentry, hheld⟩ := through_of_mem_grounds record aggregate hground
    exact hplain.rank_lt hsound id hid aggregate hentry record hheld
  · intro record aggregate hground
    obtain ⟨id, hid, hentry, -⟩ := through_of_mem_grounds record aggregate hground
    obtain ⟨found, hfound, -⟩ := hplain.isAggregate hsound id hid aggregate hentry
    exact (List.getElem?_eq_some_iff.mp hfound).1

end

/-! ## What a namespace holds is used with it -/

def isMemberName (name : String) : Bool := name != defaultName && name != aggregateName

theorem used_of_member (id : ModuleId) (hid : id < session.modules.length)
    (aggregate : RecordId)
    (haggregate : (session.module id).exports.get? aggregateName = some aggregate)
    (hused : session.Used aggregate) (entry : String × RecordId)
    (hentry : entry ∈ (session.module id).exports) (hname : isMemberName entry.1 = true) :
    session.Used entry.2 := by
  by_cases himported : session.isImported entry.2 = true
  · exact .certain _ (session.certain_of_isImported _ himported)
  · by_cases hfirst : (session.module id).isEntry = true
    · exact .certain _ (session.certain_of_entry id hid hfirst entry hentry)
    · apply Used.through entry.2 aggregate _ hused
      have hnot : ¬ (entry.1 = defaultName ∨ entry.1 = aggregateName) := by
        simpa [isMemberName, not_or] using hname
      have hground : exposureGround (session.module id) entry.1 = some (.through aggregate) := by
        simp [exposureGround, hfirst, hnot, haggregate]
      simp only [grounds, himported, Bool.false_eq_true, if_false]
      exact List.mem_append_left _ (List.mem_flatMap.mpr ⟨_, session.module_mem id hid,
        List.mem_filterMap.mpr ⟨entry, List.mem_filter.mpr ⟨hentry, beq_self_eq_true _⟩, hground⟩⟩)

theorem used_of_foreign (id : ModuleId) (hid : id < session.modules.length) (aggregate : RecordId)
    (haggregate : (session.module id).exports.get? aggregateName = some aggregate)
    (hused : session.Used aggregate) (star : StarReexport)
    (hstar : star ∈ (session.module id).stars) (record : RecordId) (found : ExportRecord)
    (hfound : session.records[record]? = some found) (hname : found.localName = aggregateName)
    (hsource : found.source = .external star.external) : session.Used record := by
  by_cases himported : session.isImported record = true
  · exact .certain _ (session.certain_of_isImported _ himported)
  · apply Used.through record aggregate _ hused
    obtain ⟨name, identifier, source, owner, exportedFrom⟩ := found
    change name = aggregateName at hname
    change source = .external star.external at hsource
    subst hname hsource
    simp only [grounds, himported, Bool.false_eq_true, if_false]
    apply List.mem_append_right
    simp only [starGrounds, hfound, beq_self_eq_true, if_true]
    exact List.mem_flatMap.mpr ⟨_, session.module_mem id hid, List.mem_filterMap.mpr
      ⟨star, List.mem_filter.mpr ⟨hstar, beq_self_eq_true _⟩, by rw [haggregate]; rfl⟩⟩

theorem used_of_star (hsound : session.Sound) (id : ModuleId)
    (hid : id < session.modules.length) (aggregate : RecordId)
    (haggregate : (session.module id).exports.get? aggregateName = some aggregate)
    (hused : session.Used aggregate) (star : StarReexport)
    (hstar : star ∈ (session.module id).stars) (record : RecordId)
    (hrecord : (session.external star.external).exports.get? aggregateName = some record) :
    session.Used record := by
  have hvalid := (hsound.modules id hid).stars star hstar
  obtain ⟨found, hfound, hname, hsource, -⟩ :=
    (hsound.externals star.external hvalid).entries _ (Table.mem_of_get? _ _ _ hrecord)
  exact used_of_foreign id hid aggregate haggregate hused star hstar record found hfound hname
    hsource

/-! ## What shaking spares -/

theorem PlainNames.shaken (hplain : session.PlainNames) (hsound : session.Sound) :
    ∃ idle unused, session.Just idle unused
        (fun record => session.options.treeshake = true → session.Used record) ∧
      session.Shaken idle unused ((InSession.shakeIfAsked).run session).2 := by
  cases htreeshake : session.options.treeshake with
  | true =>
    have hjust := just_used (hplain.ranked hsound)
    refine ⟨_, _, ?_, session.shaken_verdict htreeshake⟩
    simpa using hjust
  | false =>
    rw [session.shakeIfAsked_of_not htreeshake]
    refine ⟨[], [], ?_, session.shaken_nothing _ _⟩
    simpa using session.just_nothing

theorem stars_shakeIfAsked (id : ModuleId) (hid : id < session.modules.length)
    (hkept : ∀ star ∈ (session.module id).stars,
      (((InSession.shakeIfAsked).run session).2.external star.external).exports.has
        aggregateName = true) :
    (((InSession.shakeIfAsked).run session).2.module id).stars = (session.module id).stars := by
  cases htreeshake : session.options.treeshake with
  | true =>
    have hsilent := session.silent_shakeIfAsked htreeshake
    have hstars := session.silent.stars_relieve (session.verdict.idle.map Prod.fst)
      session.verdict.unused id hid
    rw [← hsilent] at hstars
    exact hstars hkept
  | false =>
    rw [session.shakeIfAsked_of_not htreeshake]
    rfl

/-- A module whose namespace object is made of the same in two sessions. -/
structure Spared (before after : Session) (id : ModuleId) : Prop where
  aggregate : (after.module id).exports.get? aggregateName =
    (before.module id).exports.get? aggregateName
  members : (after.module id).exports.filter (fun entry => isMemberName entry.1) =
    (before.module id).exports.filter fun entry => isMemberName entry.1
  stars : (after.module id).stars = (before.module id).stars
  wholes : ∀ star ∈ (before.module id).stars,
    (after.external star.external).exports.get? aggregateName =
      (before.external star.external).exports.get? aggregateName
  specifiers : ∀ star ∈ (before.module id).stars,
    (after.external star.external).specifier = (before.external star.external).specifier
  sources : ∀ record : RecordId, (after.records[record]?).map ExportRecord.source =
    (before.records[record]?).map ExportRecord.source

theorem filter_exportsWithout (unused : List RecordId) (table : Table RecordId)
    (keep : String × RecordId → Bool)
    (hkept : ∀ entry ∈ table, keep entry = true → entry.2 ∉ unused) :
    (exportsWithout unused table).filter keep = table.filter keep := by
  rw [exportsWithout, List.filter_filter]
  apply List.filter_congr
  intro entry hentry
  cases hkeep : keep entry with
  | false => rfl
  | true => simpa using hkept entry hentry hkeep

def HasWholes (session : Session) (id : ModuleId) : Prop :=
  ∀ star ∈ (session.module id).stars,
    (session.external star.external).exports.get? aggregateName ≠ none

/-- Shaking spares a namespace that is used. -/
theorem PlainNames.spared (hplain : session.PlainNames) (hsound : session.Sound) (id : ModuleId)
    (hid : id < session.modules.length) (aggregate : RecordId)
    (haggregate : (session.module id).exports.get? aggregateName = some aggregate)
    (hused : session.options.treeshake = true → session.Used aggregate)
    (hwhole : session.HasWholes id) :
    session.Spared ((InSession.shakeIfAsked).run session).2 id := by
  obtain ⟨idle, unused, hjust, hshaken⟩ := hplain.shaken hsound
  have hwholes : ∀ star ∈ (session.module id).stars,
      (((InSession.shakeIfAsked).run session).2.external star.external).exports.get?
        aggregateName = (session.external star.external).exports.get? aggregateName := by
    intro star hstar
    obtain ⟨record, hrecord⟩ := Option.ne_none_iff_exists'.mp (hwhole star hstar)
    have hvalid := (hsound.modules id hid).stars star hstar
    have hkept : record ∉ unused := fun hmem => hjust.unused record hmem fun htreeshake =>
      used_of_star hsound id hid aggregate haggregate (hused htreeshake) star hstar record hrecord
    rw [hshaken.external star.external hvalid, hrecord]
    exact get?_exportsWithout _ (hsound.externals star.external hvalid).proper _ record hrecord
      hkept
  constructor
  · rw [haggregate]
    exact hshaken.get?_exports id hid (hsound.proper id hid) aggregateName aggregate haggregate
      fun hmem => hjust.unused aggregate hmem hused
  · obtain ⟨stars, -, hmodule⟩ := hshaken.module id hid
    rw [hmodule]
    dsimp only
    split
    · rfl
    · apply filter_exportsWithout
      intro entry hentry hname hmem
      exact hjust.unused entry.2 hmem fun htreeshake =>
        used_of_member id hid aggregate haggregate (hused htreeshake) entry hentry hname
  · apply stars_shakeIfAsked id hid
    intro star hstar
    rw [Table.has, hwholes star hstar]
    exact Option.isSome_iff_ne_none.mpr (hwhole star hstar)
  · exact hwholes
  · intro star hstar
    rw [hshaken.external star.external ((hsound.modules id hid).stars star hstar)]
  · intro record
    rw [hshaken.records]

theorem Spared.respelled {before shaken linked : Session} {id : ModuleId}
    (h : before.Spared shaken id) (hrespelled : shaken.Respelled linked) :
    before.Spared linked id := by
  constructor
  · rw [hrespelled.module]
    exact h.aggregate
  · rw [hrespelled.module]
    exact h.members
  · rw [hrespelled.module]
    exact h.stars
  · intro star hstar
    rw [hrespelled.external]
    exact h.wholes star hstar
  · intro star hstar
    rw [hrespelled.external]
    exact h.specifiers star hstar
  · intro record
    have hsource := congrArg (Option.map ExportRecord.source) (hrespelled.record record)
    rw [Option.map_map, Option.map_map] at hsource
    exact Eq.trans hsource (h.sources record)

end Session

end ScopeHoist
