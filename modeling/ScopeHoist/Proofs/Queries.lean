import ScopeHoist.Proofs.Observed

/-!
# Questions in any order

While a verdict is being found it counts as negative. A stricter search fails where this one would
read such a verdict, or would run out of depth. In a graph of plain names the stricter one never
fails and comes to the same, so that all verdicts are what can be observed, whatever was asked
before.
-/

set_option autoImplicit false

namespace ScopeHoist

/-! ## A search that reads no open verdict -/

/-- Records that were asked about, the newest first, with their verdicts so far as these are
found. -/
abbrev Openings := List (RecordId × Option Bool)

abbrev StrictJudging := StateT Openings Option

def groundHoldsStrictly (decide : RecordId → StrictJudging Bool) : Ground → StrictJudging Bool
  | .certain => return true
  | .through record => decide record

/-- The search for a verdict, but it fails if it comes upon one that is still open or if there is no
depth left. -/
def judgeStrictly (session : Session) : Nat → RecordId → StrictJudging Bool
  | 0, _ => failure
  | depth + 1, record => do
    match (← get).lookup record with
    | some (some verdict) => return verdict
    | some none => failure
    | none =>
      modify ((record, none) :: ·)
      let used ← (session.grounds record).anyM (groundHoldsStrictly (judgeStrictly session depth))
      modify ((record, some used) :: ·)
      return used

/-- Verdicts on records, one after the other, none of which rests on an open one. -/
def Session.strictVerdicts (session : Session) (records : List RecordId) : Option (List Bool) :=
  ((records.mapM (judgeStrictly session (session.records.length + 1))).run []).map Prod.fst

namespace Openings

def verdicts (openings : Openings) : Verdicts :=
  openings.map fun opening => (opening.1, opening.2.getD false)

def IsOpen (openings : Openings) (record : RecordId) : Prop :=
  openings.lookup record = some none

def Closes (before after : Openings) : Prop :=
  ∀ record, after.IsOpen record → before.IsOpen record

theorem Closes.refl (openings : Openings) : openings.Closes openings := fun _ h => h

theorem Closes.trans {first second third : Openings} (h : first.Closes second)
    (h' : second.Closes third) : first.Closes third :=
  fun record hopen => h record (h' record hopen)

theorem lookup_verdicts (openings : Openings) (record : RecordId) :
    openings.verdicts.lookup record = (openings.lookup record).map fun verdict =>
      verdict.getD false := by
  induction openings with
  | nil => rfl
  | cons first rest ih =>
    obtain ⟨head, verdict⟩ := first
    by_cases h : record = head
    · subst h
      simp [verdicts]
    · rw [verdicts, List.map_cons, lookup_cons_ne head record h, ← verdicts, ih,
        lookup_cons_ne head record h]

theorem verdicts_cons_none (record : RecordId) (openings : Openings) :
    verdicts ((record, none) :: openings) = (record, false) :: openings.verdicts := rfl

theorem isOpen_cons_none (record : RecordId) (openings : Openings) (other : RecordId) :
    IsOpen ((record, none) :: openings) other ↔ other = record ∨ openings.IsOpen other := by
  by_cases h : other = record
  · subst h
    simp [IsOpen]
  · simp only [IsOpen, lookup_cons_ne record other h, h, false_or]

theorem isOpen_cons_some (record : RecordId) (verdict : Bool) (openings : Openings)
    (other : RecordId) :
    IsOpen ((record, some verdict) :: openings) other ↔
      other ≠ record ∧ openings.IsOpen other := by
  by_cases h : other = record
  · subst h
    simp [IsOpen]
  · simp only [IsOpen, lookup_cons_ne record other h, ne_eq, h, not_false_eq_true, true_and]

end Openings

/-! ## The two searches in step -/

/-- A strict search that succeeds with the result of a search, and closes what it opens. -/
def Follows {α : Type} (strict : StrictJudging α) (action : Judging α) (openings : Openings) :
    Prop :=
  ∃ value after, strict.run openings = some (value, after) ∧
    action.run openings.verdicts = (value, Openings.verdicts after) ∧ openings.Closes after

section

variable {α β : Type} {openings : Openings}

theorem follows_pure (value : α) : Follows (pure value) (pure value) openings :=
  ⟨value, openings, rfl, rfl, .refl openings⟩

theorem follows_bind {strict : StrictJudging α} {action : Judging α} {next : α → StrictJudging β}
    {next' : α → Judging β} (h : Follows strict action openings)
    (h' : ∀ value after, openings.Closes after → Follows (next value) (next' value) after) :
    Follows (strict >>= next) (action >>= next') openings := by
  obtain ⟨value, mid, hstrict, haction, hcloses⟩ := h
  obtain ⟨result, after, hstrict', haction', hcloses'⟩ := h' value mid hcloses
  refine ⟨result, after, ?_, ?_, hcloses.trans hcloses'⟩
  · rw [StateT.run_bind, hstrict]
    exact hstrict'
  · rw [Judging.run_bind, haction]
    exact haction'

theorem follows_mapM {strict : α → StrictJudging β} {action : α → Judging β} (values : List α)
    (h : ∀ value after, openings.Closes after → Follows (strict value) (action value) after) :
    Follows (values.mapM strict) (values.mapM action) openings := by
  induction values generalizing openings with
  | nil => exact follows_pure []
  | cons first rest ih =>
    rw [List.mapM_cons, List.mapM_cons]
    refine follows_bind (h first openings (.refl openings)) fun result mid hmid => ?_
    have hrest := ih fun value after hafter => h value after (hmid.trans hafter)
    exact follows_bind hrest fun results after _ => follows_pure (result :: results)

theorem follows_anyM (strict : RecordId → StrictJudging Bool) (ask : RecordId → Judging Bool)
    (grounds : List Ground)
    (h : ∀ record, .through record ∈ grounds → ∀ after : Openings, openings.Closes after →
      Follows (strict record) (ask record) after) :
    Follows (grounds.anyM (groundHoldsStrictly strict)) (grounds.anyM (groundHolds ask))
      openings := by
  induction grounds generalizing openings with
  | nil => exact follows_pure false
  | cons first rest ih =>
    rw [List.anyM_cons, List.anyM_cons]
    have hfirst : Follows (groundHoldsStrictly strict first) (groundHolds ask first) openings := by
      cases first with
      | certain => exact follows_pure true
      | through record => exact h record List.mem_cons_self openings (.refl openings)
    refine follows_bind hfirst fun holds mid hmid => ?_
    cases holds with
    | true => exact follows_pure true
    | false =>
      exact ih fun record hrecord after hafter =>
        h record (List.mem_cons_of_mem _ hrecord) after (hmid.trans hafter)

end

namespace Session

variable {session : Session} {rank : RecordId → Nat}

theorem follows_known (depth : Nat) (record : RecordId) (openings : Openings) (verdict : Bool)
    (hknown : openings.lookup record = some (some verdict)) :
    Follows (judgeStrictly session (depth + 1) record) (judge session (depth + 1) record)
      openings := by
  refine ⟨verdict, openings, ?_, ?_, .refl openings⟩
  · simp [judgeStrictly, hknown]
  · refine Judging.run_judge_known depth record _ verdict ?_
    rw [openings.lookup_verdicts, hknown]
    rfl

theorem follows_new (depth : Nat) (record : RecordId) (openings : Openings)
    (hnew : openings.lookup record = none)
    (h : Follows ((session.grounds record).anyM (groundHoldsStrictly (judgeStrictly session depth)))
      ((session.grounds record).anyM (groundHolds (judge session depth)))
      ((record, none) :: openings)) :
    Follows (judgeStrictly session (depth + 1) record) (judge session (depth + 1) record)
      openings := by
  obtain ⟨used, after, hstrict, hjudged, hafter⟩ := h
  refine ⟨used, (record, some used) :: after, ?_, ?_, fun other hother => ?_⟩
  · simp [judgeStrictly, hnew, hstrict]
  · have hunknown : openings.verdicts.lookup record = none := by
      rw [openings.lookup_verdicts, hnew]
      rfl
    rw [Judging.run_judge_new depth record _ hunknown, ← Openings.verdicts_cons_none, hjudged]
    rfl
  · obtain ⟨hne, hother⟩ := (Openings.isOpen_cons_some record used after other).mp hother
    exact ((Openings.isOpen_cons_none record openings other).mp
      (hafter other hother)).resolve_left hne

/-- If no record of the rank of a record on is open, the search for its verdict meets none that is:
each ground has a higher rank. -/
theorem judgeStrictly_follows (hranked : session.Ranked rank)
    (hirrefl : ∀ record, .through record ∉ session.grounds record) (depth : Nat)
    (record : RecordId) (openings : Openings) (hdepth : session.above rank record < depth)
    (hopen : ∀ other, openings.IsOpen other → rank other < rank record) :
    Follows (judgeStrictly session depth record) (judge session depth record) openings := by
  -- By induction on the depth: what is open stays of lower rank than what is asked for next.
  induction depth generalizing record openings with
  | zero => exact absurd hdepth (Nat.not_lt_zero _)
  | succ depth ih =>
    cases hknown : openings.lookup record with
    | some opening =>
      cases opening with
      | none => exact absurd (hopen record hknown) (Nat.lt_irrefl _)
      | some verdict => exact follows_known depth record openings verdict hknown
    | none =>
      refine follows_new depth record openings hknown
        (follows_anyM _ _ _ fun aggregate hground after hafter => ?_)
      have hrank : rank record < rank aggregate :=
        (hranked.rises record aggregate hground).resolve_left
          fun heq => hirrefl record (heq ▸ hground)
      have habove := above_lt record aggregate (hranked.stored record aggregate hground) hrank
      refine ih aggregate after (Nat.lt_of_lt_of_le habove (Nat.le_of_lt_succ hdepth))
        fun other hother => ?_
      rcases (Openings.isOpen_cons_none record openings other).mp (hafter other hother) with
        rfl | hbefore
      · exact hrank
      · exact Nat.lt_trans (hopen other hbefore) hrank

theorem strictVerdicts_eq (hranked : session.Ranked rank)
    (hirrefl : ∀ record, .through record ∉ session.grounds record) (asked : List RecordId) :
    session.strictVerdicts asked = some (session.verdicts asked) := by
  have hfollows : Follows (asked.mapM (judgeStrictly session (session.records.length + 1)))
      (asked.mapM session.isUsed) [] :=
    follows_mapM asked fun record after hafter =>
      judgeStrictly_follows hranked hirrefl _ record after
        (Nat.lt_succ_of_le (session.above_le rank record))
        fun other hother => absurd (hafter other hother) nofun
  obtain ⟨verdicts, after, hstrict, hasked, -⟩ := hfollows
  rw [strictVerdicts, hstrict, Session.verdicts]
  exact congrArg some (congrArg Prod.fst hasked).symm

theorem isUsed_iff_after (hranked : session.Ranked rank) (asked : List RecordId)
    (record : RecordId) :
    ((session.isUsed record).run ((asked.mapM session.isUsed).run []).2).1 = true ↔
      session.Used record := by
  have hright := Judging.keeps_mapM session.isUsed (Judging.keeps_isUsed hranked) asked []
    fun _ _ _ hfound => absurd hfound nofun
  exact (judge_right hranked _ record _ (Nat.lt_succ_of_le (session.above_le rank record))
    (hright.mono (Nat.zero_le _))).1

end Session

/-- In a graph of plain names all verdicts are what can be observed, whatever was asked before, and
none rests on one that is still open. Shaking keeps of the exports of a module that is no entry, and
of what externals hand out, just what can be observed. -/
theorem verdicts_observe (options : BundleOptions) (session : Session)
    (h : session.FromBuilds options) (hplain : session.PlainNames) :
    let shaken := ((InSession.shake).run session).2
    (∀ (asked : List RecordId) (record : RecordId),
      ((session.isUsed record).run ((asked.mapM session.isUsed).run []).2).1 = true ↔
        session.Observed record) ∧
      (∀ asked, session.strictVerdicts asked = some (session.verdicts asked)) ∧
      (∀ id < session.modules.length, (session.module id).isEntry = false → ∀ entry,
        entry ∈ (shaken.module id).exports ↔
          entry ∈ (session.module id).exports ∧ session.Observed entry.2) ∧
      ∀ id < session.externals.length, ∀ entry,
        entry ∈ (shaken.external id).exports ↔
          entry ∈ (session.external id).exports ∧ session.Observed entry.2 := by
  intro shaken
  have hranked := hplain.ranked h.sound
  obtain ⟨first, hwired⟩ := h.wired
  have hshaken : session.Shaken _ _ shaken := session.shaken_shake
  have hjust := Session.just_used hranked
  have hkept : ∀ record ∈ session.removableRecords,
      record ∉ session.verdict.unused ↔ session.Observed record := fun record hrecord => by
    rw [← Session.used_iff_observed]
    exact ⟨hjust.kept record hrecord, fun hused hmem => hjust.unused record hmem hused⟩
  refine ⟨fun asked record => ?_,
    fun asked => Session.strictVerdicts_eq hranked (hwired.through_irrefl h.sound hplain) asked,
    fun id hid hentry entry => ?_, fun id hid entry => ?_⟩
  · rw [Session.isUsed_iff_after hranked, Session.used_iff_observed]
  · rw [hshaken.mem_exports id hid]
    refine and_congr_right fun hmem => ?_
    rw [hentry, ← hkept entry.2 (session.removable_of_export id hid hentry entry hmem)]
    simp
  · rw [hshaken.external id hid, Session.mem_exportsWithout]
    exact and_congr_right fun hmem =>
      hkept entry.2 (session.removable_of_foreign id hid entry hmem)

/-- An entry that imports the namespace of a module, and a name without using it. -/
def observable : FileTree :=
  ⟨[(["i"], .file "import*as n from'./m';import{u}from'./d';export let e=n".toUTF8),
    (["m"], .file "export*from'p';export{b}from'./d';export default 2".toUTF8),
    (["d"], .file "export const b=3,u=4".toUTF8)], []⟩

def observableSession : Session := builtFrom observable "i"

theorem observableSession_fromBuilds : observableSession.FromBuilds .standard := by
  rw [observableSession]
  exact fromBuilds_builtFrom observable FileTree.holds_nil "i"

set_option maxRecDepth 100000 in
theorem observableSession_checked :
    observableSession.PlainNames ∧ 0 < observableSession.modules.length ∧
      (observableSession.module 0).isEntry = false ∧
      (observableSession.module 0).exports = [("b", 0), ("u", 1)] ∧
      (observableSession.records[4]?).map ExportRecord.source = some (.external 0) ∧
      observableSession.verdicts [1, 0, 2, 3] = [false, true, false, true] ∧
      [0, 1, 4].map (fun record => ((observableSession.isUsed record).run
        (([3, 2].mapM observableSession.isUsed).run []).2).1) = [true, false, true] := by
  decide +kernel

/-- The namespace that is used keeps what its module exports of another, and the external that it
exports whole. -/
theorem verdicts_observe_observable :
    observableSession.FromBuilds .standard ∧ observableSession.PlainNames ∧
      (observableSession.records[4]?).map ExportRecord.source = some (.external 0) ∧
      observableSession.Observed 4 ∧ observableSession.Observed 0 ∧
      ¬ observableSession.Observed 1 ∧
      observableSession.strictVerdicts [1, 0, 2, 3] = some [false, true, false, true] ∧
      ("b", 0) ∈ (((InSession.shake).run observableSession).2.module 0).exports ∧
      ("u", 1) ∉ (((InSession.shake).run observableSession).2.module 0).exports := by
  obtain ⟨hplain, hvalid, hentry, htable, hforeign, hverdicts, hasked⟩ := observableSession_checked
  obtain ⟨hobserved, hstrict, hkept, -⟩ :=
    verdicts_observe .standard observableSession observableSession_fromBuilds hplain
  simp only [List.map_cons, List.map_nil, List.cons.injEq, and_true] at hasked
  have hkept := hkept 0 hvalid hentry
  rw [htable] at hkept
  have hused := (hobserved [3, 2] 0).mp hasked.1
  have hunused : ¬ observableSession.Observed 1 := fun h =>
    absurd (hasked.2.1.symm.trans ((hobserved [3, 2] 1).mpr h)) nofun
  refine ⟨observableSession_fromBuilds, hplain, hforeign, (hobserved [3, 2] 4).mp hasked.2.2, hused,
    hunused, by rw [hstrict, hverdicts], (hkept ("b", 0)).mpr ⟨by simp, hused⟩,
    fun h => hunused ((hkept ("u", 1)).mp h).2⟩

end ScopeHoist
