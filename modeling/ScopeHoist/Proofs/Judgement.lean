import ScopeHoist.Proofs.Liveness

/-!
# Verdicts are right

To be used is to have a certain ground, or one through a namespace that is used itself. A verdict
that was found in the midst of finding another one might be wrong about this, since the other one
counts as negative so far. It is not where namespaces have ranks that rise from each one to those
that hold it: nothing that is still open then has the rank of what is asked, but for a namespace
that holds itself, which is no ground anyway.
-/

set_option autoImplicit false

namespace ScopeHoist

namespace Session

/-- What an import with uses or the entry needs, and what is held by a namespace that is used. -/
inductive Used (session : Session) : RecordId → Prop
  | certain (record : RecordId) (h : .certain ∈ session.grounds record) : Used session record
  | through (record aggregate : RecordId) (h : .through aggregate ∈ session.grounds record)
      (hused : Used session aggregate) : Used session record

/-- Ranks that rise from what a namespace holds to the namespace, unless it holds itself. -/
structure Ranked (session : Session) (rank : RecordId → Nat) : Prop where
  rises : ∀ record aggregate, .through aggregate ∈ session.grounds record →
    aggregate = record ∨ rank record < rank aggregate
  stored : ∀ record aggregate, .through aggregate ∈ session.grounds record →
    aggregate < session.records.length

def above (session : Session) (rank : RecordId → Nat) (record : RecordId) : Nat :=
  ((List.range session.records.length).filter fun other => rank record < rank other).length

variable {session : Session} {rank : RecordId → Nat}

theorem above_le (session : Session) (rank : RecordId → Nat) (record : RecordId) :
    session.above rank record ≤ session.records.length := by
  have hle := (List.range session.records.length).length_filter_le fun other =>
    rank record < rank other
  rwa [List.length_range] at hle

theorem above_lt (record other : RecordId) (hother : other < session.records.length)
    (hrank : rank record < rank other) : session.above rank other < session.above rank record := by
  have hsub := List.monotone_filter_right (List.range session.records.length)
    (p := fun above => decide (rank other < rank above))
    (q := fun above => decide (rank record < rank above)) (by
      intro above habove
      simp only [decide_eq_true_eq] at habove ⊢
      exact Nat.lt_trans hrank habove)
  apply Nat.lt_of_le_of_ne hsub.length_le
  intro heq
  have hmem : other ∈ (List.range session.records.length).filter fun above =>
      rank record < rank above := by
    simp [hother, hrank]
  rw [← hsub.eq_of_length heq] at hmem
  simp at hmem

/-! ## One search -/

/-- Verdicts on records of some rank on that say which of them are used. -/
def Right (session : Session) (rank : RecordId → Nat) (least : Nat) (verdicts : Verdicts) : Prop :=
  ∀ record, least ≤ rank record → ∀ verdict, verdicts.lookup record = some verdict →
    (verdict = true ↔ session.Used record)

def Adds (session : Session) (before after : Verdicts) : Prop :=
  ∀ record verdict, after.lookup record = some verdict →
    before.lookup record = some verdict ∨ (verdict = true ↔ session.Used record)

theorem Adds.refl (session : Session) (verdicts : Verdicts) : session.Adds verdicts verdicts :=
  fun _ _ h => .inl h

theorem Adds.trans {first second third : Verdicts} (h : session.Adds first second)
    (h' : session.Adds second third) : session.Adds first third := by
  intro record verdict hfound
  rcases h' record verdict hfound with hfound | hright
  · exact h record verdict hfound
  · exact .inr hright

theorem Right.adds {least : Nat} {before after : Verdicts} (h : session.Right rank least before)
    (hadds : session.Adds before after) : session.Right rank least after := by
  intro record hrank verdict hfound
  rcases hadds record verdict hfound with hfound | hright
  · exact h record hrank verdict hfound
  · exact hright

theorem Right.mono {least more : Nat} {verdicts : Verdicts}
    (h : session.Right rank least verdicts) (hle : least ≤ more) :
    session.Right rank more verdicts :=
  fun record hrank => h record (Nat.le_trans hle hrank)

/-- What a ground comes to while the verdict on a record is open. -/
def Tells (session : Session) (record : RecordId) : Ground → Prop
  | .certain => True
  | .through aggregate => aggregate ≠ record ∧ session.Used aggregate

/-- That a record is held by its own namespace is no ground for it. -/
theorem used_iff (record : RecordId) :
    session.Used record ↔ ∃ ground ∈ session.grounds record, session.Tells record ground := by
  constructor
  · intro hused
    induction hused with
    | certain record h => exact ⟨.certain, h, trivial⟩
    | through record aggregate h hused ih =>
      by_cases heq : aggregate = record
      · exact heq ▸ ih
      · exact ⟨.through aggregate, h, heq, hused⟩
  · rintro ⟨ground, hground, htells⟩
    cases ground with
    | certain => exact .certain record hground
    | through aggregate => exact .through record aggregate hground htells.2

/-- Going through grounds while the verdict on a record is open, if those on records of higher
rank are found rightly. -/
theorem anyM_right (ask : RecordId → Judging Bool) (hdecides : Judging.Decides session ask)
    (record : RecordId)
    (hself : ∀ verdicts : Verdicts, verdicts.lookup record = some false →
      (ask record).run verdicts = (false, verdicts))
    (hask : ∀ other, rank record < rank other → other < session.records.length →
      ∀ verdicts : Verdicts, session.Right rank (rank other) verdicts →
        (((ask other).run verdicts).1 = true ↔ session.Used other) ∧
          session.Adds verdicts ((ask other).run verdicts).2)
    (grounds : List Ground)
    (hgrounds : ∀ aggregate, .through aggregate ∈ grounds → aggregate = record ∨
      (rank record < rank aggregate ∧ aggregate < session.records.length))
    (verdicts : Verdicts) (hopen : verdicts.lookup record = some false)
    (hright : session.Right rank (rank record + 1) verdicts) :
    (((grounds.anyM (groundHolds ask)).run verdicts).1 = true ↔
        ∃ ground ∈ grounds, session.Tells record ground) ∧
      session.Adds verdicts ((grounds.anyM (groundHolds ask)).run verdicts).2 := by
  induction grounds generalizing verdicts with
  | nil => exact ⟨by simp, .refl session verdicts⟩
  | cons first rest ih =>
    have hrest := ih fun aggregate hmem => hgrounds aggregate (List.mem_cons_of_mem _ hmem)
    rw [List.anyM_cons, Judging.run_bind]
    cases first with
    | certain =>
      exact ⟨iff_of_true rfl ⟨.certain, List.mem_cons_self, trivial⟩, .refl session verdicts⟩
    | through aggregate =>
      change (((if ((ask aggregate).run verdicts).1 then pure true
        else rest.anyM (groundHolds ask) : Judging Bool).run ((ask aggregate).run verdicts).2).1 =
          true ↔ _) ∧ session.Adds verdicts ((if ((ask aggregate).run verdicts).1 then pure true
        else rest.anyM (groundHolds ask) : Judging Bool).run ((ask aggregate).run verdicts).2).2
      rcases hgrounds aggregate List.mem_cons_self with rfl | ⟨hrank, hstored⟩
      · rw [hself verdicts hopen]
        obtain ⟨hresult, hadds⟩ := hrest verdicts hopen hright
        refine ⟨hresult.trans ?_, hadds⟩
        simp [Tells]
      · obtain ⟨hresult, hadds⟩ := hask aggregate hrank hstored verdicts (hright.mono hrank)
        have hne : aggregate ≠ record := fun heq => Nat.lt_irrefl _ (heq ▸ hrank)
        by_cases hused : session.Used aggregate
        · rw [if_pos (hresult.mpr hused)]
          exact ⟨iff_of_true rfl ⟨_, List.mem_cons_self, hne, hused⟩, hadds⟩
        · rw [if_neg fun h => hused (hresult.mp h)]
          obtain ⟨hresult', hadds'⟩ := hrest _
            ((hdecides aggregate verdicts).within record false hopen) (hright.adds hadds)
          refine ⟨hresult'.trans ?_, hadds.trans hadds'⟩
          simp [Tells, hused]

/-- If nothing of the rank of a record on is open, its verdict is found rightly. -/
theorem judge_right (hranked : session.Ranked rank) (depth : Nat) (record : RecordId)
    (verdicts : Verdicts) (hdepth : session.above rank record < depth)
    (hright : session.Right rank (rank record) verdicts) :
    (((judge session depth record).run verdicts).1 = true ↔ session.Used record) ∧
      session.Adds verdicts ((judge session depth record).run verdicts).2 := by
  induction depth generalizing record verdicts with
  | zero => exact absurd hdepth (Nat.not_lt_zero _)
  | succ depth ih =>
    cases hknown : verdicts.lookup record with
    | some verdict =>
      rw [Judging.run_judge_known depth record verdicts verdict hknown]
      exact ⟨hright record (Nat.le_refl _) verdict hknown, .refl session verdicts⟩
    | none =>
      rw [Judging.run_judge_new depth record verdicts hknown]
      have hself : ∀ verdicts : Verdicts, verdicts.lookup record = some false →
          (judge session depth record).run verdicts = (false, verdicts) := by
        intro verdicts hopen
        cases depth with
        | zero => rfl
        | succ depth => exact Judging.run_judge_known depth record verdicts false hopen
      have hask : ∀ other, rank record < rank other → other < session.records.length →
          ∀ verdicts : Verdicts, session.Right rank (rank other) verdicts →
            (((judge session depth other).run verdicts).1 = true ↔ session.Used other) ∧
              session.Adds verdicts ((judge session depth other).run verdicts).2 := by
        intro other hrank hstored verdicts hright
        have hlt := above_lt record other hstored hrank
        exact ih other verdicts (Nat.lt_of_lt_of_le hlt (Nat.le_of_lt_succ hdepth)) hright
      have hopened : session.Right rank (rank record + 1) ((record, false) :: verdicts) := by
        intro other hrank verdict hfound
        have hne : other ≠ record := fun heq => Nat.lt_irrefl _ (heq ▸ hrank)
        rw [lookup_cons_ne record other hne] at hfound
        exact hright other (Nat.le_of_succ_le hrank) verdict hfound
      obtain ⟨hresult, hadds⟩ := anyM_right (judge session depth) (Judging.decides_judge depth)
        record hself hask (session.grounds record)
        (fun aggregate hmem => (hranked.rises record aggregate hmem).imp_right fun hrank =>
          ⟨hrank, hranked.stored record aggregate hmem⟩)
        ((record, false) :: verdicts) (Verdicts.lookup_cons_self record false verdicts) hopened
      have hused := hresult.trans (used_iff record).symm
      refine ⟨hused, ?_⟩
      intro other verdict hfound
      by_cases heq : other = record
      · subst heq
        rw [Verdicts.lookup_cons_self] at hfound
        exact .inr (Option.some.inj hfound ▸ hused)
      · rw [lookup_cons_ne record other heq] at hfound
        have hbefore := hadds other verdict hfound
        rwa [lookup_cons_ne record other heq] at hbefore

end Session

/-! ## All searches of a run -/

namespace Judging

variable (session : Session) (rank : RecordId → Nat)

def Keeps {α : Type} (action : Judging α) : Prop :=
  ∀ verdicts, session.Right rank 0 verdicts → session.Right rank 0 (action.run verdicts).2

variable {session rank} {α β : Type}

theorem keeps_pure (value : α) : Keeps session rank (pure value) := fun _ h => h

theorem keeps_bind {action : Judging α} {next : α → Judging β} (h : Keeps session rank action)
    (h' : ∀ value, Keeps session rank (next value)) : Keeps session rank (action >>= next) :=
  fun verdicts hright => h' _ _ (h verdicts hright)

theorem keeps_mapM (action : α → Judging β) (h : ∀ value, Keeps session rank (action value))
    (values : List α) : Keeps session rank (values.mapM action) := by
  induction values with
  | nil => exact keeps_pure []
  | cons first rest ih =>
    rw [List.mapM_cons]
    exact keeps_bind (h first) fun _ => keeps_bind ih fun _ => keeps_pure _

theorem keeps_allM (action : α → Judging Bool) (h : ∀ value, Keeps session rank (action value))
    (values : List α) : Keeps session rank (values.allM action) := by
  induction values with
  | nil => exact keeps_pure true
  | cons first rest ih =>
    rw [List.allM_cons]
    apply keeps_bind (h first)
    intro result
    cases result with
    | true => exact ih
    | false => exact keeps_pure false

theorem keeps_filterM (action : α → Judging Bool) (h : ∀ value, Keeps session rank (action value))
    (values : List α) : Keeps session rank (values.filterM action) := by
  have haux : ∀ kept, Keeps session rank (List.filterAuxM action values kept) := by
    induction values with
    | nil => exact fun kept => keeps_pure kept
    | cons first rest ih =>
      intro kept
      unfold List.filterAuxM
      exact keeps_bind (h first) fun result => ih _
  exact keeps_bind (haux []) fun _ => keeps_pure _

variable (hranked : session.Ranked rank)
include hranked

theorem keeps_isUsed (record : RecordId) : Keeps session rank (session.isUsed record) := by
  intro verdicts hright
  have hdepth := Nat.lt_succ_of_le (session.above_le rank record)
  exact hright.adds (Session.judge_right hranked _ record verdicts hdepth
    (hright.mono (Nat.zero_le _))).2

theorem keeps_isUnused (record : RecordId) :
    Keeps session rank (do return !(← session.isUsed record)) :=
  keeps_bind (keeps_isUsed hranked record) fun _ => keeps_pure _

theorem keeps_idleness? (module : Module) (id : BindingId) :
    Keeps session rank (idleness? session module id) := by
  unfold idleness?
  split
  · exact keeps_pure none
  · dsimp only
    split
    · exact keeps_pure _
    · split
      · exact keeps_pure _
      · split
        · exact keeps_pure _
        · exact keeps_bind (keeps_allM _ (keeps_isUnused hranked) _) fun _ => keeps_pure _

theorem keeps_verdict : Keeps session rank (do
    let idle ← session.modules.mapM (idleBindingsOf session)
    let unused ← session.removableRecords.filterM
      fun record => do return !(← session.isUsed record)
    return (⟨idle.flatten, unused⟩ : Verdict)) := by
  have hidle : ∀ module, Keeps session rank (idleBindingsOf session module) := by
    intro module
    exact keeps_bind (keeps_mapM _ (fun id => keeps_bind (keeps_idleness? hranked module id)
      fun _ => keeps_pure _) _) fun _ => keeps_pure _
  apply keeps_bind (keeps_mapM _ hidle _)
  intro idle
  exact keeps_bind (keeps_filterM _ (keeps_isUnused hranked) _) fun _ => keeps_pure _

end Judging

namespace Session

variable {session : Session} {rank : RecordId → Nat}

theorem isUsed_iff (hranked : session.Ranked rank) (record : RecordId) :
    ((session.isUsed record).run []).1 = true ↔ session.Used record := by
  have hnothing : session.Right rank (rank record) [] := fun _ _ _ hfound => absurd hfound nofun
  exact (judge_right hranked _ record [] (Nat.lt_succ_of_le (session.above_le rank record))
    hnothing).1

theorem just_used (hranked : session.Ranked rank) :
    session.Just (session.verdict.idle.map Prod.fst) session.verdict.unused session.Used := by
  obtain ⟨final, hrests, hright⟩ : ∃ final, session.verdict.RestsOn session final ∧
      session.Right rank 0 final := by
    obtain ⟨-, hproperty⟩ := settles_verdict session []
    exact ⟨_, hproperty _ (.refl _), Judging.keeps_verdict hranked [] fun _ _ _ h => absurd h nofun⟩
  have hunused : ∀ record, final.lookup record = some false → ¬ session.Used record :=
    fun record hfound hused =>
      absurd ((hright record (Nat.zero_le _) false hfound).mpr hused) nofun
  constructor
  · intro id hid
    obtain ⟨idle, hidle, rfl⟩ := List.mem_map.mp hid
    obtain ⟨module, hmodule, hmember, binding, hbinding, hreason⟩ := hrests.idle idle hidle
    refine ⟨module, hmodule, hmember, binding, hbinding, hreason.imp_right fun h => ?_⟩
    exact ⟨h.1, h.2.1, fun record hrecord => hunused record (h.2.2 record hrecord)⟩
  · exact fun record hrecord => hunused record (hrests.unused record hrecord).2
  · intro record hrecord hkept
    exact (hright record (Nat.zero_le _) true (hrests.used record hrecord hkept)).mp rfl
  · exact fun record hcertain => .certain record hcertain

end Session

end ScopeHoist
