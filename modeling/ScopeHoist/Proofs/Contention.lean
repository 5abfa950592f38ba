import Mathlib.Order.Monotone.Basic
import ScopeHoist.Proofs.Pool

/-!
# Claims that compete

A base may itself look like a numbered name, so that claims of different bases compete for one
spelling. What a claim is answered with depends only on which names are taken: it is the first of
its candidates that is free. The search for it has no bound of its own. It ends because the
candidates are all different, with a number that is no larger than the count of the taken names.

With fewer names taken, a claim is answered no later in the order of its candidates. If it is
answered earlier, its answer is among the names that are taken in the other run already. So when
less is reserved and some claims are left out, each claim that is left finds fewer names taken.
-/

set_option autoImplicit false

namespace ScopeHoist

/-! ## Candidates -/

/-- What is tried for a base, in this order: the base itself, then `base$1`, `base$2`, …. -/
def candidate (base : String) : Nat → String
  | 0 => base
  | k + 1 => numbered base (k + 1)

theorem candidate_of_pos (base : String) (k : Nat) (h : 1 ≤ k) :
    candidate base k = numbered base k := by
  cases k with
  | zero => omega
  | succ k => rfl

theorem candidate_injective (base : String) : Function.Injective (candidate base) := by
  intro i j h
  cases i with
  | zero =>
    cases j with
    | zero => rfl
    | succ j => exact absurd h.symm (numbered_ne_base base (j + 1))
  | succ i =>
    cases j with
    | zero => exact absurd h (numbered_ne_base base (i + 1))
    | succ j => exact numbered_injective base h

/-- The first candidate for a base that is free while some names are taken. -/
structure Lowest (taken : List String) (base : String) (k : Nat) : Prop where
  free : candidate base k ∉ taken
  below : ∀ i < k, candidate base i ∈ taken

section

variable {taken fewer : List String} {base : String} {k m : Nat}

theorem Lowest.perm (h : Lowest taken base k) (hperm : taken.Perm fewer) : Lowest fewer base k :=
  ⟨fun hmem => h.free (hperm.mem_iff.mpr hmem), fun i hi => hperm.mem_iff.mp (h.below i hi)⟩

/-- The candidates in front of the first free one are all different and all taken. -/
theorem Lowest.le_length (h : Lowest taken base k) : k ≤ taken.length :=
  le_length_of_injective (candidate base) (candidate_injective base) taken k h.below

theorem Lowest.le_of_subset (hfewer : Lowest fewer base k) (h : Lowest taken base m)
    (hsub : fewer ⊆ taken) : k ≤ m := by
  by_contra hlater
  have hmem : candidate base m ∈ fewer := hfewer.below m (by omega)
  exact h.free (hsub hmem)

theorem Lowest.unique (h : Lowest taken base k) (h' : Lowest taken base m) : k = m := by
  have hle := h.le_of_subset h' (List.Subset.refl taken)
  have hge := h'.le_of_subset h (List.Subset.refl taken)
  omega

/-- A claim keeps what is taken in one run among what is taken in the other: where the answers
differ, the earlier one is no news in the run with more names. -/
theorem Lowest.subset_step (hfewer : Lowest fewer base k) (h : Lowest taken base m)
    (hsub : fewer ⊆ taken) : fewer ++ [candidate base k] ⊆ taken ++ [candidate base m] := by
  have hle := hfewer.le_of_subset h hsub
  intro name hname
  rcases List.mem_append.mp hname with hbefore | hlast
  · exact List.mem_append_left _ (hsub hbefore)
  · obtain rfl : name = candidate base k := List.mem_singleton.mp hlast
    by_cases hsame : k = m
    · simp [hsame]
    · exact List.mem_append_left _ (h.below k (by omega))

/-! ## The search behind a taken base -/

/-- The search as a loop without a bound: it goes on with the next number while a name is taken. -/
inductive Searches (taken : List String) (base : String) : Nat → String → Prop
  | found {k : Nat} (hfree : numbered base k ∉ taken) : Searches taken base k (numbered base k)
  | passed {k : Nat} {name : String} (htaken : numbered base k ∈ taken)
      (hrest : Searches taken base (k + 1) name) : Searches taken base k name

theorem Searches.lowest {name : String} (h : Searches taken base k name) (hpos : 1 ≤ k)
    (hbelow : ∀ i < k, candidate base i ∈ taken) :
    ∃ m, name = candidate base m ∧ Lowest taken base m := by
  induction h with
  | @found k hfree =>
    have hname := candidate_of_pos base k hpos
    exact ⟨k, hname.symm, by rwa [hname], hbelow⟩
  | @passed k name htaken hrest ih =>
    apply ih (by omega)
    intro i hi
    by_cases hlast : i = k
    · rwa [hlast, candidate_of_pos base k hpos]
    · exact hbelow i (by omega)

theorem Lowest.searches (h : Lowest taken base m) (hpos : 1 ≤ k) (hle : k ≤ m) :
    Searches taken base k (candidate base m) := by
  obtain ⟨more, rfl⟩ := Nat.exists_eq_add_of_le hle
  induction more generalizing k with
  | zero =>
    have hname : candidate base (k + 0) = numbered base k := candidate_of_pos base k hpos
    have hfree : candidate base (k + 0) ∉ taken := h.free
    rw [hname] at hfree ⊢
    exact .found hfree
  | succ more ih =>
    have htaken : numbered base k ∈ taken := by
      rw [← candidate_of_pos base k hpos]
      exact h.below k (by omega)
    have hnext : k + (more + 1) = k + 1 + more := by omega
    rw [hnext] at h ⊢
    exact .passed htaken (ih (by omega) h (by omega))

/-! ## Answers -/

/-- How a claim of a base is answered while some names are taken: the base if it is free, and what
the search ends with if it is not, which is the lowest free number and no more than the number of
taken names. -/
structure ClaimedAs (taken : List String) (base name : String) : Prop where
  asWished : base ∉ taken → name = base
  searched : base ∈ taken → ∀ found, Searches taken base 1 found ↔ found = name
  lowest : base ∈ taken → ∃ k, 1 ≤ k ∧ k ≤ taken.length ∧ name = numbered base k ∧
    ∀ i, 1 ≤ i → i < k → numbered base i ∈ taken
  free : name ∉ taken

theorem Lowest.pos_of_mem (h : Lowest taken base k) (hbase : base ∈ taken) : 1 ≤ k := by
  cases k with
  | zero => exact absurd hbase h.free
  | succ k => omega

theorem Lowest.claimedAs (h : Lowest taken base k) : ClaimedAs taken base (candidate base k) where
  asWished hbase := by
    cases k with
    | zero => rfl
    | succ k => exact absurd (h.below 0 (by omega)) hbase
  searched hbase found := by
    constructor
    · intro hfound
      have htried : ∀ i < 1, candidate base i ∈ taken := by
        intro i hi
        obtain rfl : i = 0 := by omega
        exact hbase
      obtain ⟨m, hname, hm⟩ := hfound.lowest (Nat.le_refl 1) htried
      rw [hname, h.unique hm]
    · rintro rfl
      exact h.searches (Nat.le_refl 1) (h.pos_of_mem hbase)
  lowest hbase := by
    refine ⟨k, h.pos_of_mem hbase, h.le_length, candidate_of_pos base k (h.pos_of_mem hbase), ?_⟩
    intro i hpos hi
    rw [← candidate_of_pos base i hpos]
    exact h.below i hi
  free := h.free

end

/-! ## One claim after the other -/

namespace NamePool

theorem choose_lowest (pool : NamePool) (base : String) :
    ∃ k, pool.choose base = candidate base k ∧ Lowest pool.taken base k := by
  by_cases hbase : base ∈ pool.taken
  · obtain ⟨k, hpos, hname, hfree, hbelow⟩ := firstFree_least pool.taken base 1
    rw [← candidate_of_pos base k hpos] at hname hfree
    refine ⟨k, by simpa [choose, hbase] using hname, hfree, ?_⟩
    intro i hi
    cases i with
    | zero => exact hbase
    | succ i => exact hbelow (i + 1) (by omega) hi
  · refine ⟨0, by simp [choose, hbase, candidate], hbase, ?_⟩
    intro i hi
    omega

theorem claimAll_length (pool : NamePool) (bases : List String) :
    (pool.claimAll bases).length = bases.length := by
  induction bases generalizing pool with
  | nil => rfl
  | cons base rest ih => simp [claimAll, ih]

theorem claimAll_not_mem (pool : NamePool) (bases : List String) :
    ∀ name ∈ pool.claimAll bases, name ∉ pool.taken := by
  induction bases generalizing pool with
  | nil => simp [claimAll]
  | cons base rest ih =>
    intro name hname
    rcases List.mem_cons.mp hname with rfl | hrest
    · exact pool.choose_not_mem base
    · have hout := ih _ name hrest
      rw [claim_taken, List.mem_cons] at hout
      exact fun hmem => hout (.inr hmem)

theorem claimAll_nodup (pool : NamePool) (bases : List String) : (pool.claimAll bases).Nodup := by
  induction bases generalizing pool with
  | nil => exact .nil
  | cons base rest ih =>
    apply List.nodup_cons.mpr
    constructor
    · intro hmem
      have hout := claimAll_not_mem _ rest _ hmem
      simp at hout
    · exact ih _

/-- What is taken when the claim at a place is made: what was from the start, and the answers to the
claims before it. -/
def takenAt (pool : NamePool) (bases : List String) (i : Nat) : List String :=
  pool.taken ++ (pool.claimAll bases).take i

theorem takenAt_subset (pool : NamePool) (bases : List String) (i j : Nat) (h : i ≤ j) :
    pool.takenAt bases i ⊆ pool.takenAt bases j := by
  intro name hname
  rcases List.mem_append.mp hname with hbefore | hanswer
  · exact List.mem_append_left _ hbefore
  · exact List.mem_append_right _ ((List.take_sublist_take_left h).subset hanswer)

theorem takenAt_succ (pool : NamePool) (bases : List String) (i : Nat) (name : String)
    (h : (pool.claimAll bases)[i]? = some name) :
    pool.takenAt bases (i + 1) = pool.takenAt bases i ++ [name] := by
  simp [takenAt, List.take_add_one, h]

/-- Each claim is answered with the first candidate that is free when it is made. -/
theorem claimAll_lowest (pool : NamePool) (bases : List String) (i : Nat) (base : String)
    (h : bases[i]? = some base) :
    ∃ k, (pool.claimAll bases)[i]? = some (candidate base k) ∧
      Lowest (pool.takenAt bases i) base k := by
  induction bases generalizing pool i with
  | nil => simp at h
  | cons first rest ih =>
    cases i with
    | zero =>
      obtain rfl : first = base := by simpa using h
      obtain ⟨k, hname, hk⟩ := pool.choose_lowest first
      exact ⟨k, by simp [claimAll, hname], by simpa [takenAt] using hk⟩
    | succ i =>
      obtain ⟨k, hname, hk⟩ := ih (pool.claim first).2 i (by simpa using h)
      refine ⟨k, by simpa [claimAll] using hname, hk.perm ?_⟩
      -- the first answer moves from what was taken to what is answered
      simpa [takenAt, claimAll] using List.perm_middle.symm

end NamePool

/-! ## Fewer claims -/

/-- Claims that are left when some others are taken out: the one at place `i` was at `place i`. -/
structure Thinned (fewer bases : List String) (place : Nat → Nat) : Prop where
  ordered : StrictMono place
  same : ∀ i < fewer.length, fewer[i]? = bases[place i]?

theorem Thinned.takenAt_subset {fewer bases : List String} {place : Nat → Nat}
    (h : Thinned fewer bases place) {less pool : NamePool} (hless : less.taken ⊆ pool.taken)
    (i : Nat) (hi : i ≤ fewer.length) :
    less.takenAt fewer i ⊆ pool.takenAt bases (place i) := by
  induction i with
  | zero =>
    have hstart : less.takenAt fewer 0 = less.taken := by simp [NamePool.takenAt]
    rw [hstart]
    exact fun name hname => List.mem_append_left _ (hless hname)
  | succ i ih =>
    have hbase : fewer[i]? = some fewer[i] := List.getElem?_eq_getElem hi
    have hsame : bases[place i]? = some fewer[i] := by rw [← h.same i hi, hbase]
    obtain ⟨k, hname, hk⟩ := less.claimAll_lowest fewer i _ hbase
    obtain ⟨m, hother, hm⟩ := pool.claimAll_lowest bases (place i) _ hsame
    have hstep := hk.subset_step hm (ih (by omega))
    rw [← less.takenAt_succ fewer i _ hname, ← pool.takenAt_succ bases _ _ hother] at hstep
    have hlater : place i < place (i + 1) := h.ordered (Nat.lt_succ_self i)
    exact List.Subset.trans hstep (pool.takenAt_subset bases _ _ hlater)

/-- Whatever is reserved and claimed, every claim is answered, with the base if it is free at that
moment and with its lowest free number if it is not; no two answers are the same and none is
reserved. With less reserved and some claims left out, each claim that is left is answered with the
same candidate or an earlier one. -/
theorem claims_take_lowest (reserved bases : List String) :
    let pool : NamePool := ⟨reserved⟩
    let names := pool.claimAll bases
    names.length = bases.length ∧
    (∀ i base name, bases[i]? = some base → names[i]? = some name →
      ClaimedAs (reserved ++ names.take i) base name) ∧
    names.Nodup ∧ (∀ name ∈ names, name ∉ reserved) ∧
    ∀ lessReserved ⊆ reserved, ∀ fewer place, Thinned fewer bases place →
      ∀ i base, fewer[i]? = some base → ∃ k m, k ≤ m ∧
        (NamePool.claimAll ⟨lessReserved⟩ fewer)[i]? = some (candidate base k) ∧
        names[place i]? = some (candidate base m) := by
  intro pool names
  have hlength := pool.claimAll_length bases
  have hnodup := pool.claimAll_nodup bases
  have hunreserved := pool.claimAll_not_mem bases
  refine ⟨hlength, ?_, hnodup, hunreserved, ?_⟩
  · intro i base name hbase hname
    obtain ⟨k, hanswer, hk⟩ := pool.claimAll_lowest bases i base hbase
    obtain rfl : name = candidate base k := Option.some.inj (hname.symm.trans hanswer)
    exact hk.claimedAs
  · intro lessReserved hless fewer place hthinned i base hbase
    have hi : i < fewer.length := (List.getElem?_eq_some_iff.mp hbase).1
    have hsame : bases[place i]? = some base := by rw [← hthinned.same i hi, hbase]
    obtain ⟨k, hname, hk⟩ := NamePool.claimAll_lowest ⟨lessReserved⟩ fewer i base hbase
    obtain ⟨m, hother, hm⟩ := pool.claimAll_lowest bases (place i) base hsame
    have htaken : NamePool.takenAt ⟨lessReserved⟩ fewer i ⊆ pool.takenAt bases (place i) :=
      hthinned.takenAt_subset hless i (by omega)
    exact ⟨k, m, hk.le_of_subset hm htaken, hname, hother⟩

/-- A base that looks like the first number of another comes first and takes that name away. Left
out, it makes room. -/
theorem claims_take_lowest_lookalike :
    NamePool.claimAll ⟨["bar"]⟩ ["foo$1", "foo", "bar", "foo"] =
        ["foo$1", "foo", "bar$1", "foo$2"] ∧
      NamePool.claimAll ⟨[]⟩ ["foo", "bar", "foo"] = ["foo", "bar", "foo$1"] ∧
      "bar" ∉ ["foo$1", "foo", "bar$1", "foo$2"] ∧
      ClaimedAs ["bar", "foo$1"] "foo" "foo" ∧
      ClaimedAs ["bar", "foo$1", "foo", "bar$1"] "foo" "foo$2" ∧
      Searches ["bar", "foo$1", "foo", "bar$1"] "foo" 1 "foo$2" ∧
      Thinned ["foo", "bar", "foo"] ["foo$1", "foo", "bar", "foo"] (· + 1) ∧
      ∃ k m, k ≤ m ∧ "foo$1" = candidate "foo" k ∧ "foo$2" = candidate "foo" m := by
  have hall : NamePool.claimAll ⟨["bar"]⟩ ["foo$1", "foo", "bar", "foo"] =
      ["foo$1", "foo", "bar$1", "foo$2"] := by decide +kernel
  have hfewer : NamePool.claimAll ⟨[]⟩ ["foo", "bar", "foo"] = ["foo", "bar", "foo$1"] := by
    decide +kernel
  have hthinned : Thinned ["foo", "bar", "foo"] ["foo$1", "foo", "bar", "foo"] (· + 1) :=
    ⟨fun i j h => Nat.add_lt_add_right h 1, by decide⟩
  obtain ⟨-, hclaimed, -, hunreserved, hless⟩ :=
    claims_take_lowest ["bar"] ["foo$1", "foo", "bar", "foo"]
  rw [hall] at hclaimed hunreserved hless
  obtain ⟨k, m, hle, hearlier, hlater⟩ := hless [] (List.nil_subset _) _ _ hthinned 2 "foo" rfl
  rw [hfewer] at hearlier
  have hwished := hclaimed 1 "foo" "foo" rfl rfl
  have hnumbered := hclaimed 3 "foo" "foo$2" rfl rfl
  refine ⟨hall, hfewer, fun hmem => ?_, hwished, hnumbered, ?_, hthinned, k, m, hle, ?_, ?_⟩
  · exact hunreserved "bar" hmem (by decide)
  · exact (hnumbered.searched (by decide) "foo$2").mpr rfl
  · exact Option.some.inj hearlier
  · exact Option.some.inj hlater

end ScopeHoist
