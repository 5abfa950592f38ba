import Mathlib.Data.List.Nodup
import Mathlib.Data.List.Perm.Subperm
import ScopeHoist.Name.Pool

/-!
# Claims are fresh and least

The numbered names of a base are all different, so that one more candidate than there are taken
names leaves one free. A search therefore never runs out of candidates, although its bound is no
more than the number of taken names.
-/

set_option autoImplicit false

namespace ScopeHoist

theorem numbered_injective (base : String) : Function.Injective (numbered base) := by
  intro i j h
  have hrepr : i.repr = j.repr := by simpa [numbered] using h
  have hd : Nat.toDigits 10 i = Nat.toDigits 10 j := by
    rw [← Nat.toList_repr, ← Nat.toList_repr, hrepr]
  have := congrArg (fun digits => Nat.ofDigitChars 10 digits 0) hd
  simpa using this

theorem numbered_ne_base (base : String) (k : Nat) : numbered base k ≠ base := by
  intro h
  have := congrArg String.length h
  simp only [numbered, String.length_append] at this
  have : "$".length = 1 := rfl
  omega

theorem firstFree_spec (taken : List String) (base : String) (k n : Nat) :
    ∃ m, firstFree taken base k n = numbered base m ∧ k ≤ m ∧ m ≤ k + n ∧
      (∀ i, k ≤ i → i < m → numbered base i ∈ taken) ∧
      (m < k + n → numbered base m ∉ taken) := by
  induction n generalizing k with
  | zero => exact ⟨k, rfl, Nat.le_refl _, Nat.le_refl _, by omega, by omega⟩
  | succ n ih =>
    by_cases hk : numbered base k ∈ taken
    · obtain ⟨m, hm, hlow, hhigh, hbefore, hfree⟩ := ih (k + 1)
      refine ⟨m, by simp [firstFree, hk, hm], by omega, by omega, ?_, fun h => hfree (by omega)⟩
      intro i hi him
      by_cases hik : i = k
      · rwa [hik]
      · exact hbefore i (by omega) him
    · exact ⟨k, by simp [firstFree, hk], Nat.le_refl _, by omega, by omega, fun _ => hk⟩

theorem le_length_of_injective (names : Nat → String) (hdifferent : Function.Injective names)
    (taken : List String) (n : Nat) (h : ∀ i < n, names i ∈ taken) : n ≤ taken.length := by
  have hnodup : ((List.range n).map names).Nodup := List.Nodup.map hdifferent List.nodup_range
  have hsub : (List.range n).map names ⊆ taken := by
    intro name hname
    obtain ⟨i, hi, rfl⟩ := List.mem_map.mp hname
    exact h i (List.mem_range.mp hi)
  have hlength := (List.subperm_of_subset hnodup hsub).length_le
  simpa using hlength

theorem exists_numbered_free (taken : List String) (base : String) (k : Nat) :
    ∃ i, k ≤ i ∧ i ≤ k + taken.length ∧ numbered base i ∉ taken := by
  by_contra hnone
  push Not at hnone
  have hdifferent : Function.Injective fun i => numbered base (k + i) :=
    fun i j h => Nat.add_left_cancel (numbered_injective base h)
  have hlength := le_length_of_injective _ hdifferent taken (taken.length + 1)
    fun i hi => hnone (k + i) (by omega) (by omega)
  omega

theorem firstFree_least (taken : List String) (base : String) (k : Nat) :
    ∃ m, k ≤ m ∧ firstFree taken base k taken.length = numbered base m ∧
      numbered base m ∉ taken ∧ ∀ i, k ≤ i → i < m → numbered base i ∈ taken := by
  obtain ⟨m, hm, hlow, hhigh, hbefore, hfree⟩ := firstFree_spec taken base k taken.length
  refine ⟨m, hlow, hm, ?_, hbefore⟩
  obtain ⟨i, hi, hbound, hout⟩ := exists_numbered_free taken base k
  by_cases hlast : m < k + taken.length
  · exact hfree hlast
  · have him : m ≤ i := by
      by_contra h
      exact hout (hbefore i hi (by omega))
    have : m = i := by omega
    rwa [this]

theorem firstFree_not_mem (taken : List String) (base : String) (k : Nat) :
    firstFree taken base k taken.length ∉ taken := by
  obtain ⟨m, -, hm, hfree, -⟩ := firstFree_least taken base k
  rwa [hm]

namespace NamePool

theorem choose_not_mem (pool : NamePool) (base : String) : pool.choose base ∉ pool.taken := by
  by_cases h : base ∈ pool.taken
  · simpa [choose, h] using firstFree_not_mem pool.taken base 1
  · simp [choose, h]

@[simp] theorem claim_fst (pool : NamePool) (base : String) :
    (pool.claim base).1 = pool.choose base := rfl

@[simp] theorem claim_taken (pool : NamePool) (base : String) :
    (pool.claim base).2.taken = pool.choose base :: pool.taken := rfl

theorem claimNumbered_not_mem (pool : NamePool) (base : String) :
    (pool.claimNumbered base).1 ∉ pool.taken := firstFree_not_mem pool.taken base 1

@[simp] theorem claimNumbered_taken (pool : NamePool) (base : String) :
    (pool.claimNumbered base).2.taken = (pool.claimNumbered base).1 :: pool.taken := rfl

theorem claimNumbered_ne_base (pool : NamePool) (base : String) :
    (pool.claimNumbered base).1 ≠ base := by
  obtain ⟨m, -, hm, -, -⟩ := firstFree_least pool.taken base 1
  change firstFree pool.taken base 1 pool.taken.length ≠ base
  rw [hm]
  exact numbered_ne_base base m

end NamePool

end ScopeHoist
