import Mathlib.Data.List.Forall2
import Mathlib.Data.List.Nodup

/-!
# Lists

What erasing repetitions by a key keeps, searches by a key, and lists whose elements are related one
by one.
-/

set_option autoImplicit false

namespace ScopeHoist

variable {α β : Type}

theorem mem_of_mem_eraseDupsBy (related : α → α → Bool) (values : List α) (value : α)
    (h : value ∈ values.eraseDupsBy related) : value ∈ values := by
  induction hn : values.length using Nat.strongRecOn generalizing values with
  | _ n ih =>
    cases values with
    | nil => exact h
    | cons first rest =>
      rw [List.eraseDupsBy_cons, List.mem_cons] at h
      obtain rfl | h := h
      · exact List.mem_cons_self
      · have hle := List.length_filter_le (fun b => related b first = false) rest
        have := ih _ (by simp at hn; omega) _ h rfl
        exact List.mem_cons_of_mem _ (List.mem_filter.mp this).1

theorem keys_distinct_succ {n : Nat} {key : Nat → β}
    (h : ∀ i < n, ∀ j < n, key i = key j → i = j) (hnew : ∀ i < n, key i ≠ key n) :
    ∀ i < n + 1, ∀ j < n + 1, key i = key j → i = j := by
  intro i hi j hj heq
  rcases Nat.lt_succ_iff_lt_or_eq.mp hi with hi | rfl <;>
    rcases Nat.lt_succ_iff_lt_or_eq.mp hj with hj | rfl
  · exact h i hi j hj heq
  · exact absurd heq (hnew i hi)
  · exact absurd heq.symm (hnew j hj)
  · rfl

variable [BEq β] [LawfulBEq β]

theorem eraseDupsBy_keys_nodup (key : α → β) (values : List α) :
    ((values.eraseDupsBy fun a b => key a == key b).map key).Nodup := by
  induction hn : values.length using Nat.strongRecOn generalizing values with
  | _ n ih =>
    cases values with
    | nil => exact List.nodup_nil
    | cons first rest =>
      rw [List.eraseDupsBy_cons, List.map_cons, List.nodup_cons]
      have hle := List.length_filter_le (fun b => (key b == key first) = false) rest
      refine ⟨fun h => ?_, ih _ (by simp at hn; omega) _ rfl⟩
      obtain ⟨other, hother, hkey⟩ := List.mem_map.mp h
      have := mem_of_mem_eraseDupsBy _ _ _ hother
      simp [hkey] at this

theorem exists_mem_eraseDupsBy (key : α → β) (values : List α) (value : α) (h : value ∈ values) :
    ∃ kept ∈ values.eraseDupsBy fun a b => key a == key b, key kept = key value := by
  induction hn : values.length using Nat.strongRecOn generalizing values with
  | _ n ih =>
    cases values with
    | nil => simp at h
    | cons first rest =>
      rw [List.eraseDupsBy_cons]
      by_cases hkey : key value = key first
      · exact ⟨first, List.mem_cons_self, hkey.symm⟩
      · have hrest : value ∈ rest := by
          rcases List.mem_cons.mp h with rfl | h
          · exact absurd rfl hkey
          · exact h
        have hle := List.length_filter_le (fun b => (key b == key first) = false) rest
        obtain ⟨kept, hkept, heq⟩ :=
          ih _ (by simp at hn; omega) (rest.filter fun b => (key b == key first) = false)
            (List.mem_filter.mpr ⟨hrest, by simp [hkey]⟩) rfl
        exact ⟨kept, List.mem_cons_of_mem _ hkept, heq⟩

theorem eraseDups_nodup (values : List β) : values.eraseDups.Nodup := by
  simpa [List.eraseDups] using eraseDupsBy_keys_nodup (fun value : β => value) values

theorem find?_key_of_mem (pairs : List (β × α)) (hnodup : (pairs.map Prod.fst).Nodup)
    (pair : β × α) (h : pair ∈ pairs) :
    (pairs.find? fun other => other.1 == pair.1) = some pair := by
  induction pairs with
  | nil => simp at h
  | cons first rest ih =>
    rw [List.map_cons, List.nodup_cons] at hnodup
    rcases List.mem_cons.mp h with rfl | h
    · simp
    · have hne : first.1 ≠ pair.1 := fun heq =>
        hnodup.1 (heq ▸ List.mem_map_of_mem h)
      rw [List.find?_cons_of_neg (by simpa using hne)]
      exact ih hnodup.2 h

theorem find?_key_eq_none (pairs : List (β × α)) (key : β) (h : key ∉ pairs.map Prod.fst) :
    (pairs.find? fun pair => pair.1 == key) = none := by
  rw [List.find?_eq_none]
  intro pair hpair heq
  exact h (beq_iff_eq.mp heq ▸ List.mem_map_of_mem hpair)

theorem findIdx?_key_iff (key : α → β) (values : List α) (value : Nat → α)
    (hvalue : ∀ i (h : i < values.length), value i = values[i]) :
    (∀ i < values.length, ∀ j < values.length, key (value i) = key (value j) → i = j) ↔
      ∀ name i, (values.findIdx? fun other => key other == name) = some i ↔
        i < values.length ∧ key (value i) = name := by
  constructor
  · intro hdistinct name i
    rw [List.findIdx?_eq_some_iff_getElem]
    constructor
    · rintro ⟨hi, hname, -⟩
      exact ⟨hi, by rw [hvalue i hi]; exact eq_of_beq hname⟩
    · rintro ⟨hi, hname⟩
      refine ⟨hi, ?_, fun j hj hsame => ?_⟩
      · rw [← hvalue i hi, hname]
        exact beq_self_eq_true name
      · have hlt := Nat.lt_trans hj hi
        rw [← hvalue j hlt] at hsame
        have heq := hdistinct j hlt i hi ((eq_of_beq hsame).trans hname.symm)
        exact absurd heq (Nat.ne_of_lt hj)
  · intro hfound i hi j hj hsame
    have hone := (hfound _ i).mpr ⟨hi, rfl⟩
    have htwo := (hfound _ j).mpr ⟨hj, hsame.symm⟩
    exact Option.some.inj (hone.symm.trans htwo)

theorem map_filterMap_eq {α β γ : Type} (f : α → Option β) (g : β → γ) (k : α → γ)
    (values : List α) (h : ∀ value ∈ values, ∃ result, f value = some result ∧ g result = k value) :
    (values.filterMap f).map g = values.map k := by
  induction values with
  | nil => rfl
  | cons first rest ih =>
    obtain ⟨result, hfirst, hsame⟩ := h first List.mem_cons_self
    rw [List.filterMap_cons_some hfirst, List.map_cons, List.map_cons, hsame,
      ih fun value hvalue => h value (List.mem_cons_of_mem _ hvalue)]

/-! ## Related lists -/

theorem forall₂_map_eq {α β γ : Type} {relation : α → β → Prop} (f : α → γ) (g : β → γ)
    (h : ∀ a b, relation a b → g b = f a) {as : List α} {bs : List β}
    (hall : List.Forall₂ relation as bs) : bs.map g = as.map f := by
  induction hall with
  | nil => rfl
  | cons hfirst _ ih => rw [List.map_cons, List.map_cons, h _ _ hfirst, ih]

theorem forall₂_mem_right {α β : Type} {relation : α → β → Prop} {as : List α} {bs : List β}
    (hall : List.Forall₂ relation as bs) (b : β) (hb : b ∈ bs) : ∃ a ∈ as, relation a b := by
  induction hall with
  | nil => simp at hb
  | cons hfirst _ ih =>
    rcases List.mem_cons.mp hb with rfl | hb
    · exact ⟨_, List.mem_cons_self, hfirst⟩
    · obtain ⟨a, ha, hrelation⟩ := ih hb
      exact ⟨a, List.mem_cons_of_mem _ ha, hrelation⟩

theorem forall₂_mem_left {α β : Type} {relation : α → β → Prop} {as : List α} {bs : List β}
    (hall : List.Forall₂ relation as bs) (a : α) (ha : a ∈ as) : ∃ b ∈ bs, relation a b :=
  forall₂_mem_right (List.Forall₂.flip (R := fun b a => relation a b) hall) a ha

theorem forall₂_flatten {α β : Type} {property : α → β → Prop} {as : List α}
    {results : List (List β)}
    (h : List.Forall₂ (fun a bs => ∀ b ∈ bs, property a b) as results) (b : β)
    (hb : b ∈ results.flatten) : ∃ a ∈ as, property a b := by
  obtain ⟨bs, hbs, hmem⟩ := List.mem_flatten.mp hb
  obtain ⟨a, ha, hall⟩ := forall₂_mem_right h bs hbs
  exact ⟨a, ha, hall b hmem⟩

end ScopeHoist
