import ScopeHoist.Graph.Table
import ScopeHoist.Proofs.Lists

/-!
# Tables as finite maps

Insertion never makes a second entry for a name, so a table that was filled by insertions is a map,
and its entries are what a lookup finds.
-/

set_option autoImplicit false

namespace ScopeHoist

namespace Table

variable {α : Type}

def Proper (table : Table α) : Prop := table.names.Nodup

theorem proper_nil : Proper ([] : Table α) := List.nodup_nil

@[simp] theorem get?_nil (name : String) : Table.get? ([] : Table α) name = none := rfl

theorem get?_cons (entry : String × α) (table : Table α) (name : String) :
    Table.get? (entry :: table) name =
      if name = entry.1 then some entry.2 else table.get? name := by
  obtain ⟨key, value⟩ := entry
  by_cases h : name = key
  · simp [Table.get?, h]
  · have hkey : (name == key) = false := by simpa using h
    simp [Table.get?, List.lookup_cons, h, hkey]

theorem get?_insert (table : Table α) (name : String) (value : α) (other : String) :
    (table.insert name value).get? other =
      if other = name then some value else table.get? other := by
  induction table with
  | nil => simp [Table.insert, get?_cons]
  | cons entry rest ih =>
    by_cases hkey : entry.1 = name
    · by_cases h : other = name <;> simp [Table.insert, hkey, get?_cons, h]
    · by_cases h : other = entry.1
      · simp [Table.insert, hkey, get?_cons, h]
      · simp [Table.insert, hkey, get?_cons, h, ih]

theorem get?_insert_self (table : Table α) (name : String) (value : α) :
    (table.insert name value).get? name = some value := by
  rw [get?_insert, if_pos rfl]

theorem get?_insert_ne (table : Table α) (name : String) (value : α) (other : String)
    (h : other ≠ name) : (table.insert name value).get? other = table.get? other := by
  rw [get?_insert, if_neg h]

theorem mem_names_insert (table : Table α) (name : String) (value : α) (other : String) :
    other ∈ (table.insert name value).names ↔ other = name ∨ other ∈ table.names := by
  induction table with
  | nil => simp [Table.insert, names]
  | cons entry rest ih =>
    by_cases hkey : entry.1 = name
    · simp only [Table.insert, hkey, names, beq_self_eq_true, if_true, List.map_cons,
        List.mem_cons]
      tauto
    · simp only [names] at ih
      simp only [Table.insert, hkey, names, beq_iff_eq, if_false, List.map_cons, List.mem_cons,
        ih]
      tauto

theorem proper_insert (table : Table α) (h : table.Proper) (name : String) (value : α) :
    (table.insert name value).Proper := by
  induction table with
  | nil => simp [Table.insert, Proper, names]
  | cons entry rest ih =>
    obtain ⟨hout, hrest⟩ := List.nodup_cons.mp h
    by_cases hkey : entry.1 = name
    · subst hkey
      simpa [Table.insert, Proper, names] using h
    · have hnot : entry.1 ∉ (Table.insert rest name value).names := by
        rw [mem_names_insert, not_or]
        exact ⟨hkey, hout⟩
      have hinsert : Table.insert (entry :: rest) name value
          = entry :: Table.insert rest name value := by simp [Table.insert, hkey]
      rw [hinsert]
      exact List.nodup_cons.mpr ⟨hnot, ih hrest⟩

theorem mem_of_get? (table : Table α) (name : String) (value : α)
    (h : table.get? name = some value) : (name, value) ∈ table := by
  obtain ⟨before, after, rfl, -⟩ := List.lookup_eq_some_iff.mp h
  simp

theorem get?_of_mem (table : Table α) (hproper : table.Proper) (name : String) (value : α)
    (h : (name, value) ∈ table) : table.get? name = some value := by
  induction table with
  | nil => simp at h
  | cons entry rest ih =>
    obtain ⟨hout, hrest⟩ := List.nodup_cons.mp hproper
    rcases List.mem_cons.mp h with rfl | h
    · simp [get?_cons]
    · have hne : name ≠ entry.1 := fun heq => hout (heq ▸ List.mem_map_of_mem h)
      rw [get?_cons, if_neg hne]
      exact ih hrest h

theorem get?_eq_some (table : Table α) (hproper : table.Proper) (name : String) (value : α) :
    table.get? name = some value ↔ (name, value) ∈ table :=
  ⟨mem_of_get? table name value, get?_of_mem table hproper name value⟩

theorem get?_eq_none (table : Table α) (name : String) :
    table.get? name = none ↔ name ∉ table.names := by
  simp [Table.get?, names, List.lookup_eq_none_iff]
  grind

theorem mem_values (table : Table α) (value : α) :
    value ∈ table.values ↔ ∃ name, (name, value) ∈ table := by
  simp [values]

theorem value_mem_of_get? (table : Table α) (name : String) (value : α)
    (h : table.get? name = some value) : value ∈ table.values :=
  (mem_values table value).mpr ⟨name, mem_of_get? table name value h⟩

theorem get?_of_mem_values (table : Table α) (hproper : table.Proper) (value : α)
    (h : value ∈ table.values) : ∃ name, table.get? name = some value := by
  obtain ⟨name, hmem⟩ := (mem_values table value).mp h
  exact ⟨name, get?_of_mem table hproper name value hmem⟩

theorem mem_insert (table : Table α) (hproper : table.Proper) (name : String) (value : α)
    (entry : String × α) :
    entry ∈ table.insert name value ↔ entry = (name, value) ∨ (entry ∈ table ∧ entry.1 ≠ name) := by
  obtain ⟨key, held⟩ := entry
  rw [← get?_eq_some _ (proper_insert table hproper name value), get?_insert,
    ← get?_eq_some table hproper]
  by_cases h : key = name
  · simp [h, eq_comm]
  · simp [h]

theorem proper_filter (table : Table α) (h : table.Proper) (keep : String × α → Bool) :
    Proper (table.filter keep) :=
  List.Nodup.sublist (List.filter_sublist.map Prod.fst) h

theorem insertAll_cons (table : Table α) (entry : String × α) (entries : List (String × α)) :
    table.insertAll (entry :: entries) = (table.insert entry.1 entry.2).insertAll entries := rfl

theorem proper_insertAll (table : Table α) (h : table.Proper) (entries : List (String × α)) :
    (table.insertAll entries).Proper := by
  induction entries generalizing table with
  | nil => exact h
  | cons entry rest ih => exact ih _ (proper_insert table h _ _)

theorem mem_of_mem_insertAll (table : Table α) (hproper : table.Proper)
    (entries : List (String × α)) (entry : String × α) (h : entry ∈ table.insertAll entries) :
    entry ∈ table ∨ entry ∈ entries := by
  induction entries generalizing table with
  | nil => exact Or.inl h
  | cons first rest ih =>
    rcases ih _ (proper_insert table hproper _ _) h with h | h
    · rcases (mem_insert table hproper _ _ _).mp h with rfl | h
      · exact Or.inr List.mem_cons_self
      · exact Or.inl h.1
    · exact Or.inr (List.mem_cons_of_mem _ h)

end Table

theorem mem_addNew {α : Type} [BEq α] [LawfulBEq α] (values : List α) (value other : α) :
    other ∈ addNew values value ↔ other ∈ values ∨ other = value := by
  unfold addNew
  split
  · rename_i h
    have hmem : value ∈ values := List.contains_iff_mem.mp h
    constructor
    · exact Or.inl
    · rintro (h | rfl)
      · exact h
      · exact hmem
  · simp

theorem mem_foldl_iff {α β : Type} {step : List β → α → List β} {value : β} {leads : α → Prop}
    (hstep : ∀ values entry, value ∈ step values entry ↔ value ∈ values ∨ leads entry)
    (entries : List α) (values : List β) :
    value ∈ entries.foldl step values ↔ value ∈ values ∨ ∃ entry ∈ entries, leads entry := by
  induction entries generalizing values with
  | nil => simp
  | cons first rest ih =>
    rw [List.foldl_cons, ih, hstep, List.exists_mem_cons_iff, or_assoc]

theorem mem_foldl_addNew {α : Type} [BEq α] [LawfulBEq α] (values added : List α) (other : α) :
    other ∈ added.foldl addNew values ↔ other ∈ values ∨ other ∈ added := by
  simpa using mem_foldl_iff (fun values entry => mem_addNew values entry other) added values

end ScopeHoist
