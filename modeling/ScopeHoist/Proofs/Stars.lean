import ScopeHoist.Proofs.Lists
import ScopeHoist.Proofs.Reach

/-!
# Externals that are exported whole

Following the `export *` statements of a module, and those of the modules that these name, leads to
externals. The module keeps each of them once, in the order in which they first occur.
-/

set_option autoImplicit false

namespace ScopeHoist

/-! ## Values in the order of their first occurrence -/

section

variable {α : Type} [BEq α] [LawfulBEq α]

theorem foldl_addNew_eq (values kept : List α) :
    values.foldl addNew kept =
      kept ++ (values.filter fun value => !kept.contains value).eraseDups := by
  induction values generalizing kept with
  | nil => simp
  | cons first rest ih =>
    rw [List.foldl_cons, ih, addNew]
    by_cases hmem : first ∈ kept
    · rw [if_pos (List.contains_iff_mem.mpr hmem), List.filter_cons_of_neg (by simpa using hmem)]
    · rw [if_neg (mt List.contains_iff_mem.mp hmem), List.filter_cons_of_pos (by simpa using hmem),
        List.eraseDups_cons, List.append_assoc, List.singleton_append, List.filter_filter]
      congr 3
      apply List.filter_congr
      intro value _
      rw [List.contains_append, Bool.not_or, Bool.and_comm]
      simp

theorem foldl_addNew_nil (values : List α) : values.foldl addNew [] = values.eraseDups := by
  rw [foldl_addNew_eq]
  simp

theorem foldl_addNew_foldl (kept first values : List α) :
    (values.foldl addNew first).foldl addNew kept =
      values.foldl addNew (first.foldl addNew kept) := by
  induction values generalizing first with
  | nil => rfl
  | cons value rest ih =>
    rw [List.foldl_cons, List.foldl_cons, ih]
    congr 1
    by_cases hmem : value ∈ first
    · have hkept : value ∈ first.foldl addNew kept := (mem_foldl_addNew _ _ _).mpr (.inr hmem)
      rw [addNew, if_pos (List.contains_iff_mem.mpr hmem), addNew,
        if_pos (List.contains_iff_mem.mpr hkept)]
    · rw [addNew, if_neg (mt List.contains_iff_mem.mp hmem), List.foldl_append]
      rfl

theorem foldl_addNew_map {β : Type} [BEq β] [LawfulBEq β] (f : α → β) (hf : Function.Injective f)
    (values kept : List α) :
    (values.map f).foldl addNew (kept.map f) = (values.foldl addNew kept).map f := by
  induction values generalizing kept with
  | nil => rfl
  | cons value rest ih =>
    have hstep : addNew (kept.map f) (f value) = (addNew kept value).map f := by
      unfold addNew
      have hmem : (kept.map f).contains (f value) = kept.contains value := by
        rw [Bool.eq_iff_iff, List.contains_iff_mem, List.contains_iff_mem,
          List.mem_map_of_injective hf]
      rw [hmem]
      split <;> simp
    rw [List.map_cons, List.foldl_cons, List.foldl_cons, hstep, ih]

end

/-! ## Following `export *` -/

def Module.starTargets (module : Module) : List Target :=
  module.starSpecifiers.filterMap module.target?

namespace Session

/-- The externals that targets of `export *` come to, one after the other: an external itself, and
for a module those of its own `export *` statements. -/
inductive Expands (session : Session) : List Target → List ExternalId → Prop
  | nil : Expands session [] []
  | external {rest : List Target} {found : List ExternalId} (id : ExternalId)
      (hrest : Expands session rest found) :
    Expands session (.external id :: rest) (id :: found)
  | module {rest : List Target} {inner found : List ExternalId} (id : ModuleId)
      (hinner : Expands session (session.module id).starTargets inner)
      (hrest : Expands session rest found) :
    Expands session (.module id :: rest) (inner ++ found)

def starOf (session : Session) (id : ExternalId) : StarReexport :=
  ⟨(session.external id).specifier, id⟩

variable {session : Session}

theorem Expands.unique {targets : List Target} {found : List ExternalId}
    (h : session.Expands targets found) {others : List ExternalId}
    (h' : session.Expands targets others) : others = found := by
  induction h generalizing others with
  | nil =>
    cases h'
    rfl
  | external id hrest ih =>
    cases h' with
    | external _ hrest' => rw [ih hrest']
  | module id hinner hrest ihinner ihrest =>
    cases h' with
    | module _ hinner' hrest' => rw [ihinner hinner', ihrest hrest']

theorem starOf_injective (session : Session) : Function.Injective session.starOf :=
  fun _ _ heq => congrArg StarReexport.external heq

/-- Sessions whose modules have the externals that their `export *` statements bring in. -/
structure StarsKept (session : Session) : Prop where
  stars : ∀ id, id < session.modules.length →
    (session.module id).stars = session.starsOf (session.module id)
  smaller : ∀ id, id < session.modules.length → ∀ specifier other,
    (session.module id).target? specifier = some (.module other) → other < id
  named : ∀ id, id < session.modules.length → ∀ specifier external,
    (session.module id).target? specifier = some (.external external) →
      (session.external external).specifier = specifier

/-- Going on with some more `export *` statements of a module, when the modules below have what
theirs bring in. -/
theorem StarsKept.foldl_stars (h : session.StarsKept) (id : ModuleId)
    (hid : id < session.modules.length)
    (hbelow : ∀ other, other < id → ∃ inner,
      session.Expands (session.module other).starTargets inner ∧
        (session.module other).stars = inner.eraseDups.map session.starOf)
    (specifiers : List String) (kept : List ExternalId) :
    ∃ found, session.Expands (specifiers.filterMap (session.module id).target?) found ∧
      specifiers.foldl (fun stars specifier =>
        match (session.module id).target? specifier with
        | some (.module id) => (session.module id).stars.foldl addNew stars
        | some (.external id) => addNew stars ⟨specifier, id⟩
        | none => stars) (kept.map session.starOf) =
          (found.foldl addNew kept).map session.starOf := by
  induction specifiers generalizing kept with
  | nil => exact ⟨[], .nil, rfl⟩
  | cons specifier rest ih =>
    rw [List.filterMap_cons, List.foldl_cons]
    cases htarget : (session.module id).target? specifier with
    | none => exact ih kept
    | some target =>
      cases target with
      | external external =>
        obtain ⟨found, hfound, heq⟩ := ih (addNew kept external)
        have hstar : (⟨specifier, external⟩ : StarReexport) = session.starOf external := by
          rw [starOf, h.named id hid specifier external htarget]
        have hstep : addNew (kept.map session.starOf) (session.starOf external) =
            (addNew kept external).map session.starOf :=
          foldl_addNew_map session.starOf session.starOf_injective [external] kept
        refine ⟨external :: found, .external external hfound, ?_⟩
        rw [List.foldl_cons, ← heq, ← hstep, ← hstar]
      | module other =>
        obtain ⟨inner, hinner, hstars⟩ := hbelow other (h.smaller id hid specifier other htarget)
        obtain ⟨found, hfound, heq⟩ := ih (inner.foldl addNew kept)
        have hstep : (session.module other).stars.foldl addNew (kept.map session.starOf) =
            (inner.foldl addNew kept).map session.starOf := by
          rw [hstars, ← foldl_addNew_nil, foldl_addNew_map _ session.starOf_injective,
            foldl_addNew_foldl]
          rfl
        refine ⟨inner ++ found, .module other hinner hfound, ?_⟩
        rw [List.foldl_append, ← heq, ← hstep]

theorem StarsKept.expands (h : session.StarsKept) (id : ModuleId)
    (hid : id < session.modules.length) :
    ∃ found, session.Expands (session.module id).starTargets found ∧
      (session.module id).stars = found.eraseDups.map session.starOf := by
  induction id using Nat.strongRecOn with
  | _ id ih =>
    obtain ⟨found, hfound, heq⟩ := h.foldl_stars id hid
      (fun other hother => ih other hother (Nat.lt_trans hother hid))
      (session.module id).starSpecifiers []
    refine ⟨found, hfound, ?_⟩
    rw [h.stars id hid, ← foldl_addNew_nil]
    exact heq

theorem Rooted.starsKept {tree : FileTree} {path : Path} {root : ModuleId}
    (h : session.Rooted tree path root) (hsound : session.Sound)
    {first : ModuleId → Table RecordId} (hwired : session.Wired first) : session.StarsKept where
  stars := fun id hid => (hwired.completed id hid).stars
  smaller := by
    intro id hid specifier other htarget
    have hbelow := (hsound.modules id hid).dependencies other
      ((mem_moduleDependencies _ other).mpr (target?_mem _ _ _ htarget))
    rwa [hsound.id_eq id hid] at hbelow
  named := by
    intro id hid specifier external htarget
    obtain ⟨-, -, -, hspecifier⟩ := h.led id hid _ (Table.mem_of_get? _ _ _ htarget)
    exact hspecifier

end Session

end ScopeHoist
