import ScopeHoist.Proofs.Answering

/-!
# Completed modules

The table of a completed module holds under each name what was last published, else what the last
`export *` gave it at the time; what came later is its namespace or was lent by an external. So
much stays true of a stored module, as long as tables only get what is asked for.
-/

set_option autoImplicit false

namespace ScopeHoist

/-! ## Lookups in tables that were filled in turn -/

namespace Table

variable {α : Type}

theorem get?_filter (table : Table α) (keep : String → Bool) (name : String) :
    Table.get? (table.filter fun entry => keep entry.1) name =
      if keep name then table.get? name else none := by
  induction table with
  | nil => simp
  | cons entry rest ih =>
    rw [List.filter_cons, get?_cons]
    by_cases hname : name = entry.1
    · subst hname
      by_cases hkeep : keep entry.1 = true
      · simp [hkeep, get?_cons]
      · simp [hkeep, ih]
    · by_cases hkeep : keep entry.1 = true
      · simp [hkeep, get?_cons, hname, ih]
      · simp [hkeep, hname, ih]

theorem get?_insertAll (table : Table α) (entries : Table α) (hproper : entries.Proper)
    (name : String) :
    (table.insertAll entries).get? name = (entries.get? name).or (table.get? name) := by
  induction entries generalizing table with
  | nil => simp [insertAll]
  | cons entry rest ih =>
    obtain ⟨hout, hrest⟩ := List.nodup_cons.mp hproper
    rw [insertAll_cons, ih _ hrest, get?_insert, get?_cons]
    by_cases hname : name = entry.1
    · subst hname
      simp [(get?_eq_none rest entry.1).mpr hout]
    · simp [hname]

end Table

theorem getLast?_filterMap_cons {α β : Type} (f : α → Option β) (first : α) (rest : List α) :
    ((first :: rest).filterMap f).getLast? = ((rest.filterMap f).getLast?).or (f first) := by
  cases hfirst : f first with
  | none => simp [hfirst]
  | some value =>
    rw [List.filterMap_cons_some hfirst, List.getLast?_cons]
    cases (rest.filterMap f).getLast? <;> rfl

def lastPublished (published : List Published) (name : String) : Option RecordId :=
  ((published.filter fun entry => entry.name == name).getLast?).map Published.record

theorem lastPublished_cons (first : Published) (rest : List Published) (name : String) :
    lastPublished (first :: rest) name =
      (lastPublished rest name).or (if first.name = name then some first.record else none) := by
  unfold lastPublished
  by_cases h : first.name = name
  · rw [List.filter_cons_of_pos (by simpa using h), List.getLast?_cons, if_pos h]
    cases (rest.filter fun entry => entry.name == name).getLast? <;> rfl
  · rw [List.filter_cons_of_neg (by simpa using h), if_neg h, Option.or_none]

theorem get?_foldl_publish (published : List Published) (module : Module) (name : String) :
    (published.foldl Module.publish module).exports.get? name =
      (lastPublished published name).or (module.exports.get? name) := by
  induction published generalizing module with
  | nil => rfl
  | cons first rest ih =>
    rw [List.foldl_cons, ih, lastPublished_cons]
    change (lastPublished rest name).or ((module.exports.insert first.name first.record).get? name)
      = _
    rw [Table.get?_insert, Option.or_assoc]
    by_cases h : name = first.name
    · simp [h]
    · rw [if_neg h, if_neg (Ne.symm h), Option.none_or]

theorem foldl_publish_eq (published : List Published) (module : Module) :
    published.foldl Module.publish module =
      { module with
        exports := (published.foldl Module.publish module).exports
        unnamedDefault := (published.foldl Module.publish module).unnamedDefault } := by
  induction published generalizing module with
  | nil => rfl
  | cons first rest ih =>
    rw [List.foldl_cons, ih]
    rfl

namespace Module

def starModule? (module : Module) (specifier : String) : Option ModuleId :=
  match module.target? specifier with
  | some (.module id) => some id
  | _ => none

def starModules (module : Module) : List ModuleId :=
  module.starSpecifiers.filterMap module.starModule?

theorem mem_starModules (module : Module) (id : ModuleId) (h : id ∈ module.starModules) :
    .module id ∈ module.dependencyTargets := by
  obtain ⟨specifier, -, htarget⟩ := List.mem_filterMap.mp h
  unfold starModule? at htarget
  split at htarget
  · rename_i other heq
    obtain rfl := Option.some.inj htarget
    exact target?_mem module specifier _ heq
  · exact absurd htarget nofun

end Module

/-- What the last of some tables holds under a name that `export *` passes on. -/
def lastHeld (held : ModuleId → Table RecordId) (modules : List ModuleId) (name : String) :
    Option RecordId :=
  if name = defaultName ∨ name = aggregateName then none
  else (modules.filterMap fun id => (held id).get? name).getLast?

theorem lastHeld_cons (held : ModuleId → Table RecordId) (first : ModuleId)
    (rest : List ModuleId) (name : String) :
    lastHeld held (first :: rest) name =
      (lastHeld held rest name).or (lastHeld held [first] name) := by
  unfold lastHeld
  split
  · rfl
  · rw [getLast?_filterMap_cons, getLast?_filterMap_cons, List.filterMap_nil, List.getLast?_nil,
      Option.none_or]

namespace Session

/-- The externals that a module exports whole, its own and those of the modules it exports whole. -/
def starsOf (session : Session) (module : Module) : List StarReexport :=
  module.starSpecifiers.foldl (fun stars specifier =>
    match module.target? specifier with
    | some (.module id) => (session.module id).stars.foldl addNew stars
    | some (.external id) => addNew stars ⟨specifier, id⟩
    | none => stars) []

variable {session : Session}

theorem get?_exportStar (hsound : session.Sound) (module : Module)
    (htargets : ∀ target ∈ module.dependencyTargets, session.Valid target) (specifier : String)
    (name : String) :
    (module.exportStar session specifier).exports.get? name =
      (match module.target? specifier with
        | some (.module id) =>
          lastHeld (fun id => (session.module id).exports) [id] name
        | _ => none).or (module.exports.get? name) := by
  unfold Module.exportStar
  cases htarget : module.target? specifier with
  | none => rfl
  | some target =>
    cases target with
    | external id => rfl
    | module id =>
      have hid : id < session.modules.length :=
        htargets _ (target?_mem module specifier _ htarget)
      have hproper := Table.proper_filter _ (hsound.proper id hid) fun entry =>
        entry.1 != defaultName && entry.1 != aggregateName
      change (module.exports.insertAll _).get? name = _
      rw [Table.get?_insertAll _ _ hproper, Table.get?_filter _ fun key =>
        key != defaultName && key != aggregateName]
      congr 1
      dsimp only [lastHeld]
      rw [getLast?_filterMap_cons, List.filterMap_nil, List.getLast?_nil, Option.none_or]
      by_cases hname : name = defaultName ∨ name = aggregateName
      · rw [if_pos hname, if_neg]
        rcases hname with rfl | rfl <;> simp
      · obtain ⟨hdefault, haggregate⟩ := not_or.mp hname
        rw [if_neg hname, if_pos (by simp [hdefault, haggregate])]

theorem exportStar_eq (module : Module) (specifier : String) :
    module.exportStar session specifier =
      { module with
        exports := (module.exportStar session specifier).exports
        stars := (module.exportStar session specifier).stars } := by
  unfold Module.exportStar
  split <;> rfl

theorem foldl_exportStar_eq (module : Module) (specifiers : List String) :
    specifiers.foldl (Module.exportStar session) module =
      { module with
        exports := (specifiers.foldl (Module.exportStar session) module).exports
        stars := (specifiers.foldl (Module.exportStar session) module).stars } := by
  induction specifiers generalizing module with
  | nil => rfl
  | cons first rest ih =>
    rw [List.foldl_cons, ih, exportStar_eq]

theorem withStars_eq (module : Module) :
    module.withStars session =
      { module with
        exports := (module.withStars session).exports
        stars := (module.withStars session).stars } :=
  foldl_exportStar_eq module module.starSpecifiers

/-- What becomes of a part of a module on which each `export *` has an effect of its own. -/
theorem foldl_exportStar_fuse {α : Type} (part : Module → α) (step : α → String → α)
    (module : Module) (specifiers : List String)
    (hstep : ∀ (current : Module) (specifier : String),
      current.dependencies = module.dependencies →
        part (current.exportStar session specifier) = step (part current) specifier)
    (current : Module) (hcurrent : current.dependencies = module.dependencies) :
    part (specifiers.foldl (Module.exportStar session) current) =
      specifiers.foldl step (part current) := by
  induction specifiers generalizing current with
  | nil => rfl
  | cons first rest ih =>
    have hcurrent' : (current.exportStar session first).dependencies = module.dependencies := by
      rw [exportStar_eq]
      exact hcurrent
    rw [List.foldl_cons, List.foldl_cons, ih _ hcurrent', hstep current first hcurrent]

theorem target?_of_dependencies (module current : Module)
    (h : current.dependencies = module.dependencies) (specifier : String) :
    current.target? specifier = module.target? specifier := by
  rw [Module.target?, h, ← Module.target?]

theorem get?_withStars (hsound : session.Sound) (module : Module)
    (htargets : ∀ target ∈ module.dependencyTargets, session.Valid target) (name : String) :
    (module.withStars session).exports.get? name =
      (lastHeld (fun id => (session.module id).exports) module.starModules name).or
        (module.exports.get? name) := by
  have hstep := foldl_exportStar_fuse (fun current => current.exports.get? name)
    (fun entry specifier =>
      (match module.target? specifier with
        | some (.module id) => lastHeld (fun id => (session.module id).exports) [id] name
        | _ => none).or entry) module module.starSpecifiers (by
      intro current specifier hcurrent
      rw [get?_exportStar hsound current (by
        rw [Module.dependencyTargets, hcurrent]
        exact htargets), target?_of_dependencies module current hcurrent]) module rfl
  refine hstep.trans ?_
  unfold Module.starModules
  generalize module.exports.get? name = entry
  induction module.starSpecifiers generalizing entry with
  | nil => simp [lastHeld]
  | cons first rest ih =>
    rw [List.foldl_cons, ih]
    cases hmodule : module.target? first with
    | none => simp [Module.starModule?, hmodule]
    | some target =>
      cases target with
      | external id => simp [Module.starModule?, hmodule]
      | module id =>
        have hstar : module.starModule? first = some id := by simp [Module.starModule?, hmodule]
        rw [List.filterMap_cons_some hstar, lastHeld_cons, Option.or_assoc]

theorem stars_withStars (module : Module) (hstars : module.stars = []) :
    (module.withStars session).stars = session.starsOf module := by
  unfold starsOf
  rw [← hstars]
  apply foldl_exportStar_fuse Module.stars _ module module.starSpecifiers _ module rfl
  intro current specifier hcurrent
  unfold Module.exportStar
  rw [target?_of_dependencies module current hcurrent]
  split <;> simp_all [Module.mergeModule]

end Session

end ScopeHoist
