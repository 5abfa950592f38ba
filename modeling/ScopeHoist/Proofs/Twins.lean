import ScopeHoist.Proofs.Namespaces
import ScopeHoist.Proofs.Reach

/-!
# Builds that differ in who asks

Two builds of the same files, where the second one asks for more, but not below a certain module.
Modules of the same file are twins. What the names of the module stand for is the same in both, up
to twins, so its tables differ at most in names that an external lends.
-/

set_option autoImplicit false

namespace ScopeHoist

/-! ## The same files -/

def Entry.isDirectory : Entry → Bool
  | .directory => true
  | .file _ => false

namespace FileTree

/-- Two trees with files and directories in the same places. -/
structure SameFiles (tree tree' : FileTree) : Prop where
  workingDir : tree'.workingDir = tree.workingDir
  lookup : ∀ place,
    (tree'.lookup place).map Entry.isDirectory = (tree.lookup place).map Entry.isDirectory

variable {tree tree' : FileTree}

theorem sameFiles_of_entries (hdir : tree'.workingDir = tree.workingDir)
    (hentries : tree'.entries.map (fun entry => (entry.1, entry.2.isDirectory)) =
      tree.entries.map fun entry => (entry.1, entry.2.isDirectory)) : tree.SameFiles tree' := by
  have hlookup : ∀ (entries : List (Place × Entry)) (place : Place),
      (entries.lookup place).map Entry.isDirectory =
        (entries.map fun entry => (entry.1, entry.2.isDirectory)).lookup place := by
    intro entries place
    induction entries with
    | nil => rfl
    | cons first rest ih =>
      obtain ⟨found, entry⟩ := first
      rw [List.lookup_cons, List.map_cons, List.lookup_cons]
      cases place == found with
      | true => rfl
      | false => exact ih
  constructor
  · exact hdir
  · intro place
    unfold FileTree.lookup
    split
    · rfl
    · rw [hlookup, hlookup, hentries]

namespace SameFiles

variable (h : tree.SameFiles tree')
include h

theorem isDirectory (place : Place) : tree'.isDirectory place = tree.isDirectory place := by
  have hplace := h.lookup place
  unfold FileTree.isDirectory
  generalize tree'.lookup place = entry' at hplace ⊢
  generalize tree.lookup place = entry at hplace ⊢
  rcases entry with - | (- | bytes) <;> rcases entry' with - | (- | bytes') <;>
    first
    | rfl
    | exact absurd hplace (by decide)
    | exact absurd hplace (by simp [Entry.isDirectory])

theorem isSome (place : Place) : (tree'.lookup place).isSome = (tree.lookup place).isSome := by
  have hplace := congrArg Option.isSome (h.lookup place)
  rwa [Option.isSome_map, Option.isSome_map] at hplace

theorem walk (names : List String) (place : Place) :
    tree'.walk place names = tree.walk place names := by
  induction names generalizing place with
  | nil => rfl
  | cons name rest ih =>
    unfold FileTree.walk
    rw [h.isDirectory, ih, ih, ih]
    have hsome := h.isSome (place ++ [name])
    generalize tree'.lookup (place ++ [name]) = entry' at hsome ⊢
    generalize tree.lookup (place ++ [name]) = entry at hsome ⊢
    cases entry <;> cases entry' <;> first | rfl | cases hsome

theorem find (path : Path) : tree'.find path = tree.find path := by
  unfold FileTree.find FileTree.start
  rw [h.walk, h.workingDir]

theorem isFile (path : Path) : tree'.isFile path = tree.isFile path := by
  unfold FileTree.isFile
  rw [h.find]
  cases tree.find path with
  | ok place =>
    dsimp only
    rw [h.isSome, h.isDirectory]
  | error problem => rfl

theorem canonicalOr (path : Path) (journal : Journal) :
    ScopeHoist.canonicalOr tree' path journal = ScopeHoist.canonicalOr tree path journal := by
  unfold ScopeHoist.canonicalOr FileTree.canonical
  rw [h.find]

theorem filePath? (extensions : List String) (importer : Path) (specifier : String) :
    ScopeHoist.filePath? tree' extensions importer specifier =
      ScopeHoist.filePath? tree extensions importer specifier := by
  unfold ScopeHoist.filePath?
  simp only [h.isFile, h.canonicalOr]

end SameFiles

end FileTree

/-! ## Twins -/

/-- Two modules that export the same. -/
structure Module.SameExports (module module' : Module) : Prop where
  clauses : module'.program.clauses = module.program.clauses
  stars : module'.starSpecifiers = module.starSpecifiers

/-- A module that asks at least for what another one asks for. -/
structure Module.AsksMore (module module' : Module) : Prop where
  specifiers : module.program.specifiers ⊆ module'.program.specifiers
  requests : module.program.requests ⊆ module'.program.requests

theorem Program.mem_specifiers_of_importOf? (program : Program) (id : Ident)
    (clause : ImportClause) (h : program.importOf? id = some clause) :
    clause.specifier ∈ program.specifiers := by
  obtain ⟨item, hitem, hclause⟩ := List.mem_flatMap.mp (List.mem_of_find?_eq_some h)
  cases item with
  | importFrom specifiers source span =>
    obtain ⟨_, -, rfl⟩ := List.mem_map.mp hclause
    exact mem_specifiers_of_import program specifiers source span hitem
  | _ => exact absurd hclause List.not_mem_nil

def Referent.specifier? : Referent → Option String
  | .outer specifier _ => some specifier
  | .imported specifier _ => some specifier
  | _ => none

theorem Program.mem_specifiers_of_clause (program : Program) (clause : Clause)
    (hclause : clause ∈ program.clauses) (specifier : String)
    (h : clause.referent.specifier? = some specifier) : specifier ∈ program.specifiers := by
  obtain ⟨item, hitem, hclause⟩ := List.mem_flatMap.mp hclause
  cases item with
  | exportDecl decl span =>
    obtain ⟨id, -, hclause⟩ := List.mem_flatMap.mp hclause
    unfold declaredClauses at hclause
    split at hclause
    · rw [List.mem_singleton.mp hclause] at h
      exact absurd h nofun
    · exact absurd hclause List.not_mem_nil
  | exportList specifiers span =>
    obtain ⟨exported, -, hclause⟩ := List.mem_flatMap.mp hclause
    cases exported with
    | aggregate exported span => exact absurd hclause List.not_mem_nil
    | named origin exported span =>
      cases origin with
      | text quotation => exact absurd hclause List.not_mem_nil
      | ident id =>
        change clause ∈ program.localClauses _ id at hclause
        unfold localClauses at hclause
        split at hclause
        · rw [List.mem_singleton.mp hclause] at h
          exact absurd h nofun
        · obtain ⟨found, hfound, rfl⟩ := List.mem_map.mp hclause
          obtain rfl := Option.some.inj h
          exact program.mem_specifiers_of_importOf? id found (Option.mem_toList.mp hfound)
  | exportFrom specifiers source span =>
    obtain ⟨exported, -, rfl⟩ := List.mem_map.mp hclause
    obtain rfl := Option.some.inj h
    exact mem_specifiers_of_exportFrom program specifiers source span hitem
  | exportDefaultDecl decl span =>
    rw [List.mem_singleton.mp hclause] at h
    change (program.defaultDeclReferent decl).specifier? = _ at h
    unfold defaultDeclReferent at h
    split at h
    · split at h <;> exact absurd h nofun
    · exact absurd h nofun
  | exportDefault value span =>
    rw [List.mem_singleton.mp hclause] at h
    change (program.defaultReferent value).specifier? = _ at h
    unfold defaultReferent at h
    split at h
    · split at h
      · split at h <;> exact absurd h nofun
      · split at h
        · rename_i found hfound
          obtain rfl := Option.some.inj h
          exact program.mem_specifiers_of_importOf? _ found hfound
        · exact absurd h nofun
    · exact absurd h nofun
  | _ => exact absurd hclause List.not_mem_nil

namespace Session

variable (session session' : Session)

/-- Stored modules of the same file. -/
def Twins (id id' : ModuleId) : Prop :=
  id < session.modules.length ∧ id' < session'.modules.length ∧
    (session'.module id').path = (session.module id).path

/-- All modules of the second session ask at least for what their twins ask for, and a module and
those that it reaches export the same there. -/
structure AsksMore (id : ModuleId) : Prop where
  asks : ∀ other other', session.Twins session' other other' →
    (session.module other).AsksMore (session'.module other')
  below : ∀ other other', session.Twins session' other other' → session.Reaches id other →
    (session.module other).SameExports (session'.module other')

/-- Targets that are the same file or the same external. -/
inductive TargetTwins : Target → Target → Prop
  | module (id id' : ModuleId) (h : session.Twins session' id id') :
    TargetTwins (.module id) (.module id')
  | external (id id' : ExternalId)
      (h : (session'.external id').specifier = (session.external id).specifier) :
    TargetTwins (.external id) (.external id')

inductive OriginTwins : Origin → Origin → Prop
  | external (id id' : ExternalId) (name : String)
      (h : (session'.external id').specifier = (session.external id).specifier) :
    OriginTwins (.external id name) (.external id' name)
  | declaration (id id' : ModuleId) (identity : Identity) (h : session.Twins session' id id') :
    OriginTwins (.declaration id identity) (.declaration id' identity)
  | unnamedDefault (id id' : ModuleId) (h : session.Twins session' id id') :
    OriginTwins (.unnamedDefault id) (.unnamedDefault id')
  | aggregate (id id' : ModuleId) (h : session.Twins session' id id') :
    OriginTwins (.aggregate id) (.aggregate id')

/-- Two sessions as they are built from the same files with the same options. -/
structure Paired (tree tree' : FileTree) (first first' : ModuleId → Table RecordId) : Prop where
  files : tree.SameFiles tree'
  options : session'.options = session.options
  sound : session.Sound
  sound' : session'.Sound
  wired : session.Wired first
  wired' : session'.Wired first'
  led : ∀ id, id < session.modules.length → session.Led tree id
  led' : ∀ id, id < session'.modules.length → session'.Led tree' id

variable {session session'} {tree tree' : FileTree} {first first' : ModuleId → Table RecordId}

theorem target?_led {id : ModuleId} (hled : session.Led tree id) (specifier : String)
    (target : Target) (htarget : (session.module id).target? specifier = some target) :
    specifier ∈ (session.module id).program.specifiers ∧
      session.Leads tree (session.module id).path specifier target :=
  hled _ (Table.mem_of_get? _ _ _ htarget)

section

variable (h : session.Paired session' tree tree' first first')
include h

/-! ## Targets of twins -/

theorem Paired.targetTwins (path : Path) (specifier : String) (target target' : Target)
    (hleads : session.Leads tree path specifier target)
    (hleads' : session'.Leads tree' path specifier target') :
    session.TargetTwins session' target target' := by
  cases target with
  | module other =>
    obtain ⟨hkind, hother, hfile⟩ := hleads
    cases target' with
    | module other' =>
      obtain ⟨-, hother', hfile'⟩ := hleads'
      rw [h.files.filePath?, h.options, hfile] at hfile'
      exact .module other other' ⟨hother, hother', (Option.some.inj hfile').symm⟩
    | external other' => exact absurd (hkind.symm.trans hleads'.1) nofun
  | external other =>
    obtain ⟨hkind, hother, hspecifier⟩ := hleads
    cases target' with
    | module other' => exact absurd (hkind.symm.trans hleads'.1) nofun
    | external other' =>
      obtain ⟨-, -, hspecifier'⟩ := hleads'
      exact .external other other' (hspecifier'.trans hspecifier.symm)

theorem Paired.dependency_twin {id id' : ModuleId} (htwins : session.Twins session' id id')
    (hmore : (session.module id).AsksMore (session'.module id')) (specifier : String)
    (target : Target) (hentry : (specifier, target) ∈ (session.module id).dependencies) :
    ∃ target', (session'.module id').target? specifier = some target' ∧
      session.TargetTwins session' target target' := by
  obtain ⟨hspecifier, hleads⟩ := h.led id htwins.1 _ hentry
  obtain ⟨target', htarget'⟩ :=
    (h.wired'.completed id' htwins.2.1).covered specifier (hmore.specifiers hspecifier)
  obtain ⟨-, hleads'⟩ := target?_led (h.led' id' htwins.2.1) specifier target' htarget'
  rw [htwins.2.2] at hleads'
  exact ⟨target', htarget', h.targetTwins _ specifier target target' hleads hleads'⟩

theorem Paired.target?_twins {id id' : ModuleId} (htwins : session.Twins session' id id')
    (hmore : (session.module id).AsksMore (session'.module id')) (specifier : String)
    (hspecifier : specifier ∈ (session.module id).program.specifiers) :
    ∃ target target', (session.module id).target? specifier = some target ∧
      (session'.module id').target? specifier = some target' ∧
        session.TargetTwins session' target target' := by
  obtain ⟨target, htarget⟩ := (h.wired.completed id htwins.1).covered specifier hspecifier
  obtain ⟨target', htarget', htargets⟩ :=
    h.dependency_twin htwins hmore specifier target (Table.mem_of_get? _ _ _ htarget)
  exact ⟨target, target', htarget, htarget', htargets⟩

theorem Paired.exists_twin (hmore : ∀ other other', session.Twins session' other other' →
      (session.module other).AsksMore (session'.module other'))
    (root root' : ModuleId) (hroot : session.Twins session' root root') (id : ModuleId)
    (hreaches : session.Reaches root id) : ∃ id', session.Twins session' id id' := by
  induction hreaches with
  | refl => exact ⟨root', hroot⟩
  | @tail other dependency _ hstep ih =>
    obtain ⟨other', htwins⟩ := ih
    have hmem := (mem_moduleDependencies _ dependency).mp hstep
    obtain ⟨specifier, hentry⟩ := (Table.mem_values _ _).mp hmem
    obtain ⟨target', -, htarget⟩ :=
      h.dependency_twin htwins (hmore other other' htwins) specifier _ hentry
    cases htarget with
    | module _ dependency' htwins => exact ⟨dependency', htwins⟩

end

/-! ## The first external that is exported whole -/

theorem head?_foldl_addNew {α : Type} [BEq α] (values list : List α) :
    (values.foldl addNew list).head? = list.head?.or values.head? := by
  induction values generalizing list with
  | nil => rw [List.foldl_nil, List.head?_nil, Option.or_none]
  | cons first rest ih =>
    rw [List.foldl_cons, ih]
    cases list with
    | nil => rfl
    | cons head tail =>
      unfold addNew
      split <;> rfl

def firstStar? (session : Session) (module : Module) (specifier : String) : Option StarReexport :=
  match module.target? specifier with
  | some (.module id) => (session.module id).stars.head?
  | some (.external id) => some ⟨specifier, id⟩
  | none => none

theorem head?_starsOf (module : Module) :
    (session.starsOf module).head? =
      module.starSpecifiers.findSome? (session.firstStar? module) := by
  unfold starsOf
  generalize module.starSpecifiers = specifiers
  suffices h : ∀ stars : List StarReexport, (specifiers.foldl (fun stars specifier =>
      match module.target? specifier with
      | some (.module id) => (session.module id).stars.foldl addNew stars
      | some (.external id) => addNew stars ⟨specifier, id⟩
      | none => stars) stars).head? =
        stars.head?.or (specifiers.findSome? (session.firstStar? module)) from h []
  induction specifiers with
  | nil =>
    intro stars
    rw [List.foldl_nil, List.findSome?_nil, Option.or_none]
  | cons first rest ih =>
    intro stars
    rw [List.foldl_cons, ih, List.findSome?_cons, firstStar?]
    cases module.target? first with
    | none => rfl
    | some target =>
      cases target with
      | module id =>
        dsimp only
        rw [head?_foldl_addNew, Option.or_assoc]
        cases (session.module id).stars.head? <;> rfl
      | external id =>
        have hstep := head?_foldl_addNew [⟨first, id⟩] stars
        dsimp only
        rw [show (addNew stars ⟨first, id⟩).head? = _ from hstep, Option.or_assoc]
        rfl

def StarTwins (session session' : Session) (star star' : StarReexport) : Prop :=
  (session'.external star'.external).specifier = (session.external star.external).specifier

theorem rel_referred_twins (answer answer' : Target → String → Option Origin) (id id' : ModuleId)
    (clauses : List Clause)
    (hrefer : ∀ clause ∈ clauses, Option.Rel (session.OriginTwins session')
      (session.refer answer id clause.referent) (session'.refer answer' id' clause.referent))
    (name : String) :
    Option.Rel (session.OriginTwins session') (session.referred answer id clauses name)
      (session'.referred answer' id' clauses name) := by
  induction clauses with
  | nil => exact .none
  | cons head rest ih =>
    rw [referred_cons, referred_cons]
    apply rel_or (ih fun clause hclause => hrefer clause (List.mem_cons_of_mem _ hclause))
    split
    · exact hrefer head List.mem_cons_self
    · exact .none

section

variable (h : session.Paired session' tree tree' first first')
include h

theorem Paired.head?_stars (id : ModuleId) (hmore : session.AsksMore session' id)
    (other other' : ModuleId) (htwins : session.Twins session' other other')
    (hreaches : session.Reaches id other) :
    Option.Rel (session.StarTwins session') (session.module other).stars.head?
      (session'.module other').stars.head? := by
  induction other using Nat.strongRecOn generalizing other' with
  | _ other ih =>
    have hsame := hmore.below other other' htwins hreaches
    rw [(h.wired.completed other htwins.1).stars, (h.wired'.completed other' htwins.2.1).stars,
      head?_starsOf, head?_starsOf, hsame.stars]
    have hfirst : ∀ specifier ∈ (session.module other).starSpecifiers,
        Option.Rel (session.StarTwins session')
          (session.firstStar? (session.module other) specifier)
          (session'.firstStar? (session'.module other') specifier) := by
      intro specifier hspecifier
      obtain ⟨target, target', htarget, htarget', htargets⟩ :=
        h.target?_twins htwins (hmore.asks other other' htwins) specifier
          (Module.mem_specifiers_of_star _ specifier hspecifier)
      rw [firstStar?, firstStar?, htarget, htarget']
      cases htargets with
      | module dependency dependency' hdependency =>
        have hmem := (mem_moduleDependencies _ dependency).mpr (target?_mem _ specifier _ htarget)
        exact ih dependency (h.sound.dependencies_lt other dependency hmem) dependency'
          hdependency (hreaches.tail hmem)
      | external external external' hspecifier => exact .some hspecifier
    generalize (session.module other).starSpecifiers = specifiers at hfirst
    induction specifiers with
    | nil => exact .none
    | cons head rest ihrest =>
      rw [List.findSome?_cons, List.findSome?_cons]
      have hhead := hfirst head List.mem_cons_self
      generalize session.firstStar? (session.module other) head = star at hhead
      generalize session'.firstStar? (session'.module other') head = star' at hhead
      cases hhead with
      | none => exact ihrest fun specifier hmem => hfirst specifier (List.mem_cons_of_mem _ hmem)
      | some hstar => exact .some hstar

/-! ## What names stand for -/

theorem Paired.refer_twins {id id' : ModuleId} (htwins : session.Twins session' id id')
    (hmore : (session.module id).AsksMore (session'.module id'))
    (answer answer' : Target → String → Option Origin)
    (hanswer : ∀ target ∈ (session.module id).dependencyTargets, ∀ target' name,
      session.TargetTwins session' target target' →
        Option.Rel (session.OriginTwins session') (answer target name) (answer' target' name))
    (referent : Referent)
    (hreferent : ∀ specifier, referent.specifier? = some specifier →
      specifier ∈ (session.module id).program.specifiers) :
    Option.Rel (session.OriginTwins session') (session.refer answer id referent)
      (session'.refer answer' id' referent) := by
  have hbind : ∀ specifier name, specifier ∈ (session.module id).program.specifiers →
      Option.Rel (session.OriginTwins session')
        (((session.module id).target? specifier).bind (answer · name))
        (((session'.module id').target? specifier).bind (answer' · name)) := by
    intro specifier name hspecifier
    obtain ⟨target, target', htarget, htarget', htargets⟩ :=
      h.target?_twins htwins hmore specifier hspecifier
    rw [htarget, htarget']
    exact hanswer target (target?_mem _ specifier _ htarget) target' name htargets
  cases referent with
  | declared identity => exact .some (.declaration id id' identity htwins)
  | outer specifier name => exact hbind specifier name (hreferent specifier rfl)
  | imported specifier name =>
    exact rel_or (hbind specifier name (hreferent specifier rfl))
      (.some (.unnamedDefault id id' htwins))
  | unnamed => exact .some (.unnamedDefault id id' htwins)

theorem Paired.passed_twins {id id' : ModuleId} (htwins : session.Twins session' id id')
    (hmore : (session.module id).AsksMore (session'.module id'))
    (hstars : (session'.module id').starSpecifiers = (session.module id).starSpecifiers)
    (known known' : Answer)
    (hknown : ∀ other other', .module other ∈ (session.module id).dependencyTargets →
      session.Twins session' other other' → ∀ name,
        Option.Rel (session.OriginTwins session') (known other name) (known' other' name))
    (name : String) :
    Option.Rel (session.OriginTwins session') (passed known (session.module id).starModules name)
      (passed known' (session'.module id').starModules name) := by
  have hone : ∀ specifier ∈ (session.module id).starSpecifiers,
      Option.Rel (session.OriginTwins session')
        (((session.module id).starModule? specifier).bind fun other => known other name)
        (((session'.module id').starModule? specifier).bind fun other => known' other name) := by
    intro specifier hspecifier
    obtain ⟨target, target', htarget, htarget', htargets⟩ := h.target?_twins htwins hmore
      specifier (Module.mem_specifiers_of_star _ specifier hspecifier)
    rw [Module.starModule?, Module.starModule?, htarget, htarget']
    cases htargets with
    | module other other' hother =>
      exact hknown other other' (target?_mem _ specifier _ htarget) hother name
    | external other other' _ => exact .none
  unfold passed
  split
  · exact .none
  · unfold Module.starModules
    rw [List.filterMap_filterMap, List.filterMap_filterMap, hstars]
    generalize (session.module id).starSpecifiers = specifiers at hone
    induction specifiers with
    | nil => exact .none
    | cons head rest ih =>
      rw [getLast?_filterMap_cons, getLast?_filterMap_cons]
      exact rel_or (ih fun specifier hmem => hone specifier (List.mem_cons_of_mem _ hmem))
        (hone head List.mem_cons_self)

/-- What a name stands for is the same in twins. -/
theorem Paired.resolution_twins (id : ModuleId) (hmore : session.AsksMore session' id)
    (other other' : ModuleId) (htwins : session.Twins session' other other')
    (hreaches : session.Reaches id other) (name : String) :
    Option.Rel (session.OriginTwins session')
      (session.resolution session.lendingAnswer other name)
      (session'.resolution session'.lendingAnswer other' name) := by
  induction other using Nat.strongRecOn generalizing other' name with
  | _ other ih =>
    have hsame := hmore.below other other' htwins hreaches
    have hasks := hmore.asks other other' htwins
    have hknown : ∀ dependency dependency',
        .module dependency ∈ (session.module other).dependencyTargets →
        session.Twins session' dependency dependency' → ∀ name,
          Option.Rel (session.OriginTwins session')
            (session.resolution session.lendingAnswer dependency name)
            (session'.resolution session'.lendingAnswer dependency' name) := by
      intro dependency dependency' hdependency htwins name
      have hmem := (mem_moduleDependencies _ dependency).mpr hdependency
      exact ih dependency (h.sound.dependencies_lt other dependency hmem) dependency' htwins
        (hreaches.tail hmem) name
    rw [resolution_eq h.sound (local_lendingAnswer session),
      resolution_eq h.sound' (local_lendingAnswer session'), resolveStep, resolveStep,
      hsame.clauses]
    apply rel_or _ (h.passed_twins htwins hasks hsame.stars _ _ hknown name)
    apply rel_referred_twins
    intro clause hclause
    apply h.refer_twins htwins hasks _ _ _ _
      (Program.mem_specifiers_of_clause _ clause hclause)
    intro target htarget target' name htwins
    cases htwins with
    | external external external' hspecifier =>
      exact .some (.external external external' name hspecifier)
    | module dependency dependency' htwins =>
      apply rel_or (hknown dependency dependency' htarget htwins name)
      unfold offered
      split
      · exact .some (.aggregate dependency dependency' htwins)
      · split
        · exact .none
        · have hmem := (mem_moduleDependencies _ dependency).mpr htarget
          have hstars := h.head?_stars id hmore dependency dependency' htwins (hreaches.tail hmem)
          generalize (session.module dependency).stars.head? = star at hstars
          generalize (session'.module dependency').stars.head? = star' at hstars
          cases hstars with
          | none => exact .none
          | some hstar => exact .some (.external _ _ name hstar)

/-! ## What tables hold -/

theorem Paired.stems_twins (record record' : RecordId) (found : ExportRecord) (source : ModuleId)
    (hfound : session.records[record]? = some found) (hsource : found.source = .module source)
    (origin origin' : Origin) (htwins : session.OriginTwins session' origin origin')
    (hstems : session.Stems record origin) (hstems' : session'.Stems record' origin') :
    ∃ found' source', session'.records[record']? = some found' ∧
      found'.source = .module source' ∧ session.Twins session' source source' ∧
        found'.localName = found.localName := by
  cases htwins with
  | external id id' name hspecifier =>
    by_cases hid : id < session.externals.length
    · obtain ⟨found', hfound', -, hexternal, -⟩ := (h.sound.externals id hid).entries _
        (Table.mem_of_get? _ _ _ hstems)
      obtain rfl := Option.some.inj (hfound.symm.trans hfound')
      cases hsource.symm.trans hexternal
    · have hnone : (session.external id).exports.get? name = none := by
        rw [external, List.getD_eq_getElem?_getD, List.getElem?_eq_none (Nat.le_of_not_lt hid)]
        rfl
      cases hnone.symm.trans hstems
  | declaration id id' identity htwins =>
    obtain ⟨found', owner, binding, hfound', hmodule, -, hname, -⟩ := hstems
    obtain ⟨found'', owner', binding', hfound'', hmodule', -, hname', -⟩ := hstems'
    obtain rfl := Option.some.inj (hfound.symm.trans hfound')
    rw [h.sound.id_eq id htwins.1] at hmodule
    rw [h.sound'.id_eq id' htwins.2.1] at hmodule'
    obtain rfl := Target.module.inj (hsource.symm.trans hmodule)
    exact ⟨found'', id', hfound'', hmodule', htwins, hname'.trans hname.symm⟩
  | unnamedDefault id id' htwins =>
    obtain ⟨found', hfound', hname, hmodule, -⟩ := hstems
    obtain ⟨found'', hfound'', hname', hmodule', -⟩ := hstems'
    obtain rfl := Option.some.inj (hfound.symm.trans hfound')
    obtain rfl := Target.module.inj (hsource.symm.trans hmodule)
    exact ⟨found'', id', hfound'', hmodule', htwins, hname'.trans hname.symm⟩
  | aggregate id id' htwins =>
    obtain ⟨found', hfound', hname, hmodule, -⟩ := hstems
    obtain ⟨found'', hfound'', hname', hmodule', -⟩ := hstems'
    obtain rfl := Option.some.inj (hfound.symm.trans hfound')
    obtain rfl := Target.module.inj (hsource.symm.trans hmodule)
    exact ⟨found'', id', hfound'', hmodule', htwins, hname'.trans hname.symm⟩

theorem Paired.aggregate_twin {id id' : ModuleId} (htwins : session.Twins session' id id')
    (hdistinct : session'.PathsDistinct)
    (hmore : ∀ asker asker', session.Twins session' asker asker' →
      (session.module asker).AsksMore (session'.module asker'))
    (hall : ∀ asker < session.modules.length, ∃ asker', session.Twins session' asker asker')
    (hasked : ∃ asker < session.modules.length,
      (session.module asker).Asks (.module id) aggregateName) :
    (session'.module id').exports.get? aggregateName ≠ none := by
  obtain ⟨asker, hasker, specifier, htarget, hrequest⟩ := hasked
  obtain ⟨asker', haskers⟩ := hall asker hasker
  have hasks := hmore asker asker' haskers
  obtain ⟨target', htarget', htargets⟩ :=
    h.dependency_twin haskers hasks specifier _ (Table.mem_of_get? _ _ _ htarget)
  cases htargets with
  | module _ other' hother =>
    obtain rfl := hdistinct other' hother.2.1 id' htwins.2.1
      (hother.2.2.trans htwins.2.2.symm)
    exact (h.wired'.completed asker' haskers.2.1).aggregate_of_asks other'
      ⟨specifier, htarget', hasks.requests hrequest⟩

theorem Paired.kept_of_stems {id id' : ModuleId} (htwins : session.Twins session' id id')
    (name : String) (record : RecordId) (found : ExportRecord) (source : ModuleId)
    (hfound : session.records[record]? = some found) (hsource : found.source = .module source)
    (origin origin' : Origin) (horigins : session.OriginTwins session' origin origin')
    (hstems : session.Stems record origin)
    (hresolved : session'.resolution session'.lendingAnswer id' name = some origin') :
    ∃ record' found', (session'.module id').exports.get? name = some record' ∧
      session'.records[record']? = some found' ∧
        ((∃ source', found'.source = .module source' ∧ session.Twins session' source source' ∧
          found'.localName = found.localName) ∨ session'.LentBelow id' record') := by
  have hagrees := tables_agree h.sound' h.wired' id' htwins.2.1 name
  rw [hresolved] at hagrees
  cases hentry : (session'.module id').exports.get? name with
  | none =>
    rw [hentry] at hagrees
    exact absurd hagrees nofun
  | some record' =>
    rw [hentry] at hagrees
    cases hagrees with
    | meets origin' record' hmeets =>
      rcases hmeets with hstems' | ⟨other, hreaches, hlent⟩
      · obtain ⟨found', source', hfound', hsource', hsources, hname⟩ :=
          h.stems_twins record record' found source hfound hsource _ _ horigins hstems hstems'
        exact ⟨record', found', rfl, hfound', .inl ⟨source', hsource', hsources, hname⟩⟩
      · have hlent' := hlent
        obtain ⟨star, -, found', hfound', -⟩ := hlent'
        exact ⟨record', found', rfl, hfound', .inr ⟨other, hreaches, hlent⟩⟩

theorem Paired.aggregate_kept {id id' : ModuleId} (htwins : session.Twins session' id id')
    (hmore : session.AsksMore session' id) (hdistinct : session'.PathsDistinct)
    (hall : ∀ asker < session.modules.length, ∃ asker', session.Twins session' asker asker')
    (record : RecordId)
    (hentry : (session.module id).exports.get? aggregateName = some record)
    (hresolved : session.resolution session.lendingAnswer id aggregateName = none)
    (hresolved' : session'.resolution session'.lendingAnswer id' aggregateName = none) :
    ∃ record', (session'.module id').exports.get? aggregateName = some record' ∧
      session'.IsAggregate id' record' := by
  have hnone := h.wired.first_aggregate_of_none h.sound id htwins.1 hresolved
  have hasked := (h.wired.aggregate id htwins.1
    (hentry ▸ Option.some_ne_none record)).resolve_left fun hsome => hsome hnone
  obtain ⟨record', hentry'⟩ := Option.ne_none_iff_exists'.mp
    (h.aggregate_twin htwins hdistinct hmore.asks hall hasked)
  have hagrees := tables_agree h.sound' h.wired' id' htwins.2.1 aggregateName
  rw [hresolved', hentry'] at hagrees
  cases hagrees with
  | added record' hadded =>
    rcases hadded with ⟨-, haggregate⟩ | ⟨hne, -⟩
    · exact ⟨record', hentry', haggregate⟩
    · exact absurd rfl hne

/-- What a module holds of a module, its twin holds of the twin, if no external got in the way. -/
theorem Paired.exports_kept {id id' : ModuleId} (htwins : session.Twins session' id id')
    (hmore : session.AsksMore session' id) (hdistinct : session'.PathsDistinct)
    (hall : ∀ asker < session.modules.length, ∃ asker', session.Twins session' asker asker')
    (name : String) (record : RecordId) (found : ExportRecord) (source : ModuleId)
    (hentry : (session.module id).exports.get? name = some record)
    (hfound : session.records[record]? = some found) (hsource : found.source = .module source) :
    ∃ record' found', (session'.module id').exports.get? name = some record' ∧
      session'.records[record']? = some found' ∧
        ((∃ source', found'.source = .module source' ∧ session.Twins session' source source' ∧
          found'.localName = found.localName) ∨ session'.LentBelow id' record') := by
  have hnot_lent : ∀ other, ¬ session.Lent other record := by
    rintro other ⟨star, -, found', hfound', hexternal⟩
    obtain rfl := Option.some.inj (hfound.symm.trans hfound')
    exact absurd (hsource.symm.trans hexternal) nofun
  have hagrees := tables_agree h.sound h.wired id htwins.1 name
  have hresolved := h.resolution_twins id hmore id id' htwins .refl name
  rw [hentry] at hagrees
  generalize horigin : session.resolution session.lendingAnswer id name = origin
    at hagrees hresolved
  generalize horigin' : session'.resolution session'.lendingAnswer id' name = origin' at hresolved
  cases hagrees with
  | meets origin record hmeets =>
    have hstems : session.Stems record origin :=
      hmeets.resolve_right fun ⟨other, _, hlent⟩ => hnot_lent other hlent
    cases hresolved with
    | some horigins =>
      exact h.kept_of_stems htwins name record found source hfound hsource _ _ horigins hstems
        horigin'
  | added record hadded =>
    rcases hadded with ⟨rfl, haggregate⟩ | ⟨-, -, hlent⟩
    · cases hresolved with
      | none =>
        obtain ⟨record', hentry', haggregate'⟩ :=
          h.aggregate_kept htwins hmore hdistinct hall record hentry horigin horigin'
        obtain ⟨found', source', hfound', hsource', hsources, hname⟩ :=
          h.stems_twins record record' found source hfound hsource _ _
            (.aggregate id id' htwins) haggregate haggregate'
        exact ⟨record', found', hentry', hfound', .inl ⟨source', hsource', hsources, hname⟩⟩
    · exact absurd hlent (hnot_lent id)

end

end Session

end ScopeHoist
