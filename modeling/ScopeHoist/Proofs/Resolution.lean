import ScopeHoist.Proofs.Finishing
import ScopeHoist.Proofs.Origins

/-!
# What an exported name stands for

The origin of an exported name is found by going down from the statement that exports it, by way of
re-exports and exported imports, to the module or the external that the value comes from. No table
is looked at: the answer depends on the programs alone, and on what their specifiers lead to. Going
down ends, since a module only depends on modules stored before it.
-/

set_option autoImplicit false

namespace ScopeHoist

abbrev Answer := ModuleId → String → Option Origin

namespace Session

variable (session : Session)

/-- What a referent of a module stands for, when targets answer as given. -/
def refer (answer : Target → String → Option Origin) (id : ModuleId) : Referent → Option Origin
  | .declared identity => some (.declaration id identity)
  | .outer specifier name => ((session.module id).target? specifier).bind (answer · name)
  | .imported specifier name =>
    (((session.module id).target? specifier).bind (answer · name)).or (some (.unnamedDefault id))
  | .unnamed => some (.unnamedDefault id)

/-- What the last export statement of a name refers to, among those that refer to anything. -/
def referred (answer : Target → String → Option Origin) (id : ModuleId) (clauses : List Clause)
    (name : String) : Option Origin :=
  ((clauses.filter fun clause => clause.name == name).filterMap fun clause =>
    session.refer answer id clause.referent).getLast?

/-- What the last module that a module exports whole has under a name, among those that have
anything. Defaults and namespaces are not passed on. -/
def passed (known : Answer) (modules : List ModuleId) (name : String) : Option Origin :=
  if name = defaultName ∨ name = aggregateName then none
  else (modules.filterMap fun id => known id name).getLast?

variable (answering : Answer → Target → String → Option Origin)

def resolveStep (known : Answer) (id : ModuleId) (name : String) : Option Origin :=
  let module := session.module id
  (session.referred (answering known) id module.program.clauses name).or
    (passed known module.starModules name)

/-- What a name of a module stands for, going down at most to some depth. -/
def resolveTo : Nat → Answer
  | 0, _, _ => none
  | depth + 1, id, name => session.resolveStep answering (resolveTo depth) id name

/-- What a name of a module stands for. No chain of modules below it is longer than its number. -/
def resolution : Answer := fun id => session.resolveTo answering (id + 1) id

/-! ## Going down -/

def Local : Prop :=
  ∀ (known known' : Answer) (target : Target) (name : String),
    (∀ id, target = .module id → known id name = known' id name) →
      answering known target name = answering known' target name

variable {session} {answering}

theorem refer_congr (answer answer' : Target → String → Option Origin) (id : ModuleId)
    (referent : Referent)
    (h : ∀ target ∈ (session.module id).dependencyTargets, ∀ name,
      answer target name = answer' target name) :
    session.refer answer id referent = session.refer answer' id referent := by
  have hbind : ∀ specifier name, ((session.module id).target? specifier).bind (answer · name) =
      ((session.module id).target? specifier).bind (answer' · name) := by
    intro specifier name
    cases htarget : (session.module id).target? specifier with
    | none => rfl
    | some target => exact h target (target?_mem _ specifier target htarget) name
  cases referent with
  | outer specifier name => exact hbind specifier name
  | imported specifier name => exact congrArg (Option.or · _) (hbind specifier name)
  | _ => rfl

theorem resolveStep_ext (answering answering' : Answer → Target → String → Option Origin)
    (known known' : Answer) (id : ModuleId)
    (h : ∀ target ∈ (session.module id).dependencyTargets, ∀ name,
      answering known target name = answering' known' target name)
    (hknown : ∀ other, .module other ∈ (session.module id).dependencyTargets →
      ∀ name, known other name = known' other name) (name : String) :
    session.resolveStep answering known id name =
      session.resolveStep answering' known' id name := by
  have hrefer : ∀ referent, session.refer (answering known) id referent =
      session.refer (answering' known') id referent := fun referent =>
    refer_congr _ _ id referent h
  have hpassed : passed known (session.module id).starModules name =
      passed known' (session.module id).starModules name := by
    unfold passed
    split
    · rfl
    · rw [List.filterMap_congr fun other hother =>
        hknown other (Module.mem_starModules _ other hother) name]
  simp only [resolveStep, referred, hrefer, hpassed]

theorem resolveStep_congr (hlocal : Local answering) (known known' : Answer) (id : ModuleId)
    (h : ∀ other, .module other ∈ (session.module id).dependencyTargets →
      ∀ name, known other name = known' other name) (name : String) :
    session.resolveStep answering known id name = session.resolveStep answering known' id name :=
  resolveStep_ext answering answering known known' id (fun target htarget name =>
    hlocal known known' target name fun other heq => h other (heq ▸ htarget) name) h name

theorem resolveTo_eq (hsound : session.Sound) (hlocal : Local answering) (depth : Nat)
    (id : ModuleId) (hdepth : id < depth) (name : String) :
    session.resolveTo answering depth id name = session.resolution answering id name := by
  induction id using Nat.strongRecOn generalizing depth name with
  | _ id ih =>
    cases depth with
    | zero => exact absurd hdepth (Nat.not_lt_zero id)
    | succ depth =>
      apply resolveStep_congr hlocal
      intro other hother name
      have hlt := hsound.dependencies_lt id other ((mem_moduleDependencies _ other).mpr hother)
      rw [ih other hlt depth (Nat.lt_of_lt_of_le hlt (Nat.le_of_lt_succ hdepth)),
        ih other hlt id hlt]

/-- One step down leads to what the names found there stand for. -/
theorem resolution_eq (hsound : session.Sound) (hlocal : Local answering) (id : ModuleId)
    (name : String) :
    session.resolution answering id name =
      session.resolveStep answering (session.resolution answering) id name := by
  apply resolveStep_congr hlocal
  intro other hother name
  have hlt := hsound.dependencies_lt id other ((mem_moduleDependencies _ other).mpr hother)
  exact resolveTo_eq hsound hlocal id other hlt name

end Session

/-! ## How targets answer -/

/-- An external has all names, and a module those that it exports and its namespace. -/
def plainAnswer (known : Answer) : Target → String → Option Origin
  | .external id, name => some (.external id name)
  | .module id, name => if name = aggregateName then some (.aggregate id) else known id name

namespace Session

/-- What a module has to offer for a name that it does not export: its namespace object, and in
place of any other name but the default one of an external that it exports whole. -/
def offered (session : Session) (id : ModuleId) (name : String) : Option Origin :=
  if name = aggregateName then some (.aggregate id)
  else if name = defaultName then none
  else (session.module id).stars.head?.map fun star => .external star.external name

/-- A module answers by what it exports, else by what it has to offer. -/
def lendingAnswer (session : Session) (known : Answer) : Target → String → Option Origin
  | .external id, name => some (.external id name)
  | .module id, name => (known id name).or (session.offered id name)

theorem local_plainAnswer : Local plainAnswer := by
  intro known known' target name h
  cases target with
  | external id => rfl
  | module id => rw [plainAnswer, plainAnswer, h id rfl]

theorem local_lendingAnswer (session : Session) : Local session.lendingAnswer := by
  intro known known' target name h
  cases target with
  | external id => rfl
  | module id => rw [lendingAnswer, lendingAnswer, h id rfl]

/-! ## Records of an origin -/

/-- Whether a record is that of an origin. -/
def Stems (session : Session) (record : RecordId) : Origin → Prop
  | .external id name => (session.external id).exports.get? name = some record
  | .declaration id identity => session.DeclaredAs (session.module id) identity record
  | .unnamedDefault id => session.IsUnnamed id record
  | .aggregate id => session.IsAggregate id record
  | .helper => False

/-- A record of an external that a module or one it depends on exports whole. -/
def LentBelow (session : Session) (id : ModuleId) (record : RecordId) : Prop :=
  ∃ other, session.Reaches id other ∧ session.Lent other record

/-- A record is that of an origin, or an external got in the way. -/
def Meets (session : Session) (id : ModuleId) (origin : Origin) (record : RecordId) : Prop :=
  session.Stems record origin ∨ session.LentBelow id record

/-- What a module holds under a name, and what the name stands for. -/
inductive Matches (session : Session) (id : ModuleId) (name : String) :
    Option Origin → Option RecordId → Prop
  | absent : Matches session id name none none
  | meets (origin : Origin) (record : RecordId) (h : session.Meets id origin record) :
    Matches session id name (some origin) (some record)
  | lent (record : RecordId) (hdefault : name ≠ defaultName) (haggregate : name ≠ aggregateName)
      (h : session.Lent id record) :
    Matches session id name none (some record)

/-- What the table of a module has under a name, and what the name stands for. -/
inductive Agrees (session : Session) (id : ModuleId) (name : String) :
    Option Origin → Option RecordId → Prop
  | absent : Agrees session id name none none
  | meets (origin : Origin) (record : RecordId) (h : session.Meets id origin record) :
    Agrees session id name (some origin) (some record)
  | added (record : RecordId) (h : session.Added id name record) :
    Agrees session id name none (some record)

variable {session : Session} {id : ModuleId} {name : String}

theorem Matches.or {origin origin' : Option Origin} {record record' : Option RecordId}
    (h : session.Matches id name origin record) (h' : session.Matches id name origin' record') :
    session.Matches id name (origin.or origin') (record.or record') := by
  cases h with
  | absent => exact h'
  | meets origin record h => exact .meets origin record h
  | lent record hdefault haggregate h =>
    cases origin' with
    | none => exact .lent record hdefault haggregate h
    | some origin' =>
      exact .meets origin' record (.inr ⟨id, Relation.ReflTransGen.refl, h⟩)

theorem Matches.of_rel {origin : Option Origin} {record : Option RecordId}
    (h : Option.Rel (session.Meets id) origin record) : session.Matches id name origin record := by
  cases h with
  | none => exact .absent
  | some h => exact .meets _ _ h

theorem Meets.below {other : ModuleId}
    (hother : .module other ∈ (session.module id).dependencyTargets) {origin : Origin}
    {record : RecordId} (h : session.Meets other origin record) :
    session.Meets id origin record := by
  refine h.imp (fun h => h) ?_
  rintro ⟨below, hreaches, hlent⟩
  exact ⟨below, Relation.ReflTransGen.head ((mem_moduleDependencies _ other).mpr hother) hreaches,
    hlent⟩

/-! ## What tables hold is what their names stand for -/

theorem referred_cons (answer : Target → String → Option Origin) (first : Clause)
    (rest : List Clause) (name : String) :
    session.referred answer id (first :: rest) name =
      (session.referred answer id rest name).or
        (if first.name = name then session.refer answer id first.referent else none) := by
  unfold referred
  by_cases h : first.name = name
  · rw [List.filter_cons_of_pos (by simpa using h), getLast?_filterMap_cons, if_pos h]
  · rw [List.filter_cons_of_neg (by simpa using h), if_neg h, Option.or_none]

theorem rel_or {α β : Type} {relation : α → β → Prop} {a a' : Option α} {b b' : Option β}
    (h : Option.Rel relation a b) (h' : Option.Rel relation a' b') :
    Option.Rel relation (a.or a') (b.or b') := by
  cases h with
  | none => exact h'
  | some h => exact .some h

theorem rel_or_left {α β : Type} {relation : α → β → Prop} {a : Option α} {b : β}
    (h : Option.Rel relation a (some b)) (other : Option α) :
    Option.Rel relation (a.or other) (some b) := by
  cases h with
  | some h => exact .some h

theorem rel_or_right {α β : Type} {relation : α → β → Prop} {a : Option α}
    (h : Option.Rel relation a none) {other : α} {b : β} (hother : relation other b) :
    Option.Rel relation (a.or (some other)) (some b) := by
  cases h with
  | none => exact .some hother

theorem rel_referred (answer : Target → String → Option Origin) (clauses : List Clause)
    (published : List Published)
    (hpublishes : session.Publishes (session.module id) clauses published)
    (hyields : ∀ referent result, session.Yields (session.module id) referent result →
      Option.Rel (session.Meets id) (session.refer answer id referent) result) :
    Option.Rel (session.Meets id) (session.referred answer id clauses name)
      (lastPublished published name) := by
  induction hpublishes with
  | nil => exact .none
  | made clause clauses record isUnnamed published h _ ih =>
    rw [referred_cons, lastPublished_cons]
    apply rel_or ih
    dsimp only
    split
    · exact hyields _ _ h
    · exact .none
  | skipped clause clauses published h _ ih =>
    rw [referred_cons]
    have hnone := hyields _ _ h
    cases hrefer : session.refer answer id clause.referent with
    | none => simpa using ih
    | some origin =>
      rw [hrefer] at hnone
      exact absurd hnone nofun

theorem rel_granted (target : Target) (htarget : target ∈ (session.module id).dependencyTargets)
    (request : String) (result : Option RecordId) (h : session.Granted request result target)
    (hagrees : ∀ other, target = .module other → session.Agrees other request
      (session.resolution session.lendingAnswer other request)
      ((session.module other).exports.get? request)) :
    Option.Rel (session.Meets id)
      (session.lendingAnswer (session.resolution session.lendingAnswer) target request)
      result := by
  cases target with
  | external external =>
    obtain ⟨record, rfl, hentry⟩ := h
    exact .some (.inl hentry)
  | module other =>
    obtain ⟨-, hentry, hnone⟩ := h
    have hagrees := hagrees other rfl
    rw [hentry] at hagrees
    change Option.Rel _ ((session.resolution session.lendingAnswer other request).or
      (session.offered other request)) result
    cases hresolved : session.resolution session.lendingAnswer other request with
    | some origin =>
      rw [hresolved] at hagrees
      cases hagrees with
      | meets origin record hmeets => exact .some (hmeets.below htarget)
    | none =>
      rw [hresolved] at hagrees
      rw [Option.none_or, offered]
      cases hagrees with
      | absent =>
        obtain ⟨haggregate, hname⟩ := hnone rfl
        rw [if_neg haggregate]
        rcases hname with hdefault | hstars
        · rw [if_pos hdefault]
          exact .none
        · rw [hstars]
          split <;> exact .none
      | added record hadded =>
        rcases hadded with ⟨hname, hrecord⟩ | ⟨haggregate, hdefault, hlent⟩
        · rw [if_pos hname]
          exact .some (.inl hrecord)
        · rw [if_neg haggregate, if_neg hdefault]
          obtain ⟨star, hstar, hfound⟩ := hlent
          cases hstars : (session.module other).stars with
          | nil =>
            rw [hstars] at hstar
            exact absurd hstar List.not_mem_nil
          | cons first rest =>
            refine .some (Meets.below htarget (.inr ⟨other, Relation.ReflTransGen.refl, star,
              hstar, hfound⟩))

theorem mem_starsOf (module : Module) (star : StarReexport) :
    star ∈ session.starsOf module ↔ ∃ specifier ∈ module.starSpecifiers,
      (∃ id, module.target? specifier = some (.module id) ∧ star ∈ (session.module id).stars) ∨
        ∃ id, module.target? specifier = some (.external id) ∧ star = ⟨specifier, id⟩ := by
  refine (mem_foldl_iff (fun stars specifier => ?_) _ _).trans (or_iff_right List.not_mem_nil)
  cases htarget : module.target? specifier with
  | none => simp
  | some target =>
    cases target with
    | module id => simp [mem_foldl_addNew]
    | external id => simp [mem_addNew]

theorem lent_of_starModule {first : ModuleId → Table RecordId}
    (hcompleted : session.Completed first (session.module id)) (other : ModuleId)
    (hother : other ∈ (session.module id).starModules) (record : RecordId)
    (hlent : session.Lent other record) : session.Lent id record := by
  obtain ⟨star, hstar, hfound⟩ := hlent
  obtain ⟨specifier, hspecifier, htarget⟩ := List.mem_filterMap.mp hother
  refine ⟨star, ?_, hfound⟩
  rw [hcompleted.stars, mem_starsOf]
  refine ⟨specifier, hspecifier, .inl ⟨other, ?_, hstar⟩⟩
  unfold Module.starModule? at htarget
  split at htarget
  · rename_i found heq
    rw [heq, Option.some.inj htarget]
  · exact absurd htarget nofun

section

variable {first : ModuleId → Table RecordId}

/-- A table agrees with what names stand for, if the first table did. -/
theorem agrees_of_matches (hsound : session.Sound) (hid : id < session.modules.length)
    (hcompleted : session.Completed first (session.module id)) (origin : Option Origin)
    (h : session.Matches id name origin ((first id).get? name)) :
    session.Agrees id name origin ((session.module id).exports.get? name) := by
  have hkept := hcompleted.kept name
  have hadded := hcompleted.added name
  rw [hsound.id_eq id hid] at hkept hadded
  cases hfirst : (first id).get? name with
  | some record =>
    rw [hkept record hfirst]
    rw [hfirst] at h
    cases h with
    | meets origin record h => exact .meets origin record h
    | lent record hdefault haggregate h => exact .added record (.inr ⟨haggregate, hdefault, h⟩)
  | none =>
    rw [hfirst] at h
    cases h with
    | absent =>
      cases hentry : (session.module id).exports.get? name with
      | none => exact .absent
      | some record => exact .added record (hadded record hfirst hentry)

theorem matches_held (held : ModuleId → Table RecordId)
    (hcompleted : session.Completed first (session.module id)) (hdefault : name ≠ defaultName)
    (haggregate : name ≠ aggregateName) (other : ModuleId)
    (hother : other ∈ (session.module id).starModules) (hheld : session.Holds first held other)
    (hadded : ∀ record, (first other).get? name = none →
      (session.module other).exports.get? name = some record → session.Added other name record)
    (origin : Option Origin)
    (hmatches : session.Matches other name origin ((first other).get? name)) :
    session.Matches id name origin ((held other).get? name) := by
  have hlent := lent_of_starModule hcompleted other hother
  obtain ⟨-, hentries⟩ := hheld
  cases hfirst : (first other).get? name with
  | some record =>
    rw [(hentries name record).1 hfirst]
    rw [hfirst] at hmatches
    cases hmatches with
    | meets origin record h =>
      exact .meets origin record (h.below (Module.mem_starModules _ other hother))
    | lent record _ _ h => exact .lent record hdefault haggregate (hlent record h)
  | none =>
    rw [hfirst] at hmatches
    cases hmatches with
    | absent =>
      cases hnow : (held other).get? name with
      | none => exact .absent
      | some record =>
        rcases hadded record hfirst ((hentries name record).2 hnow) with ⟨heq, -⟩ | ⟨-, -, h⟩
        · exact absurd heq haggregate
        · exact .lent record hdefault haggregate (hlent record h)

/-- What `export *` passed on at the time, if the first tables of the modules exported whole match
what their names stand for. -/
theorem matches_passed (known : Answer) (held : ModuleId → Table RecordId)
    (hcompleted : session.Completed first (session.module id))
    (hheld : ∀ other ∈ (session.module id).starModules, session.Holds first held other)
    (hadded : ∀ other ∈ (session.module id).starModules, ∀ record,
      (first other).get? name = none →
        (session.module other).exports.get? name = some record → session.Added other name record)
    (hmatches : ∀ other ∈ (session.module id).starModules,
      session.Matches other name (known other name) ((first other).get? name)) :
    session.Matches id name (passed known (session.module id).starModules name)
      (lastHeld held (session.module id).starModules name) := by
  unfold passed lastHeld
  by_cases hname : name = defaultName ∨ name = aggregateName
  · rw [if_pos hname, if_pos hname]
    exact .absent
  · rw [if_neg hname, if_neg hname]
    obtain ⟨hdefault, haggregate⟩ := not_or.mp hname
    have hone : ∀ other ∈ (session.module id).starModules,
        session.Matches id name (known other name) ((held other).get? name) :=
      fun other hother => matches_held held hcompleted hdefault haggregate other hother
        (hheld other hother) (hadded other hother) _ (hmatches other hother)
    generalize (session.module id).starModules = modules at hone
    induction modules with
    | nil => exact .absent
    | cons head rest ih =>
      rw [getLast?_filterMap_cons, getLast?_filterMap_cons]
      exact (ih fun other hother => hone other (List.mem_cons_of_mem _ hother)).or
        (hone head List.mem_cons_self)

theorem first_matches (hsound : session.Sound) (hwired : session.Wired first) (id : ModuleId)
    (hid : id < session.modules.length) (name : String) :
    session.Matches id name (session.resolution session.lendingAnswer id name)
      ((first id).get? name) := by
  induction id using Nat.strongRecOn generalizing name with
  | _ id ih =>
    have hcompleted := hwired.completed id hid
    have hbelow : ∀ other, .module other ∈ (session.module id).dependencyTargets →
        other < id := fun other hother =>
      hsound.dependencies_lt id other ((mem_moduleDependencies _ other).mpr hother)
    have hagrees : ∀ other, .module other ∈ (session.module id).dependencyTargets → ∀ name,
        session.Agrees other name (session.resolution session.lendingAnswer other name)
          ((session.module other).exports.get? name) := by
      intro other hother name
      have hlt := Nat.lt_trans (hbelow other hother) hid
      exact agrees_of_matches hsound hlt (hwired.completed other hlt) _
        (ih other (hbelow other hother) hlt name)
    have hgranted : ∀ specifier target request result,
        (session.module id).target? specifier = some target →
        session.Granted request result target → Option.Rel (session.Meets id)
          (((session.module id).target? specifier).bind fun target =>
            session.lendingAnswer (session.resolution session.lendingAnswer) target request)
          result := by
      intro specifier target request result htarget h
      have hmem := target?_mem _ specifier target htarget
      rw [htarget, Option.bind_some]
      exact rel_granted target hmem request result h fun other heq =>
        hagrees other (heq ▸ hmem) request
    obtain ⟨held, published, hpublishes, hheld, hentries⟩ := hcompleted.exports
    rw [hsound.id_eq id hid] at hentries
    rw [resolution_eq hsound (local_lendingAnswer session), resolveStep, hentries name, firstEntry]
    refine Matches.or (.of_rel (rel_referred _ _ _ hpublishes fun referent result hyields => ?_))
      (matches_passed _ held hcompleted hheld (fun other hother record hnone hsome => ?_)
        fun other hother => ?_)
    · cases hyields with
      | declared identity record h => exact .some (.inl h)
      | outer specifier request target result htarget h =>
        exact hgranted specifier target request result htarget h
      | imported specifier request target record htarget h =>
        exact rel_or_left (hgranted specifier target request _ htarget h) _
      | unresolved specifier request target record htarget hnone h =>
        rw [hsound.id_eq id hid] at h
        exact rel_or_right (hgranted specifier target request _ htarget hnone) (.inl h)
      | unnamed record h =>
        rw [hsound.id_eq id hid] at h
        exact .some (.inl h)
    · have hlt := Nat.lt_trans (hbelow other (Module.mem_starModules _ other hother)) hid
      have hadded := (hwired.completed other hlt).added name record
      rw [hsound.id_eq other hlt] at hadded
      exact hadded hnone hsome
    · have hmem := Module.mem_starModules _ other hother
      exact ih other (hbelow other hmem) (Nat.lt_trans (hbelow other hmem) hid) name

theorem Wired.first_aggregate_of_none (hwired : session.Wired first) (hsound : session.Sound)
    (id : ModuleId) (hid : id < session.modules.length)
    (hnone : session.resolution session.lendingAnswer id aggregateName = none) :
    (first id).get? aggregateName = none := by
  have hmatches := first_matches hsound hwired id hid aggregateName
  rw [hnone] at hmatches
  generalize (first id).get? aggregateName = entry at hmatches
  cases hmatches with
  | absent => rfl
  | lent record _ hname _ => exact absurd rfl hname

/-- The table of every stored module agrees with what its names stand for. -/
theorem tables_agree (hsound : session.Sound) (hwired : session.Wired first) (id : ModuleId)
    (hid : id < session.modules.length) (name : String) :
    session.Agrees id name (session.resolution session.lendingAnswer id name)
      ((session.module id).exports.get? name) :=
  agrees_of_matches hsound hid (hwired.completed id hid) _ (first_matches hsound hwired id hid name)

end

end Session

/-! ## Built sessions -/

theorem wired_builtSession (tree : FileTree) (entry : Path) (options : BundleOptions) :
    ∃ first, (builtSession tree entry options).Wired first := by
  have hsettled : Building.Weaves (fun _ => True) (Building.settled tree entry) fun _ _ => True :=
    Building.weaves_seq (Building.weaves_note _ _) fun _ =>
      Building.weaves_seq (Building.weaves_weaken (Building.weaves_build tree entry)
        (fun _ _ => trivial) fun _ _ _ => trivial) fun _ =>
          Building.weaves_quiet (Building.keeps_lift keeps_settleOrder) fun _ _ => ⟨rfl, rfl⟩
  exact hsettled.2 _ (Session.sound_new options) ⟨fun _ => [], Session.wired_new _ options⟩ trivial

end ScopeHoist
