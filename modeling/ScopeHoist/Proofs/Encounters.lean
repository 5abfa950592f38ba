import ScopeHoist.Proofs.Defaults
import ScopeHoist.Proofs.Progress

/-!
# The order in which externals come up

Going through a module means going through what its specifiers lead to, in the order of the source:
an external is met there and then, a module is done behind all that it depends on. Where a build
starts from nothing, modules and externals are numbered in the order of this walk. Only the entry is
marked as one, and all modules are settled.
-/

set_option autoImplicit false

namespace ScopeHoist

/-- Going through targets one after the other leads from modules that are done and externals that
were met to others. -/
inductive Encounters (targets : ModuleId → List Target) :
    List ModuleId → List ExternalId → List Target → List ModuleId → List ExternalId → Prop
  | nil (order : List ModuleId) (met : List ExternalId) : Encounters targets order met [] order met
  | external {order order' : List ModuleId} {met met' : List ExternalId} {rest : List Target}
      {id : ExternalId} (hrest : Encounters targets order (addNew met id) rest order' met') :
    Encounters targets order met (.external id :: rest) order' met'
  | seen {order order' : List ModuleId} {met met' : List ExternalId} {rest : List Target}
      {id : ModuleId} (hseen : id ∈ order)
      (hrest : Encounters targets order met rest order' met') :
    Encounters targets order met (.module id :: rest) order' met'
  | new {order below order' : List ModuleId} {met mid met' : List ExternalId} {rest : List Target}
      {id : ModuleId} (hnew : id ∉ order)
      (hbelow : Encounters targets order met (targets id) below mid)
      (hrest : Encounters targets (below ++ [id]) mid rest order' met') :
    Encounters targets order met (.module id :: rest) order' met'

namespace Encounters

variable {targets : ModuleId → List Target} {order order' : List ModuleId}
  {met met' : List ExternalId} {listed : List Target}

theorem kept (h : Encounters targets order met listed order' met') : order ⊆ order' := by
  induction h with
  | nil order met => exact fun _ hid => hid
  | external hrest ih => exact ih
  | seen hseen hrest ih => exact ih
  | new hnew hbelow hrest ihbelow ihrest =>
    exact fun id hid => ihrest (List.mem_append_left _ (ihbelow hid))

/-- Only the targets of modules that are done in the end matter. -/
theorem congr (h : Encounters targets order met listed order' met')
    {targets' : ModuleId → List Target} (hsame : ∀ id ∈ order', targets' id = targets id) :
    Encounters targets' order met listed order' met' := by
  induction h with
  | nil order met => exact .nil order met
  | external hrest ih => exact .external (ih hsame)
  | seen hseen hrest ih => exact .seen hseen (ih hsame)
  | @new order below order' met mid met' rest id hnew hbelow hrest ihbelow ihrest =>
    have hkept := hrest.kept
    refine .new hnew ?_ (ihrest hsame)
    rw [hsame id (hkept (List.mem_append_right _ List.mem_cons_self))]
    exact ihbelow fun other hother => hsame other (hkept (List.mem_append_left _ hother))

theorem append {listed' : List Target} {order'' : List ModuleId} {met'' : List ExternalId}
    (h : Encounters targets order met listed order' met')
    (h' : Encounters targets order' met' listed' order'' met'') :
    Encounters targets order met (listed ++ listed') order'' met'' := by
  induction h with
  | nil order met => exact h'
  | external hrest ih => exact .external (ih h')
  | seen hseen hrest ih => exact .seen hseen (ih h')
  | new hnew hbelow hrest ihbelow ihrest => exact .new hnew hbelow (ihrest h')

theorem unique (h : Encounters targets order met listed order' met') {order'' : List ModuleId}
    {met'' : List ExternalId} (h' : Encounters targets order met listed order'' met'') :
    order'' = order' ∧ met'' = met' := by
  induction h generalizing order'' met'' with
  | nil order met =>
    cases h'
    exact ⟨rfl, rfl⟩
  | external hrest ih =>
    cases h' with
    | external hrest' => exact ih hrest'
  | seen hseen hrest ih =>
    cases h' with
    | seen _ hrest' => exact ih hrest'
    | new hnew' => exact absurd hseen hnew'
  | new hnew hbelow hrest ihbelow ihrest =>
    cases h' with
    | seen hseen' => exact absurd hseen' hnew
    | new _ hbelow' hrest' =>
      obtain ⟨rfl, rfl⟩ := ihbelow hbelow'
      exact ihrest hrest'

end Encounters

theorem Module.Grows.settled {before after : Module} (h : before.Grows after)
    (hsettled : before.Settled) : after.Settled := by
  unfold Module.Settled at *
  rw [h.same]
  exact hsettled

namespace Session

/-- What following some targets leads to: new modules and externals are numbered as they come up,
and the new modules are settled. One of them may be an entry only if it is asked for as such. -/
structure Gathers (isEntry : Bool) (listed : List Target) (before after : Session) : Prop where
  sound : after.Sound
  grows : before.Grows after
  valid : ∀ target ∈ listed, after.Valid target
  met : Encounters (fun id => (after.module id).dependencyTargets)
    (List.range before.modules.length) (List.range before.externals.length) listed
    (List.range after.modules.length) (List.range after.externals.length)
  entries : ∀ id, before.modules.length ≤ id → id < after.modules.length →
    (after.module id).isEntry = true → isEntry = true ∧ .module id ∈ listed
  settled : ∀ id, before.modules.length ≤ id → id < after.modules.length →
    (after.module id).Settled
  wellShaped : ∀ id, before.modules.length ≤ id → id < after.modules.length →
    (after.module id).program.WellShaped

variable {before mid after : Session} {isEntry : Bool} {listed listed' : List Target}

theorem Gathers.start (h : before.Sound) (hlisted : ∀ target ∈ listed, before.Valid target) :
    before.Gathers isEntry listed before where
  sound := h
  grows := .refl before
  valid := hlisted
  met := by
    induction listed with
    | nil => exact .nil _ _
    | cons first rest ih =>
      obtain ⟨hfirst, hrest⟩ := List.forall_mem_cons.mp hlisted
      cases first with
      | module id => exact .seen (List.mem_range.mpr hfirst) (ih hrest)
      | external id =>
        refine .external ?_
        rw [addNew, if_pos (List.contains_iff_mem.mpr (List.mem_range.mpr hfirst))]
        exact ih hrest
  entries := fun _ hold hnew => absurd hnew (Nat.not_lt_of_le hold)
  settled := fun _ hold hnew => absurd hnew (Nat.not_lt_of_le hold)
  wellShaped := fun _ hold hnew => absurd hnew (Nat.not_lt_of_le hold)

theorem Gathers.trans (h : before.Gathers false listed mid)
    (h' : mid.Gathers isEntry listed' after) :
    before.Gathers isEntry (listed ++ listed') after where
  sound := h'.sound
  grows := h.grows.trans h'.grows
  valid := by
    intro target htarget
    rcases List.mem_append.mp htarget with htarget | htarget
    · exact h'.grows.valid target (h.valid target htarget)
    · exact h'.valid target htarget
  met := by
    refine (h.met.congr fun id hid => ?_).append h'.met
    exact (h'.grows.module id (List.mem_range.mp hid)).dependencyTargets_eq
  entries := by
    intro id hold hnew hentry
    by_cases hid : id < mid.modules.length
    · rw [(h'.grows.module id hid).isEntry_eq] at hentry
      exact absurd (h.entries id hold hid hentry).1 nofun
    · obtain ⟨hkind, hlisted⟩ := h'.entries id (Nat.le_of_not_lt hid) hnew hentry
      exact ⟨hkind, List.mem_append_right _ hlisted⟩
  settled := by
    intro id hold hnew
    by_cases hid : id < mid.modules.length
    · exact (h'.grows.module id hid).settled (h.settled id hold hid)
    · exact h'.settled id (Nat.le_of_not_lt hid) hnew
  wellShaped := by
    intro id hold hnew
    by_cases hid : id < mid.modules.length
    · rw [(h'.grows.module id hid).program_eq]
      exact h.wellShaped id hold hid
    · exact h'.wellShaped id (Nat.le_of_not_lt hid) hnew

theorem Gathers.aside (h : before.Gathers isEntry listed mid) (journal : Journal)
    (comments : Comments) (nextOffset : Nat) :
    before.Gathers isEntry listed { mid with journal, comments, nextOffset } where
  sound := Building.sound_aside h.sound journal comments nextOffset
  grows := h.grows.trans (.of_same rfl rfl List.prefix_rfl List.prefix_rfl)
  valid := h.valid
  met := h.met
  entries := h.entries
  settled := h.settled
  wellShaped := h.wellShaped

theorem Gathers.intern (h : before.Sound) (specifier : String) :
    before.Gathers false [.external ((InSession.intern specifier).run before).1]
      ((InSession.intern specifier).run before).2 := by
  obtain ⟨hgrows, hsound, hvalid⟩ :=
    Building.keeps_intern specifier (fun _ => True) before h trivial
  have hvalid := hvalid _ rfl
  change before.Grows ((InSession.intern specifier).run before).2 at hgrows
  change ((InSession.intern specifier).run before).2.Sound at hsound
  change ((InSession.intern specifier).run before).2.Valid
    (.external ((InSession.intern specifier).run before).1) at hvalid
  rw [InSession.run_intern] at *
  cases hnamed : before.externalNamed? specifier with
  | some id =>
    rw [hnamed] at hvalid
    exact .start h (by simpa using hvalid)
  | none =>
    rw [hnamed] at hgrows hsound hvalid
    refine ⟨hsound, hgrows, by simpa using hvalid, .external ?_,
      fun _ hold hnew => absurd hnew (Nat.not_lt_of_le hold),
      fun _ hold hnew => absurd hnew (Nat.not_lt_of_le hold),
      fun _ hold hnew => absurd hnew (Nat.not_lt_of_le hold)⟩
    have hmet : addNew (List.range before.externals.length) before.externals.length =
        List.range (before.addExternal specifier).externals.length := by
      rw [addExternal_length, List.range_succ, addNew, if_neg (by simp)]
    dsimp only
    rw [hmet]
    exact .nil _ _

end Session

namespace Building

open Session

theorem gathers_finish (path : Path) (isEntry : Bool) (text : String) (program : Program)
    (entries : List (String × Target)) {before mid : Session}
    (h : before.Gathers false (entries.map Prod.snd) mid) (hshape : program.WellShaped) :
    let finished := (finish path isEntry text program entries).run mid
    before.Gathers isEntry [.module finished.1] finished.2 ∧
      (finished.2.module finished.1).isEntry = isEntry := by
  have hstored := stored_finish path isEntry text program entries mid h.sound h.valid
  have hsettled := settled_finish path isEntry text program entries mid h.sound h.valid
  dsimp only at hsettled
  generalize (finish path isEntry text program entries).run mid = finished at *
  obtain ⟨id, after⟩ := finished
  dsimp only at *
  have hid : id < after.modules.length := hstored.length ▸ Nat.lt_succ_self id
  have hcases : ∀ other, other < after.modules.length →
      other < mid.modules.length ∨ other = id := by
    intro other hother
    rw [hstored.length] at hother
    exact hstored.id_eq ▸ Nat.lt_succ_iff_lt_or_eq.mp hother
  refine ⟨?_, hstored.isEntry_eq⟩
  constructor
  · exact hstored.sound
  · exact h.grows.trans hstored.grows
  · simpa [Valid] using hid
  · have htargets : (after.module id).dependencyTargets = entries.map Prod.snd := by
      rw [Module.dependencyTargets, hstored.dependencies_eq]
      rfl
    have hnew : id ∉ List.range before.modules.length := by
      rw [List.mem_range, hstored.id_eq]
      exact Nat.not_lt_of_le h.grows.modules_length
    have hbelow := h.met.congr fun other hother =>
      (hstored.grows.module other (List.mem_range.mp hother)).dependencyTargets_eq
    have hlast : List.range mid.modules.length ++ [id] = List.range after.modules.length := by
      rw [hstored.length, List.range_succ, hstored.id_eq]
    rw [← htargets] at hbelow
    refine .new hnew hbelow ?_
    rw [hlast, hstored.outside]
    exact .nil _ _
  · intro other hold hother hentry
    rcases hcases other hother with hlt | rfl
    · rw [(hstored.grows.module other hlt).isEntry_eq] at hentry
      cases (h.entries other hold hlt hentry).1
    · exact ⟨hstored.isEntry_eq ▸ hentry, List.mem_cons_self⟩
  · intro other hold hother
    rcases hcases other hother with hlt | rfl
    · exact (hstored.grows.module other hlt).settled (h.settled other hold hlt)
    · exact hsettled
  · intro other hold hother
    rcases hcases other hother with hlt | rfl
    · rw [(hstored.grows.module other hlt).program_eq]
      exact h.wellShaped other hold hlt
    · rwa [hstored.program_eq]

theorem gathers_follow (tree : FileTree) (path : Path) (loadFile : Path → Building ModuleId)
    (hload : ∀ file mid, mid.Sound → Meets (fun session => session = mid) (loadFile file)
      (fun id => mid.Gathers false [.module id]) fun _ _ => True) (specifier : String)
    (mid : Session) (hsound : mid.Sound) :
    Meets (fun session => session = mid) (follow tree path loadFile specifier)
      (fun entry => mid.Gathers false [entry.2]) fun _ _ => True := by
  have hstart : mid.Gathers false [] mid := .start hsound (by simp)
  apply meets_follow
  · exact fun _ _ _ => trivial
  · intro journal file _ _
    have haside := hstart.aside journal mid.comments mid.nextOffset
    exact meets_weaken (hload file _ haside.sound) (fun _ heq => heq)
      (fun id session h => haside.trans h) fun _ _ h => h
  · exact fun _ => .intern hsound specifier

theorem gathers_load (tree : FileTree) (depth : Nat) (underWay : List Path) (isEntry : Bool)
    (path : Path) (before : Session) (hsound : before.Sound) :
    Meets (fun session => session = before) (load tree depth underWay isEntry path)
      (fun id after => before.Gathers isEntry [.module id] after ∧
        (before.moduleAt? path = none → (after.module id).isEntry = isEntry)) fun _ _ => True := by
  induction depth generalizing underWay isEntry path before with
  | zero => exact meets_throw fun _ _ => trivial
  | succ depth ih =>
    have hstart : before.Gathers false [] before := .start hsound (by simp)
    apply meets_load_succ
    case hreused =>
      intro journal id hstored
      have hvalid := moduleAt?_valid before path id hstored
      have haside := hstart.aside journal before.comments before.nextOffset
      exact ⟨haside.trans (.start haside.sound (by simpa using haside.grows.valid _ hvalid)),
        fun hnone => by cases hstored.symm.trans hnone⟩
    case hcircular => exact fun _ _ => trivial
    case hunread => exact fun _ _ _ _ _ => trivial
    case hfollowed =>
      intro journal comments nextOffset offset text program habsent hnew hsource
      have hfollowed := meets_mapM (fun entries session =>
        before.Gathers false (entries.map Prod.snd) session)
        (program.moved offset).resolve.specifiers fun specifier _ done =>
        meets_entry fun mid hmid =>
          meets_weaken (gathers_follow tree path _ (fun file mid hsound =>
            meets_weaken (ih (underWay ++ [path]) false file mid hsound) (fun _ heq => heq)
              (fun _ _ h => h.1) fun _ _ h => h) specifier mid hmid.sound) (fun _ heq => heq)
                (fun entry session h => by
                  rw [List.map_append]
                  exact hmid.trans h) fun _ _ h => h
      refine meets_weaken (meets_bind _ hfollowed fun entries => meets_lift fun session h => ?_)
        (fun _ heq => heq ▸ hstart.aside journal comments nextOffset) (fun _ _ h => h)
          fun _ _ h => h
      exact (gathers_finish path isEntry text _ entries h
        (FileTree.wellShaped_programAt hsource offset)).imp_right fun heq _ => heq

theorem gathers_build (tree : FileTree) (entry : Path) (before : Session) (hsound : before.Sound)
    (hempty : before.modules = []) (root : ModuleId) (after : Session)
    (hrun : (build tree entry).run before = (.ok root, after)) :
    before.Gathers true [.module root] after ∧ (after.module root).isEntry = true := by
  obtain ⟨journal, remark, hbuild⟩ := run_build tree entry before
  rw [hbuild] at hrun
  have hstart : before.Gathers false [] before := .start hsound (by simp)
  have hbegin := hstart.aside journal before.comments before.nextOffset
  have hload := gathers_load tree (tree.entries.length + 2) [] true
    (canonicalOr tree entry .empty).1 _ hbegin.sound _ rfl
  split at hrun
  · rename_i id loaded hloaded
    obtain ⟨hid, rfl⟩ := Prod.mk.inj hrun
    obtain rfl := Except.ok.inj hid
    obtain ⟨hgathers, hentry⟩ := hload.1 id (congrArg Prod.fst hloaded)
    rw [hloaded] at hgathers hentry
    have hnone : ({ before with journal } : Session).moduleAt?
        (canonicalOr tree entry .empty).1 = none := by
      rw [moduleAt?, hempty]
      rfl
    exact ⟨(hbegin.trans hgathers).aside (remark loaded) _ _, hentry hnone⟩
  · cases hrun

end Building

/-- A successful build gathers all that its entry leads to, and nothing else is in the session. -/
theorem gathers_builtSession (tree : FileTree) (entry : Path) (options : BundleOptions)
    (h : Builds tree entry options) :
    ∃ root, (builtSession tree entry options).Rooted tree (canonicalOr tree entry .empty).1 root ∧
      (Session.new options).Gathers true [.module root] (builtSession tree entry options) ∧
      ((builtSession tree entry options).module root).isEntry = true := by
  obtain ⟨root, hrooted, -⟩ := rooted_builtSession tree entry options h
  refine ⟨root, hrooted, ?_⟩
  have hentry := hrooted.entry
  unfold Builds at h
  generalize hrun : (Building.settled tree entry).run (Session.new options) = result at h
  obtain ⟨outcome, after⟩ := result
  cases outcome with
  | error error => exact absurd h nofun
  | ok order =>
    have hbuilt : builtSession tree entry options = after := congrArg Prod.snd hrun
    rw [hbuilt] at hentry ⊢
    unfold Building.settled at hrun
    obtain ⟨_, noted, hnote, hrun⟩ := Building.run_bind_ok hrun
    obtain rfl := (Prod.mk.inj hnote).2
    obtain ⟨id, built, hbuild, hsettle⟩ := Building.run_bind_ok hrun
    obtain rfl := (Prod.mk.inj hsettle).2
    have hstart : (Session.new options).Gathers false [] (Session.new options) :=
      .start (Session.sound_new options) (by simp)
    have hbegin := hstart.aside
      ((Session.new options).note .info ("Bundling " ++ entry)).journal .none 1
    have hroot := (Building.rooted_build tree entry _ hbegin.sound rfl rfl id built hbuild).entry
    obtain rfl : root = id := Option.some.inj (hentry.symm.trans hroot)
    obtain ⟨hgathers, hmarked⟩ :=
      Building.gathers_build tree entry _ hbegin.sound rfl root built hbuild
    exact ⟨(hbegin.trans hgathers).aside _ built.comments built.nextOffset, hmarked⟩

end ScopeHoist
