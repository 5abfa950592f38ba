import ScopeHoist.Proofs.Soundness

/-!
# The execution order is the recursive one

A recursive walk goes through a module behind all that the module depends on, from the first
dependency on. Where dependencies have smaller numbers the walk with a stack finds the same order:
whatever came up and is not done yet has a greater number than all that is put above it. So the
order of a sound session lists different stored modules, and with a module all that it reaches.
-/

set_option autoImplicit false

namespace ScopeHoist

/-! ## The recursive walk -/

/-- Going through modules one after the other leads from one order to another. -/
inductive Visits (dependencies : ModuleId → List ModuleId) :
    List ModuleId → List ModuleId → List ModuleId → Prop
  | nil (order : List ModuleId) : Visits dependencies order [] order
  | seen {order rest result : List ModuleId} {id : ModuleId} (hseen : id ∈ order)
      (hrest : Visits dependencies order rest result) :
    Visits dependencies order (id :: rest) result
  | new {order below rest result : List ModuleId} {id : ModuleId} (hnew : id ∉ order)
      (hbelow : Visits dependencies order (dependencies id) below)
      (hrest : Visits dependencies (below ++ [id]) rest result) :
    Visits dependencies order (id :: rest) result

def Ordered (dependencies : ModuleId → List ModuleId) (order : List ModuleId) : Prop :=
  ∀ front id, front ++ [id] <+: order → ∀ dependency ∈ dependencies id, dependency ∈ front

namespace Visits

variable {dependencies : ModuleId → List ModuleId} {order ids result : List ModuleId}

theorem kept (h : Visits dependencies order ids result) : order ⊆ result := by
  induction h with
  | nil order => exact fun _ hid => hid
  | seen hseen hrest ih => exact ih
  | new hnew hbelow hrest ihbelow ihrest =>
    intro id hid
    exact ihrest (List.mem_append_left _ (ihbelow hid))

theorem listed (h : Visits dependencies order ids result) : ids ⊆ result := by
  induction h with
  | nil order => exact List.nil_subset _
  | seen hseen hrest ih => exact List.cons_subset.mpr ⟨hrest.kept hseen, ih⟩
  | new hnew hbelow hrest ihbelow ihrest =>
    exact List.cons_subset.mpr
      ⟨hrest.kept (List.mem_append_right _ List.mem_cons_self), ihrest⟩

theorem of_seen (h : ids ⊆ order) : Visits dependencies order ids order := by
  induction ids with
  | nil => exact .nil order
  | cons id rest ih =>
    obtain ⟨hid, hrest⟩ := List.cons_subset.mp h
    exact .seen hid (ih hrest)

theorem congr (h : Visits dependencies order ids result)
    {dependencies' : ModuleId → List ModuleId}
    (hsame : ∀ id ∈ result, dependencies' id = dependencies id) :
    Visits dependencies' order ids result := by
  induction h with
  | nil order => exact .nil order
  | seen hseen hrest ih => exact .seen hseen (ih hsame)
  | @new order below rest result id hnew hbelow hrest ihbelow ihrest =>
    have hkept := hrest.kept
    refine .new hnew ?_ (ihrest hsame)
    rw [hsame id (hkept (List.mem_append_right _ List.mem_cons_self))]
    exact ihbelow fun other hother => hsame other (hkept (List.mem_append_left _ hother))

theorem added (h : Visits dependencies order ids result) (id : ModuleId) (hid : id ∈ result) :
    id ∈ order ∨ ∃ root ∈ ids,
      Relation.ReflTransGen (fun first second => second ∈ dependencies first) root id := by
  induction h with
  | nil order => exact .inl hid
  | seen hseen hrest ih =>
    refine (ih hid).imp_right ?_
    rintro ⟨root, hroot, hreaches⟩
    exact ⟨root, List.mem_cons_of_mem _ hroot, hreaches⟩
  | @new order below rest result first hnew hbelow hrest ihbelow ihrest =>
    rcases ihrest hid with hid | ⟨root, hroot, hreaches⟩
    · rcases List.mem_append.mp hid with hid | hid
      · refine (ihbelow hid).imp_right ?_
        rintro ⟨root, hroot, hreaches⟩
        exact ⟨first, List.mem_cons_self, .head hroot hreaches⟩
      · obtain rfl := List.mem_singleton.mp hid
        exact .inr ⟨id, List.mem_cons_self, .refl⟩
    · exact .inr ⟨root, List.mem_cons_of_mem _ hroot, hreaches⟩

theorem unique (h : Visits dependencies order ids result) {result' : List ModuleId}
    (h' : Visits dependencies order ids result') : result' = result := by
  induction h generalizing result' with
  | nil order =>
    cases h'
    rfl
  | seen hseen hrest ih =>
    cases h' with
    | seen _ hrest' => exact ih hrest'
    | new hnew' => exact absurd hseen hnew'
  | new hnew hbelow hrest ihbelow ihrest =>
    cases h' with
    | seen hseen' => exact absurd hseen' hnew
    | new _ hbelow' hrest' =>
      obtain rfl := ihbelow hbelow'
      exact ihrest hrest'

theorem append {mid others : List ModuleId} (h : Visits dependencies order ids mid)
    (h' : Visits dependencies mid others result) :
    Visits dependencies order (ids ++ others) result := by
  induction h with
  | nil order => exact h'
  | seen hseen hrest ih => exact .seen hseen (ih h')
  | new hnew hbelow hrest ihbelow ihrest => exact .new hnew hbelow (ihrest h')

theorem filter (h : Visits dependencies order ids result) (keep : ModuleId → Bool)
    (hkeep : ∀ id ∈ ids, keep id = false → id ∈ order) :
    Visits dependencies order (ids.filter keep) result := by
  induction h with
  | nil order => exact .nil order
  | @seen order rest result id hseen hrest ih =>
    have hrest := ih fun other hother => hkeep other (List.mem_cons_of_mem _ hother)
    rw [List.filter_cons]
    split
    · exact .seen hseen hrest
    · exact hrest
  | @new order below rest result id hnew hbelow hrest ihbelow ihrest =>
    have hid : keep id = true := by
      by_contra hid
      exact hnew (hkeep id List.mem_cons_self (Bool.eq_false_iff.mpr hid))
    rw [List.filter_cons_of_pos hid]
    refine .new hnew hbelow (ihrest fun other hother hout => ?_)
    exact List.mem_append_left _
      (hbelow.kept (hkeep other (List.mem_cons_of_mem _ hother) hout))

theorem eraseDups (h : Visits dependencies order ids result) :
    Visits dependencies order ids.eraseDups result := by
  induction hn : ids.length using Nat.strongRecOn generalizing order ids with
  | _ n ih =>
    subst hn
    cases h with
    | nil => exact .nil _
    | @seen _ rest _ id hseen hrest =>
      have hothers := hrest.filter (fun other => !(other == id)) fun other _ hsame => by
        obtain rfl : other = id := by simpa using hsame
        exact hseen
      rw [List.eraseDups_cons]
      exact .seen hseen (ih _ (Nat.lt_succ_of_le (List.length_filter_le _ _)) hothers rfl)
    | @new _ below rest _ id hnew hbelow hrest =>
      have hothers := hrest.filter (fun other => !(other == id)) fun other _ hsame => by
        obtain rfl : other = id := by simpa using hsame
        exact List.mem_append_right _ List.mem_cons_self
      rw [List.eraseDups_cons]
      exact .new hnew hbelow (ih _ (Nat.lt_succ_of_le (List.length_filter_le _ _)) hothers rfl)

theorem ordered (h : Visits dependencies order ids result) (hordered : Ordered dependencies order) :
    Ordered dependencies result := by
  induction h with
  | nil order => exact hordered
  | seen hseen hrest ih => exact ih hordered
  | new hnew hbelow hrest ihbelow ihrest =>
    refine ihrest fun front other hprefix dependency hdependency => ?_
    rcases List.prefix_concat_iff.mp hprefix with heq | hprefix
    · obtain ⟨rfl, hother⟩ := List.append_inj' heq rfl
      obtain rfl := List.singleton_inj.mp hother
      exact hbelow.listed hdependency
    · exact ihbelow hordered front other hprefix dependency hdependency

theorem getLast?_eq {id : ModuleId} (h : Visits dependencies [] [id] result) :
    result.getLast? = some id := by
  cases h with
  | seen hseen => exact absurd hseen List.not_mem_nil
  | new hnew hbelow hrest =>
    cases hrest
    exact List.getLast?_concat

end Visits

theorem Ordered.closed {dependencies : ModuleId → List ModuleId} {order : List ModuleId}
    (h : Ordered dependencies order) (id : ModuleId) (hid : id ∈ order) (dependency : ModuleId)
    (hdependency : dependency ∈ dependencies id) : dependency ∈ order := by
  obtain ⟨front, back, rfl⟩ := List.append_of_mem hid
  refine List.mem_append_left _ (h front id ?_ dependency hdependency)
  exact ⟨back, by rw [List.append_assoc, List.singleton_append]⟩

section

variable {dependencies : ModuleId → List ModuleId}
  (hsmaller : ∀ id, ∀ dependency ∈ dependencies id, dependency < id)

include hsmaller

theorem le_of_reached (root id : ModuleId)
    (h : Relation.ReflTransGen (fun first second => second ∈ dependencies first) root id) :
    id ≤ root := by
  induction h with
  | refl => exact Nat.le_refl root
  | tail _ hstep ih => exact Nat.le_trans (Nat.le_of_lt (hsmaller _ _ hstep)) ih

theorem Visits.not_mem_below {order below : List ModuleId} {id : ModuleId}
    (h : Visits dependencies order (dependencies id) below) (hnew : id ∉ order) : id ∉ below := by
  intro hid
  rcases h.added id hid with hid | ⟨root, hroot, hreaches⟩
  · exact hnew hid
  · exact Nat.lt_irrefl id
      (Nat.lt_of_le_of_lt (le_of_reached hsmaller root id hreaches) (hsmaller id root hroot))

theorem Visits.nodup {order ids result : List ModuleId}
    (h : Visits dependencies order ids result) (hnodup : order.Nodup) : result.Nodup := by
  induction h with
  | nil order => exact hnodup
  | seen hseen hrest ih => exact ih hnodup
  | new hnew hbelow hrest ihbelow ihrest =>
    apply ihrest
    rw [← List.concat_eq_append]
    exact (ihbelow hnodup).concat (hbelow.not_mem_below hsmaller hnew)

theorem exists_visits (bound : ModuleId) (ids order : List ModuleId)
    (hids : ∀ id ∈ ids, id < bound) : ∃ result, Visits dependencies order ids result := by
  induction bound generalizing ids order with
  | zero =>
    cases ids with
    | nil => exact ⟨order, .nil order⟩
    | cons id rest => exact absurd (hids id List.mem_cons_self) (Nat.not_lt_zero id)
  | succ bound ihbound =>
    induction ids generalizing order with
    | nil => exact ⟨order, .nil order⟩
    | cons id rest ihrest =>
      have hrest : ∀ other ∈ rest, other < bound + 1 := fun other hother =>
        hids other (List.mem_cons_of_mem _ hother)
      by_cases hid : id ∈ order
      · obtain ⟨result, hresult⟩ := ihrest order hrest
        exact ⟨result, .seen hid hresult⟩
      · obtain ⟨below, hbelow⟩ := ihbound (dependencies id) order fun dependency hdependency =>
          Nat.lt_of_lt_of_le (hsmaller id dependency hdependency)
            (Nat.le_of_lt_succ (hids id List.mem_cons_self))
        obtain ⟨result, hresult⟩ := ihrest (below ++ [id]) hrest
        exact ⟨result, .new hid hbelow hresult⟩

end

/-! ## The walk with a stack -/

namespace Walk

variable (neighbours : ModuleId → List ModuleId)

theorem run_add (first second : Nat) (walk : Walk) :
    run neighbours (first + second) walk = run neighbours second (run neighbours first walk) := by
  induction first generalizing walk with
  | zero => rw [Nat.zero_add, run]
  | succ first ih => rw [Nat.succ_add, run, ih, run]

theorem run_of_stack_eq_nil (steps : Nat) (walk : Walk) (h : walk.stack = []) :
    run neighbours steps walk = walk := by
  induction steps with
  | zero => rfl
  | succ steps ih =>
    have hstep : walk.step neighbours = walk := by
      unfold step
      rw [h]
    rw [run, hstep, ih]

theorem foldl_push (met ids stack : List ModuleId) :
    ids.foldl (push met) stack = (ids.filter fun id => !met.contains id).reverse ++ stack := by
  induction ids generalizing stack with
  | nil => rfl
  | cons id rest ih =>
    rw [List.foldl_cons, ih, push]
    cases hid : met.contains id with
    | true => rw [if_pos rfl, List.filter_cons_of_neg (by rw [hid]; exact Bool.false_ne_true)]
    | false =>
      rw [if_neg Bool.false_ne_true, List.filter_cons_of_pos (by rw [hid]; rfl), List.reverse_cons,
        List.append_assoc, List.singleton_append]

theorem step_met {id : ModuleId} {rest met done : List ModuleId} (h : id ∈ met) :
    step neighbours ⟨id :: rest, met, done⟩ = ⟨rest, met, addNew done id⟩ := by
  exact if_pos (List.contains_iff_mem.mpr h)

theorem step_new {id : ModuleId} {rest met done : List ModuleId} (h : id ∉ met) :
    step neighbours ⟨id :: rest, met, done⟩ =
      ⟨((neighbours id).filter fun other => !(id :: met).contains other).reverse ++ id :: rest,
        id :: met, done⟩ := by
  rw [← foldl_push]
  exact if_neg (mt List.contains_iff_mem.mp h)

/-! ### Steps that are left -/

/-- The steps that modules of a list can still cause: one to meet each, and one to take each of
what is put on the stack for it off again. -/
def ahead (met ids : List ModuleId) : Nat :=
  ((ids.filter fun id => !met.contains id).flatMap fun id => id :: neighbours id).length

theorem ahead_of_met (met ids : List ModuleId) (id : ModuleId) (h : id ∉ ids) :
    ahead neighbours (id :: met) ids = ahead neighbours met ids := by
  unfold ahead
  congr 2
  apply List.filter_congr
  intro other hother
  have hne : other ≠ id := fun heq => h (heq ▸ hother)
  simp [hne]

theorem ahead_cons (met ids : List ModuleId) (hnodup : ids.Nodup) (id : ModuleId)
    (hid : id ∈ ids) (hnew : id ∉ met) :
    ahead neighbours (id :: met) ids + ((neighbours id).length + 1) = ahead neighbours met ids := by
  induction ids with
  | nil => exact absurd hid List.not_mem_nil
  | cons first rest ih =>
    obtain ⟨hfirst, hrest⟩ := List.nodup_cons.mp hnodup
    have hsplit : ∀ met, ahead neighbours met (first :: rest) =
        (if met.contains first then 0 else (neighbours first).length + 1) +
          ahead neighbours met rest := by
      intro met
      unfold ahead
      by_cases hfirst : first ∈ met
      · simp [hfirst]
      · rw [List.filter_cons_of_pos (by simp [hfirst]), List.flatMap_cons, List.length_append,
          List.length_cons, if_neg (by simp [hfirst])]
    rcases List.mem_cons.mp hid with rfl | hid
    · rw [hsplit, hsplit, ahead_of_met neighbours met rest id hfirst,
        if_pos (List.contains_iff_mem.mpr List.mem_cons_self),
        if_neg (mt List.contains_iff_mem.mp hnew), Nat.zero_add, Nat.add_comm]
    · have hne : first ≠ id := fun heq => hfirst (heq ▸ hid)
      have hsame : (id :: met).contains first = met.contains first := by simp [hne]
      rw [hsplit, hsplit, hsame, Nat.add_assoc, ih hrest hid]

theorem stack_run (ids : List ModuleId) (hnodup : ids.Nodup)
    (hneighbours : ∀ id, ∀ other ∈ neighbours id, other ∈ ids) (steps : Nat) (walk : Walk)
    (hstack : ∀ id ∈ walk.stack, id ∈ ids)
    (hsteps : walk.stack.length + ahead neighbours walk.met ids ≤ steps) :
    (run neighbours steps walk).stack = [] := by
  induction steps generalizing walk with
  | zero =>
    apply List.length_eq_zero_iff.mp
    exact Nat.eq_zero_of_le_zero (Nat.le_trans (Nat.le_add_right _ _) hsteps)
  | succ steps ih =>
    obtain ⟨stack, met, done⟩ := walk
    cases stack with
    | nil => rw [run_of_stack_eq_nil neighbours _ _ rfl]
    | cons id rest =>
      have hid := hstack id List.mem_cons_self
      have hrest : ∀ other ∈ rest, other ∈ ids := fun other hother =>
        hstack other (List.mem_cons_of_mem _ hother)
      simp only [List.length_cons] at hsteps
      rw [run]
      by_cases hmet : id ∈ met
      · rw [step_met neighbours hmet]
        exact ih _ hrest (by dsimp only at hsteps ⊢; omega)
      · rw [step_new neighbours hmet]
        apply ih
        · intro other hother
          rcases List.mem_append.mp hother with hother | hother
          · exact hneighbours id other (List.mem_of_mem_filter (List.mem_reverse.mp hother))
          · exact hstack other hother
        · have hshare := ahead_cons neighbours met ids hnodup id hid hmet
          have hfiltered := List.length_filter_le (fun other => !(id :: met).contains other)
            (neighbours id)
          simp only [List.length_append, List.length_reverse, List.length_cons]
          omega

end Walk

/-! ### Both walks -/

/-- What came up and is not done yet comes behind all that is to be visited. -/
def Behind (order met ids : List ModuleId) : Prop :=
  ∀ other ∈ met, other ∉ order → ∀ id ∈ ids, id < other

section

variable {dependencies : ModuleId → List ModuleId}
  (hsmaller : ∀ id, ∀ dependency ∈ dependencies id, dependency < id)
  {order met others : List ModuleId} {id : ModuleId} (h : Behind order met (id :: others))
include h

theorem Behind.not_met (hnew : id ∉ order) : id ∉ met :=
  fun hin => Nat.lt_irrefl id (h id hin hnew id List.mem_cons_self)

theorem Behind.tail : Behind order met others := fun other hother hnot id hid =>
  h other hother hnot id (List.mem_cons_of_mem _ hid)

theorem Behind.rest {below met₁ : List ModuleId}
    (hsame : ∀ other ∈ met₁, other ∉ below → other ∈ id :: met ∧ other ∉ order) :
    Behind (below ++ [id]) met₁ others := fun other hother hnot => by
  rw [List.mem_append, List.mem_singleton, not_or] at hnot
  obtain ⟨hin, hout⟩ := hsame other hother hnot.1
  exact h.tail other (List.mem_of_ne_of_mem hnot.2 hin) hout

include hsmaller

theorem Behind.done_of_met (dependency : ModuleId) (hdependency : dependency ∈ dependencies id)
    (hin : dependency ∈ id :: met) : dependency ∈ order := by
  have hlt := hsmaller id dependency hdependency
  by_contra hnot
  rcases List.mem_cons.mp hin with rfl | hin
  · exact Nat.lt_irrefl _ hlt
  · exact Nat.lt_asymm hlt (h dependency hin hnot id List.mem_cons_self)

theorem Behind.below : Behind order (id :: met) (dependencies id) :=
  fun other hother hnot dependency hdependency => by
    have hlt := hsmaller id dependency hdependency
    rcases List.mem_cons.mp hother with rfl | hother
    · exact hlt
    · exact Nat.lt_trans hlt (h other hother hnot id List.mem_cons_self)

end

/-- A module that did not come up yet is taken off as done once all that it puts on the stack is
gone through. -/
theorem Walk.run_new (dependencies : ModuleId → List ModuleId) {id : ModuleId} {steps : Nat}
    {rest met met₁ order below : List ModuleId} (hunmet : id ∉ met) (hmet : id ∈ met₁)
    (hnew : id ∉ below)
    (hbelow : Walk.run (fun id => (dependencies id).reverse) steps
      ⟨((dependencies id).filter fun dependency => !(id :: met).contains dependency) ++ id :: rest,
        id :: met, order⟩ = ⟨id :: rest, met₁, below⟩) :
    Walk.run (fun id => (dependencies id).reverse) (1 + (steps + 1)) ⟨id :: rest, met, order⟩ =
      ⟨rest, met₁, below ++ [id]⟩ := by
  have hput : Walk.run (fun id => (dependencies id).reverse) 1 ⟨id :: rest, met, order⟩ =
      ⟨((dependencies id).filter fun dependency => !(id :: met).contains dependency) ++ id :: rest,
        id :: met, order⟩ := by
    rw [Walk.run, Walk.run, Walk.step_new _ hunmet, List.filter_reverse, List.reverse_reverse]
  have htake : Walk.run (fun id => (dependencies id).reverse) 1 ⟨id :: rest, met₁, below⟩ =
      ⟨rest, met₁, below ++ [id]⟩ := by
    rw [Walk.run, Walk.run, Walk.step_met _ hmet, addNew, if_neg (mt List.contains_iff_mem.mp hnew)]
  rw [Walk.run_add, hput, Walk.run_add, hbelow, htake]

/-- From a stack with the modules that a recursive walk goes through on top, the walk with a stack
takes them off and ends up with the same order. Some that are done already may be left out. What
came up and is not done stays the same. -/
theorem Visits.run {dependencies : ModuleId → List ModuleId}
    (hsmaller : ∀ id, ∀ dependency ∈ dependencies id, dependency < id)
    {order ids result : List ModuleId} (h : Visits dependencies order ids result)
    (keep : ModuleId → Bool) (hkeep : ∀ id ∈ ids, keep id = false → id ∈ order)
    (rest met : List ModuleId) (hmet : order ⊆ met) (hbehind : Behind order met ids) :
    ∃ steps met', Walk.run (fun id => (dependencies id).reverse) steps
        ⟨ids.filter keep ++ rest, met, order⟩ = ⟨rest, met', result⟩ ∧
      result ⊆ met' ∧ met ⊆ met' ∧
        ∀ other ∈ met', other ∉ result → other ∈ met ∧ other ∉ order := by
  induction h generalizing keep rest met with
  | nil order => exact ⟨0, met, rfl, hmet, List.Subset.refl _, fun _ hother hnot => ⟨hother, hnot⟩⟩
  | @seen order others result id hseen hothers ih =>
    obtain ⟨steps, met', hrun, hresult, hkept, hsame⟩ := ih keep
      (fun other hother => hkeep other (List.mem_cons_of_mem _ hother)) rest met hmet hbehind.tail
    cases hid : keep id with
    | true =>
      refine ⟨steps + 1, met', ?_, hresult, hkept, hsame⟩
      rw [List.filter_cons_of_pos hid, List.cons_append, Walk.run, Walk.step_met _ (hmet hseen),
        addNew, if_pos (List.contains_iff_mem.mpr hseen), hrun]
    | false =>
      refine ⟨steps, met', ?_, hresult, hkept, hsame⟩
      rw [List.filter_cons_of_neg (by simp [hid]), hrun]
  | @new order below others result id hnew hbelow hothers ihbelow ihothers =>
    have hid : keep id = true := by
      by_contra hid
      exact hnew (hkeep id List.mem_cons_self (Bool.eq_false_iff.mpr hid))
    obtain ⟨first, met₁, hfirst, hbelow₁, hkept₁, hsame₁⟩ := ihbelow
      (fun dependency => !(id :: met).contains dependency)
      (fun dependency hdependency hin => hbehind.done_of_met hsmaller dependency hdependency
        (List.contains_iff_mem.mp (Bool.not_eq_eq_eq_not.mp hin)))
      (id :: (others.filter keep ++ rest)) (id :: met)
      (fun other hother => List.mem_cons_of_mem _ (hmet hother)) (hbehind.below hsmaller)
    have hmet₁ : id ∈ met₁ := hkept₁ List.mem_cons_self
    obtain ⟨last, met', hlast, hresult, hkept, hsame⟩ := ihothers keep
      (fun other hother hout => List.mem_append_left _
        (hbelow.kept (hkeep other (List.mem_cons_of_mem _ hother) hout))) rest met₁
      (List.append_subset.mpr ⟨hbelow₁, List.cons_subset.mpr ⟨hmet₁, List.nil_subset _⟩⟩)
      (hbehind.rest hsame₁)
    refine ⟨1 + (first + 1) + last, met', ?_, hresult,
      fun other hother => hkept (hkept₁ (List.mem_cons_of_mem _ hother)),
      fun other hother hnot => ?_⟩
    · rw [List.filter_cons_of_pos hid, List.cons_append, Walk.run_add, Walk.run_new dependencies
        (hbehind.not_met hnew) hmet₁ (hbelow.not_mem_below hsmaller hnew) hfirst, hlast]
    · obtain ⟨hin, hout⟩ := hsame other hother hnot
      rw [List.mem_append, List.mem_singleton, not_or] at hout
      obtain ⟨hin, hout'⟩ := hsame₁ other hin hout.1
      exact ⟨List.mem_of_ne_of_mem hout.2 hin, hout'⟩

namespace Session

theorem Sound.dependencies_lt {session : Session} (h : session.Sound) (id : ModuleId)
    (dependency : ModuleId) (hdependency : dependency ∈ (session.module id).moduleDependencies) :
    dependency < id := by
  by_cases hid : id < session.modules.length
  · have := (h.modules id hid).dependencies dependency hdependency
    rwa [h.id_eq id hid] at this
  · exact absurd hdependency
      (not_mem_dependencies_of_length_le session id (Nat.le_of_not_lt hid) dependency)

/-- The order of a sound session is the one that the recursive walk from its entry finds. -/
theorem Sound.visits_executionOrder {session : Session} (h : session.Sound) (entry : ModuleId)
    (hentry : session.entry = some entry) :
    Visits (fun id => (session.module id).moduleDependencies) [] [entry]
      session.executionOrder := by
  have hvalid := h.entry entry hentry
  obtain ⟨order, horder⟩ := exists_visits h.dependencies_lt (entry + 1) [entry] [] (by simp)
  obtain ⟨steps, met, hrun, -⟩ := horder.run h.dependencies_lt (fun _ => true) (by simp) [] []
    (List.nil_subset _) (fun _ hother => absurd hother List.not_mem_nil)
  have hrun : Walk.run session.neighbours steps (.start entry) = ⟨[], met, order⟩ := hrun
  have hstack : (Walk.run session.neighbours session.walkLength (.start entry)).stack = [] := by
    apply Walk.stack_run session.neighbours (List.range session.modules.length) List.nodup_range
    · intro id dependency hdependency
      have hdependency := List.mem_reverse.mp hdependency
      have hlt := h.dependencies_lt id dependency hdependency
      by_cases hid : id < session.modules.length
      · exact List.mem_range.mpr (Nat.lt_trans hlt hid)
      · exact absurd hdependency
          (not_mem_dependencies_of_length_le session id (Nat.le_of_not_lt hid) dependency)
    · intro id hid
      obtain rfl := List.mem_singleton.mp hid
      exact List.mem_range.mpr hvalid
    · unfold Walk.start Walk.ahead walkLength
      simp [Nat.add_comm]
  -- both numbers of steps are enough, so it makes no difference which one is taken
  have hsame : Walk.run session.neighbours session.walkLength (.start entry) =
      ⟨[], met, order⟩ := by
    calc Walk.run session.neighbours session.walkLength (.start entry)
        = Walk.run session.neighbours (session.walkLength + steps) (.start entry) := by
          rw [Walk.run_add, Walk.run_of_stack_eq_nil _ _ _ hstack]
      _ = ⟨[], met, order⟩ := by
          rw [Nat.add_comm, Walk.run_add, hrun, Walk.run_of_stack_eq_nil _ _ _ rfl]
  have hfound : session.executionOrder = order := by
    rw [executionOrder, hentry]
    exact congrArg Walk.done hsame
  rwa [hfound]

/-- What is known of the execution order of a sound session. -/
structure OrderedBy (session : Session) (order : List ModuleId) : Prop where
  nodup : order.Nodup
  valid : ∀ id ∈ order, id < session.modules.length
  reached : ∀ id ∈ order, ∀ other, session.Reaches id other → other ∈ order

theorem Sound.orderedBy {session : Session} (h : session.Sound) :
    session.OrderedBy session.executionOrder := by
  cases hentry : session.entry with
  | none =>
    have hnone : session.executionOrder = [] := by rw [executionOrder, hentry]
    rw [hnone]
    exact ⟨List.nodup_nil, by simp, by simp⟩
  | some entry =>
    have hvisits := h.visits_executionOrder entry hentry
    have hclosed := (hvisits.ordered (by simp [Ordered])).closed
    constructor
    · exact hvisits.nodup h.dependencies_lt List.nodup_nil
    · intro id hid
      rcases hvisits.added id hid with hid | ⟨root, hroot, hreaches⟩
      · exact absurd hid List.not_mem_nil
      · obtain rfl := List.mem_singleton.mp hroot
        exact Nat.lt_of_le_of_lt (le_of_reached h.dependencies_lt root id hreaches)
          (h.entry root hentry)
    · intro id hid other hreaches
      induction hreaches with
      | refl => exact hid
      | tail _ hstep ih => exact hclosed _ ih _ hstep

theorem Sound.mem_executionOrder {session : Session} (h : session.Sound) (entry : ModuleId)
    (hentry : session.entry = some entry) (id : ModuleId) (hreaches : session.Reaches entry id) :
    id ∈ session.executionOrder :=
  h.orderedBy.reached entry ((h.visits_executionOrder entry hentry).listed List.mem_cons_self) id
    hreaches

end Session

end ScopeHoist
