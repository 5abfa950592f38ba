import ScopeHoist.Proofs.Respelling

/-!
# What naming one thing comes to

A declaration that is left, and a value that has no name yet, get what is claimed for them. A record
of a declaration is called like the declaration, and all else is passed over. So what a naming keeps
is known case by case.
-/

set_option autoImplicit false

namespace ScopeHoist

def Naming.claimed (naming : Naming) (base : String) : Naming :=
  { naming with
    pool := (naming.pool.claim base).2
    renamed := if naming.pool.choose base == base then naming.renamed else naming.renamed + 1 }

def Naming.marked (naming : Naming) (id : RecordId) : Naming :=
  { naming with named := id :: naming.named }

namespace InNaming

open Session

/-! ## Runs of a naming -/

/-- From states with some property, an action leads to a result and a state with another. -/
def Yields {α : Type} (pre : Naming → Session → Prop) (action : InNaming α)
    (post : α → Naming → Session → Prop) : Prop :=
  ∀ naming session, pre naming session →
    post ((action.run naming).run session).1.1 ((action.run naming).run session).1.2
      ((action.run naming).run session).2

section

variable {α β : Type} {pre : Naming → Session → Prop}

theorem yields_weaken {action : InNaming α} {pre' : Naming → Session → Prop}
    {post post' : α → Naming → Session → Prop} (h : Yields pre action post)
    (hpre : ∀ naming session, pre' naming session → pre naming session)
    (hpost : ∀ value naming session, post value naming session → post' value naming session) :
    Yields pre' action post' := fun naming session hp =>
  hpost _ _ _ (h naming session (hpre naming session hp))

theorem yields_pure {value : α} {post : α → Naming → Session → Prop}
    (h : ∀ naming session, pre naming session → post value naming session) :
    Yields pre (pure value) post := h

theorem yields_bind {action : InNaming α} {next : α → InNaming β}
    {mid : α → Naming → Session → Prop} {post : β → Naming → Session → Prop}
    (h : Yields pre action mid) (h' : ∀ value, Yields (mid value) (next value) post) :
    Yields pre (action >>= next) post := fun naming session hpre =>
  h' _ _ _ (h naming session hpre)

theorem yields_getSession {next : Session → InNaming β} {post : β → Naming → Session → Prop}
    (h : ∀ current, Yields (fun naming session => session = current ∧ pre naming session)
      (next current) post) :
    Yields pre (getThe Session >>= next) post := fun naming session hpre =>
  h session naming session ⟨rfl, hpre⟩

theorem yields_get {next : Naming → InNaming β} {post : β → Naming → Session → Prop}
    (h : ∀ current, Yields (fun naming session => naming = current ∧ pre naming session)
      (next current) post) :
    Yields pre (get >>= next) post := fun naming session hpre =>
  h naming naming session ⟨rfl, hpre⟩

theorem yields_state {action : InNaming α} {post : α → Naming → Session → Prop}
    {naming : Naming} {session : Session} (h : Yields pre action post)
    (hpre : pre naming session) :
    Yields (fun naming' session' => naming' = naming ∧ session' = session) action post := by
  rintro _ _ ⟨rfl, rfl⟩
  exact h _ _ hpre

theorem yields_forM (after : List α → Naming → Session → Prop) (action : α → InNaming Unit)
    (values : List α)
    (h : ∀ done value rest, values = done ++ value :: rest →
      Yields (after done) (action value) fun _ => after (done ++ [value])) :
    Yields (after []) (values.forM action) fun _ => after values := by
  have hrest : ∀ rest done, values = done ++ rest →
      Yields (after done) (rest.forM action) fun _ => after values := by
    intro rest
    induction rest with
    | nil =>
      intro done heq
      rw [heq, List.append_nil]
      exact yields_pure fun _ _ hdone => hdone
    | cons value rest ih =>
      intro done heq
      exact yields_bind (h done value rest heq) fun _ => ih (done ++ [value]) (by simpa using heq)
  exact hrest values [] rfl

end

/-! ## Names for one thing -/

/-- What does not depend on the journal. -/
def Unnoted (property : Naming → Session → Prop) : Prop :=
  ∀ naming (session : Session) level text, property naming session →
    property naming (session.note level text)

section

variable {pre post : Naming → Session → Prop}

/-- A name is claimed, a remark is made if it is another one, and the name is given. -/
theorem yields_rename (hnote : Unnoted pre) {base : String} {text : String → String}
    {change : String → Session → Session}
    (h : ∀ naming session, pre naming session →
      post (naming.claimed base) (change (naming.pool.choose base) session)) :
    Yields pre (do
      let name ← claim base
      if name != base then remark (text name)
      modifyThe Session (change name)) fun _ => post := by
  intro naming session hpre
  have hrun : ∀ asked : Bool, Yields (fun naming' session' => naming' = naming.claimed base ∧
      pre naming session')
      (if asked = true then do
        remark (text (naming.pool.choose base))
        modifyThe Session (change (naming.pool.choose base))
      else modifyThe Session (change (naming.pool.choose base))) fun _ => post := by
    rintro (_ | _) _ session' ⟨rfl, hpre⟩
    · exact h naming session' hpre
    · exact h naming _ (hnote naming session' _ _ hpre)
  exact hrun _ _ session ⟨rfl, hpre⟩

theorem yields_nameBinding (hnote : Unnoted pre) (path : Path) (id : BindingId)
    (hgone : ∀ naming session, pre naming session → ¬ session.Alive id → post naming session)
    (hnamed : ∀ naming session binding, pre naming session →
      session.bindings[id]? = some binding → binding.removed = false →
        post (naming.claimed binding.declaration.name)
          (session.give (naming.pool.choose binding.declaration.name) (.binding id))) :
    Yields pre (nameBinding path id) fun _ => post := by
  unfold nameBinding
  refine yields_getSession fun current => ?_
  rintro naming session ⟨rfl, hpre⟩
  cases hfound : session.bindings[id]? with
  | none =>
    refine hgone naming session hpre ?_
    rintro ⟨binding, hbinding, -⟩
    exact absurd (hfound.symm.trans hbinding) nofun
  | some binding =>
    dsimp only
    cases hremoved : binding.removed with
    | true =>
      refine hgone naming session hpre ?_
      rintro ⟨found, hbinding, hkept⟩
      obtain rfl := Option.some.inj (hfound.symm.trans hbinding)
      exact absurd (hkept.symm.trans hremoved) nofun
    | false =>
      -- remarks leave the declaration as it was read
      have hread : Unnoted fun naming session =>
          pre naming session ∧ session.bindings[id]? = some binding :=
        fun naming session level text h => ⟨hnote naming session level text h.1, h.2⟩
      exact yields_rename hread (fun naming session h =>
        hnamed naming session binding h.1 h.2 hremoved) naming session ⟨hpre, hfound⟩

theorem yields_nameValue (hnote : Unnoted pre) (id : RecordId) (current : String)
    (hknown : ∀ naming session, pre naming session → id ∈ naming.named → post naming session)
    (hnamed : ∀ naming session, pre naming session → id ∉ naming.named →
      post ((naming.marked id).claimed (stem current))
        (session.give (naming.pool.choose (stem current)) (.value id))) :
    Yields pre (nameValue id current) fun _ => post := by
  unfold nameValue
  refine yields_get fun before => ?_
  split
  · rename_i hmem
    exact yields_pure fun naming session ⟨hcurrent, hpre⟩ =>
      hknown naming session hpre (by simpa [hcurrent] using hmem)
  · rename_i hnew
    have hmarked : Yields (fun naming session => naming = before ∧ pre naming session)
        (modify fun naming => naming.marked id) fun _ naming session =>
          naming = before.marked id ∧ pre before session := by
      rintro naming session ⟨rfl, hpre⟩
      exact ⟨rfl, hpre⟩
    refine yields_bind hmarked fun _ => yields_rename (fun naming session level text h =>
      ⟨h.1, hnote before session level text h.2⟩) ?_
    rintro _ session ⟨rfl, hpre⟩
    exact hnamed before session hpre (by simpa using hnew)

/-- A record is missing, or of a declaration, or its value is of the module or of another one. -/
theorem yields_nameExport (module : ModuleId) (id : RecordId)
    (hmissing : ∀ naming session, pre naming session → session.records[id]? = none →
      post naming session)
    (howned : ∀ naming session record owner, pre naming session →
      session.records[id]? = some record → record.owner = some owner →
        post naming (session.give (session.nameOf (.binding owner)) (.value id)))
    (hforeign : ∀ naming session record, pre naming session →
      session.records[id]? = some record → record.owner = none →
        record.source ≠ .module module → post naming session)
    (hvalue : ∀ naming session record, pre naming session →
      session.records[id]? = some record → record.owner = none → record.source = .module module →
        Yields (fun naming' session' => naming' = naming ∧ session' = session)
          (nameValue id record.identifier) fun _ => post) :
    Yields pre (nameExport module id) fun _ => post := by
  unfold nameExport
  refine yields_getSession fun current => ?_
  rintro naming session ⟨rfl, hpre⟩
  cases hfound : session.records[id]? with
  | none => exact hmissing naming session hpre hfound
  | some record =>
    dsimp only
    cases howner : record.owner with
    | some owner => exact howned naming session record owner hpre hfound howner
    | none =>
      dsimp only
      split
      · rename_i hsource
        exact hvalue naming session record hpre hfound howner (by simpa using hsource) _ _
          ⟨rfl, rfl⟩
      · rename_i hsource
        exact hforeign naming session record hpre hfound howner (by simpa using hsource)

theorem yields_nameExternal (id : RecordId)
    (hmissing : ∀ naming session, pre naming session → session.records[id]? = none →
      post naming session)
    (hvalue : ∀ naming session record, pre naming session →
      session.records[id]? = some record →
        Yields (fun naming' session' => naming' = naming ∧ session' = session)
          (nameValue id record.identifier) fun _ => post) :
    Yields pre (nameExternal id) fun _ => post := by
  unfold nameExternal
  refine yields_getSession fun current => ?_
  rintro naming session ⟨rfl, hpre⟩
  cases hfound : session.records[id]? with
  | none => exact hmissing naming session hpre hfound
  | some record => exact hvalue naming session record hpre hfound _ _ ⟨rfl, rfl⟩

/-! ## Names for all -/

theorem yields_nameModule {mid : Naming → Session → Prop} (id : ModuleId) (module : Module)
    (hmodule : ∀ naming session, pre naming session → session.module id = module)
    (hbindings : Yields pre (module.bindings.forM (nameBinding module.path)) fun _ => mid)
    (hexports : Yields mid ((module.exports.values ++ module.unnamedDefault.toList).forM
      (nameExport id)) fun _ => post) : Yields pre (nameModule id) fun _ => post := by
  unfold nameModule
  refine yields_getSession fun current => ?_
  rintro naming session ⟨rfl, hpre⟩
  rw [hmodule naming session hpre]
  exact yields_bind hbindings (fun _ => hexports) naming session hpre

theorem yields_assignNames {mid : Naming → Session → Prop} (session : Session)
    (order : List ModuleId) (hpre : pre ⟨⟨session.reservedNames order⟩, [], 0⟩ session)
    (hmodules : Yields pre (order.forM nameModule) fun _ => mid)
    (hexternals : Yields mid ((session.externals.flatMap fun external =>
      external.exports.values).forM nameExternal) fun _ => post) (hnote : Unnoted post) :
    ∃ naming, post naming ((InSession.assignNames order).run session).2 :=
  ⟨_, hnote _ _ .info _ (yields_bind hmodules (fun _ => hexternals) _ session hpre)⟩

end

end InNaming

end ScopeHoist
