import ScopeHoist.Proofs.Leaner
import ScopeHoist.Proofs.NamespaceObjects

/-!
# Shaking saves text, but for names

The session of a run that shakes is leaner than that of the same run without. So where no comments
are printed, a shaken bundle can only be the longer one through its names: one that is longer, or
one that a clause or a property has to be written out for.
-/

set_option autoImplicit false

namespace ScopeHoist

/-! ## What no run changes after the graph is built -/

namespace Session

/-- Sessions that print alike. -/
structure PrintsLike (before after : Session) : Prop where
  comments : after.comments = before.comments
  options : after.options = before.options

theorem PrintsLike.refl (session : Session) : session.PrintsLike session := ⟨rfl, rfl⟩

theorem PrintsLike.trans {first second third : Session} (h : first.PrintsLike second)
    (h' : second.PrintsLike third) : first.PrintsLike third :=
  ⟨h'.comments.trans h.comments, h'.options.trans h.options⟩

theorem printsLike_foldl {α : Type} (step : Session → α → Session)
    (hstep : ∀ (session : Session) value, session.PrintsLike (step session value)) (values : List α)
    (session : Session) : session.PrintsLike (values.foldl step session) := by
  induction values generalizing session with
  | nil => exact .refl session
  | cons first rest ih => exact (hstep session first).trans (ih _)

theorem printsLike_relieve (session : Session) (idle : List BindingId) (unused : List RecordId)
    (count : Nat) : session.PrintsLike (session.relieve idle unused count) := by
  have hremove : ∀ (session : Session) (id : ModuleId),
      session.PrintsLike (session.removeIdle idle id) := by
    intro session id
    have hmarked := printsLike_foldl (fun (session : Session) id => session.markRemoved id)
      (fun _ _ => ⟨rfl, rfl⟩) (session.removal idle id) (session.setModule id fun module =>
        { module with
          program := module.program.relieved (session.idleIdentities idle (session.module id)) })
    exact ⟨hmarked.comments, hmarked.options⟩
  have hrelieved := printsLike_foldl (fun (session : Session) id => session.removeIdle idle id)
    hremove (List.range count) (session.withoutRecords unused)
  exact ⟨hrelieved.comments, hrelieved.options⟩

theorem printsLike_shakeIfAsked (session : Session) :
    session.PrintsLike ((InSession.shakeIfAsked).run session).2 := by
  cases htreeshake : session.options.treeshake with
  | true =>
    have hsilent := session.silent_shakeIfAsked htreeshake
    have hlike := session.silent.printsLike_relieve (session.verdict.idle.map Prod.fst)
      session.verdict.unused session.silent.modules.length
    rw [← hsilent] at hlike
    exact ⟨hlike.comments, hlike.options⟩
  | false =>
    rw [session.shakeIfAsked_of_not htreeshake]
    exact ⟨rfl, rfl⟩

end Session

namespace InNaming

open Session

variable {start : Session}

def OnlyNames (start : Session) (action : InNaming Unit) : Prop :=
  Yields (fun _ session => start.PrintsLike session) action fun _ _ session =>
    start.PrintsLike session

theorem unnoted_printsLike : Unnoted fun _ session => start.PrintsLike session :=
  fun _ _ _ _ hlike => hlike.trans ⟨rfl, rfl⟩

theorem onlyNames_forM {α : Type} (action : α → InNaming Unit) (values : List α)
    (h : ∀ value, OnlyNames start (action value)) : OnlyNames start (values.forM action) :=
  yields_forM (fun _ _ session => start.PrintsLike session) action values fun _ value _ _ =>
    h value

theorem onlyNames_nameBinding (path : Path) (id : BindingId) :
    OnlyNames start (nameBinding path id) :=
  yields_nameBinding unnoted_printsLike path id (fun _ _ hlike _ => hlike)
    fun _ _ _ hlike _ _ => hlike.trans ⟨rfl, rfl⟩

theorem onlyNames_nameValue (id : RecordId) (current : String) :
    OnlyNames start (nameValue id current) :=
  yields_nameValue unnoted_printsLike id current (fun _ _ hlike _ => hlike)
    fun _ _ hlike _ => hlike.trans ⟨rfl, rfl⟩

theorem onlyNames_nameExport (module : ModuleId) (id : RecordId) :
    OnlyNames start (nameExport module id) := by
  apply yields_nameExport
  case hmissing => exact fun _ _ hlike _ => hlike
  case howned => exact fun _ _ _ _ hlike _ _ => hlike.trans ⟨rfl, rfl⟩
  case hforeign => exact fun _ _ _ hlike _ _ _ => hlike
  case hvalue =>
    exact fun _ _ record hlike _ _ _ =>
      yields_state (onlyNames_nameValue id record.identifier) hlike

theorem onlyNames_nameExternal (id : RecordId) : OnlyNames start (nameExternal id) :=
  yields_nameExternal id (fun _ _ hlike _ => hlike) fun _ _ record hlike _ =>
    yields_state (onlyNames_nameValue id record.identifier) hlike

theorem onlyNames_nameModule (id : ModuleId) : OnlyNames start (nameModule id) := by
  intro naming session hlike
  have hbindings : Yields (fun _ session' => session' = session ∧ start.PrintsLike session')
      ((session.module id).bindings.forM (nameBinding (session.module id).path))
      fun _ _ session => start.PrintsLike session :=
    yields_weaken (onlyNames_forM _ _ fun binding => onlyNames_nameBinding _ binding)
      (fun _ _ h => h.2) fun _ _ _ h => h
  exact yields_nameModule id (session.module id) (by rintro _ _ ⟨rfl, -⟩; rfl) hbindings
    (onlyNames_forM _ _ fun record => onlyNames_nameExport id record) naming session ⟨rfl, hlike⟩

end InNaming

theorem Session.printsLike_assignNames (session : Session) (order : List ModuleId) :
    session.PrintsLike ((InSession.assignNames order).run session).2 := by
  obtain ⟨naming, hlike⟩ := InNaming.yields_assignNames session order (.refl session)
    (InNaming.onlyNames_forM _ order InNaming.onlyNames_nameModule)
    (InNaming.onlyNames_forM _ _ InNaming.onlyNames_nameExternal) InNaming.unnoted_printsLike
  exact hlike

namespace Session

/-- Shaking leaves a module some of the externals that it exports whole, and the entry all. -/
theorem stars_left (session : Session) (id : ModuleId) (hid : id < session.modules.length) :
    (((InSession.shakeIfAsked).run session).2.module id).stars.Sublist (session.module id).stars ∧
      ((session.module id).isEntry = true →
        (((InSession.shakeIfAsked).run session).2.module id).stars =
          (session.module id).stars) := by
  cases htreeshake : session.options.treeshake with
  | true =>
    have hsub := session.silent.stars_relieve_sublist (session.verdict.idle.map Prod.fst)
      session.verdict.unused id hid
    have hsame := session.silent.stars_relieve_entry (session.verdict.idle.map Prod.fst)
      session.verdict.unused id hid
    rw [← session.silent_shakeIfAsked htreeshake] at hsub hsame
    exact ⟨hsub, hsame⟩
  | false =>
    rw [session.shakeIfAsked_of_not htreeshake]
    exact ⟨.refl _, fun _ => rfl⟩

variable {built shaken lean whole : Session} {idle : List BindingId} {unused : List RecordId}

theorem Shaken.externals_eq (h : built.Shaken idle unused shaken) :
    shaken.externals = built.externals.map (External.withoutRecords unused) := by
  refine List.ext_getElem (by simpa using h.externals_length) fun i hi hi' => ?_
  have hvalid : i < built.externals.length := by simpa using hi'
  have hexternal := h.external i hvalid
  rw [shaken.external_getElem i hi, built.external_getElem i hvalid] at hexternal
  rw [hexternal, List.getElem_map]
  rfl

theorem Shaken.get?_external (h : built.Shaken idle unused shaken) (hsound : built.Sound)
    (id : ExternalId) (name : String) (record : RecordId)
    (hrecord : (shaken.external id).exports.get? name = some record) :
    (built.external id).exports.get? name = some record := by
  have hmem := Table.mem_of_get? _ _ _ hrecord
  rcases Nat.lt_or_ge id built.externals.length with hid | hid
  · rw [h.external id hid] at hmem
    exact Table.get?_of_mem _ (hsound.externals id hid).proper _ _
      ((mem_exportsWithout _ _).mp hmem).1
  · have hblank : shaken.external id = .blank := by
      rw [Session.external, List.getD_eq_getElem?_getD,
        List.getElem?_eq_none (h.externals_length ▸ hid), Option.getD_none]
    rw [hblank] at hmem
    exact absurd hmem List.not_mem_nil

/-- What a shake leaves of a module: of the entry all that it exports. -/
structure LeftModule (unused : List RecordId) (whole rest : Module) : Prop where
  isEntry : rest.isEntry = whole.isEntry
  unnamed : rest.unnamedDefault = whole.unnamedDefault
  program : ∃ idle, rest.program = whole.program.relieved idle
  exports : rest.exports =
    if whole.isEntry then whole.exports else exportsWithout unused whole.exports
  stars : rest.stars.Sublist whole.stars
  entry : whole.isEntry = true → rest.stars = whole.stars

theorem LeftModule.sublist {whole rest : Module} (h : LeftModule unused whole rest) :
    rest.exports.Sublist whole.exports := by
  rw [h.exports]
  split
  · exact .refl _
  · exact List.filter_sublist

theorem Shaken.leftModule (h : built.Shaken idle unused shaken)
    (hstars : ∀ id < built.modules.length,
      (shaken.module id).stars.Sublist (built.module id).stars ∧
        ((built.module id).isEntry = true →
          (shaken.module id).stars = (built.module id).stars)) (id : ModuleId) :
    LeftModule unused (built.module id) (shaken.module id) := by
  rcases Nat.lt_or_ge id built.modules.length with hid | hid
  · obtain ⟨stars, -, hmodule⟩ := h.module id hid
    exact ⟨h.isEntry_eq id hid, h.unnamedDefault_eq id hid, ⟨_, h.program_eq id hid⟩,
      congrArg Module.exports hmodule, (hstars id hid).1, (hstars id hid).2⟩
  · rw [built.module_of_length_le id hid, shaken.module_of_length_le id (h.length ▸ hid)]
    exact ⟨rfl, rfl, ⟨[], rfl⟩, rfl, .refl _, fun _ => rfl⟩

theorem mergedRecords_sublist {before after : Module}
    (hstars : after.stars.Sublist before.stars)
    (hexternals : ∀ id record, (lean.external id).exports.get? aggregateName = some record →
      (whole.external id).exports.get? aggregateName = some record) :
    (lean.mergedRecords after).Sublist (whole.mergedRecords before) := by
  refine List.Sublist.trans ?_ (hstars.filterMap _)
  obtain ⟨found, hfound, hsub⟩ := List.sublistForall₂_iff.mp
    (Printing.sublistForall₂_filterMap fun star (_ : star ∈ after.stars) record hrecord =>
      ⟨record, hexternals star.external record hrecord, Eq.refl record⟩)
  rw [List.forall₂_eq_eq_eq] at hfound
  obtain rfl := hfound
  exact hsub

theorem Shaken.leaner (h : built.Shaken idle unused shaken) (hsound : built.Sound)
    (hrespelled : shaken.Respelled lean) (hmodules : whole.modules = built.modules)
    (hexternals : whole.externals = built.externals)
    (hstars : ∀ id < built.modules.length,
      (shaken.module id).stars.Sublist (built.module id).stars ∧
        ((built.module id).isEntry = true →
          (shaken.module id).stars = (built.module id).stars)) : lean.Leaner whole := by
  have hwhole : ∀ id, whole.module id = built.module id := fun id => by
    rw [Session.module, Session.module, hmodules]
  have hwhole' : ∀ id, whole.external id = built.external id := fun id => by
    rw [Session.external, Session.external, hexternals]
  have hleft : ∀ id, LeftModule unused (whole.module id) (lean.module id) := fun id => by
    rw [hrespelled.module, hwhole]
    exact h.leftModule hstars id
  constructor
  case isEntry => exact fun id => (hleft id).isEntry
  case unnamed => exact fun id => (hleft id).unnamed
  case program => exact fun id => (hleft id).program
  case entry =>
    exact fun id hentry => ⟨(hleft id).exports.trans (if_pos hentry), (hleft id).entry hentry⟩
  case members => exact fun id => (hleft id).sublist
  case aggregate =>
    intro id aggregate haggregate
    have hmem := (hleft id).sublist.subset (Table.mem_of_get? _ _ _ haggregate)
    rcases Nat.lt_or_ge id built.modules.length with hid | hid
    · rw [hwhole] at hmem ⊢
      exact Table.get?_of_mem _ (hsound.proper id hid) _ _ hmem
    · rw [hwhole, built.module_of_length_le id hid] at hmem
      exact absurd hmem List.not_mem_nil
  case merged =>
    refine fun id => mergedRecords_sublist (hleft id).stars fun external record hrecord => ?_
    rw [hrespelled.external] at hrecord
    rw [hwhole']
    exact h.get?_external hsound external _ record hrecord
  case externals =>
    exact ⟨unused, by rw [hrespelled.externals, h.externals_eq, hexternals]⟩
  case proper =>
    intro external hmem
    rw [hexternals] at hmem
    obtain ⟨i, hi, rfl⟩ := built.external_of_mem hmem
    exact (hsound.externals i hi).proper

end Session

section

variable (tree : FileTree) (entry : Path) (options : BundleOptions)

theorem printsLike_linkedSession :
    (builtSession tree entry options).PrintsLike (linkedSession tree entry options) :=
  (Session.printsLike_shakeIfAsked _).trans (Session.printsLike_assignNames _ _)

theorem builtSession_options : (builtSession tree entry options).options = options :=
  congrArg Session.options (builtSession_withOptions tree entry options options rfl)

theorem linkedSession_of_not (h : options.treeshake = false) :
    (linkedSession tree entry options).modules = (builtSession tree entry options).modules ∧
      (linkedSession tree entry options).externals =
        (builtSession tree entry options).externals := by
  have hrespelled := respelled_linkedSession tree entry options
  have hshaken := (builtSession tree entry options).shakeIfAsked_of_not
    ((congrArg BundleOptions.treeshake (builtSession_options tree entry options)).trans h)
  rw [shakenSession, hshaken] at hrespelled
  exact ⟨hrespelled.modules, hrespelled.externals⟩

/-- The graph of a run that shakes is leaner than that of the same run without. -/
theorem leaner_linkedSession :
    (linkedSession tree entry { options with treeshake := true }).Leaner
      (linkedSession tree entry { options with treeshake := false }) := by
  have hbuilt : builtSession tree entry { options with treeshake := false } = _ :=
    builtSession_withOptions tree entry { options with treeshake := true }
      { options with treeshake := false } rfl
  obtain ⟨hmodules, hexternals⟩ :=
    linkedSession_of_not tree entry { options with treeshake := false } rfl
  have hsound := sound_builtSession tree entry { options with treeshake := true }
  obtain ⟨idle, unused, -, -, hshaken⟩ :=
    (builtSession tree entry { options with treeshake := true }).shaken_shakeIfAsked
  refine hshaken.leaner hsound (respelled_linkedSession tree entry _) ?_ ?_ (Session.stars_left _)
  · rw [hmodules, hbuilt]
    rfl
  · rw [hexternals, hbuilt]
    rfl

theorem bundleOrder_withOptions (others : BundleOptions)
    (h : others.extensions = options.extensions) :
    bundleOrder tree entry others = bundleOrder tree entry options := by
  rw [bundleOrder, builtSession_withOptions tree entry options others h]
  rfl

end

/-! ## Sizes -/

theorem text_size_le {first second : Program}
    (h : Printing.Shrinks (printProgram first) (printProgram second)) (comments : Comments)
    (compact : Bool) (hcomments : compact = true ∨ comments = .none) :
    (first.text comments compact).utf8ByteSize ≤ (second.text comments compact).utf8ByteSize := by
  have hblank : (Page.blank compact comments).comments = .none := by
    rcases hcomments with rfl | rfl
    · rfl
    · exact ite_self _
  exact (h _ _ (.refl hblank) rfl).1.size

/-- Where no comments are printed, shaking makes a bundle no longer, unless a name is longer in the
shaken bundle, or is one that a clause or a property has to be written out for there and not in the
other one. -/
theorem shaking_saves_text (tree : FileTree) (entry : Path) (output : Option Path)
    (options : BundleOptions) (shaken kept : Bundle)
    (hshaken : (bundle tree entry output { options with treeshake := true }).outcome = .ok shaken)
    (hkept : (bundle tree entry output { options with treeshake := false }).outcome = .ok kept)
    (hcomments : options.minify = true ∨ (builtSession tree entry options).comments = .none)
    (hnames : (linkedSession tree entry { options with treeshake := true }).Terser
      (linkedSession tree entry { options with treeshake := false })
      (bundleOrder tree entry options)) :
    shaken.stats.outputSize ≤ kept.stats.outputSize := by
  have hprogram := Session.shrinks_linkedProgram (leaner_linkedSession tree entry options) hnames
  have hprints : ∀ treeshake,
      (linkedSession tree entry { options with treeshake }).comments =
          (builtSession tree entry options).comments ∧
        (linkedSession tree entry { options with treeshake }).options.minify = options.minify := by
    intro treeshake
    have hlike := printsLike_linkedSession tree entry { options with treeshake }
    rw [hlike.comments, hlike.options, builtSession_options,
      builtSession_withOptions tree entry options { options with treeshake } rfl]
    exact ⟨rfl, rfl⟩
  rw [bundle_outputSize _ _ _ _ _ hshaken, bundle_outputSize _ _ _ _ _ hkept,
    bundle_code _ _ _ _ _ hshaken, bundle_code _ _ _ _ _ hkept, (hprints true).1,
    (hprints true).2, (hprints false).1, (hprints false).2, bundledProgram, bundledProgram,
    bundleOrder_withOptions tree entry options { options with treeshake := true } rfl,
    bundleOrder_withOptions tree entry options { options with treeshake := false } rfl]
  exact text_size_le hprogram _ _ hcomments

def compactly : BundleOptions := { BundleOptions.standard with minify := true }

/-- A name of a module that is only loaded, and the same one in a module of which half is wanted. -/
def idleTwin : FileTree :=
  ⟨[(["i"], .file "import'./l';import{x,y}from'./m';f({x},y)".toUTF8),
    (["l"], .file "const x=1".toUTF8),
    (["m"], .file "export const x=2,z=3;export{default as y}from'p'".toUTF8)], []⟩

set_option maxRecDepth 100000 in
theorem shaking_saves_text_idleTwin :
    ∃ shaken kept,
      (bundle idleTwin "/i" none { compactly with treeshake := true }).outcome = .ok shaken ∧
      (bundle idleTwin "/i" none { compactly with treeshake := false }).outcome = .ok kept ∧
      shaken.code = "import y from\"p\";const x=2;f(\x7bx\x7d,y);" ∧
      kept.code = "import y from\"p\";const x=1;const x$1=2,z=3;f(\x7bx:x$1\x7d,y);" ∧
      compactly.minify = true ∧
      (linkedSession idleTwin "/i" { compactly with treeshake := true }).Terser
        (linkedSession idleTwin "/i" { compactly with treeshake := false })
        (bundleOrder idleTwin "/i" compactly) ∧
      shaken.stats.outputSize ≤ kept.stats.outputSize := by
  have hshaken : (bundle idleTwin "/i" none { compactly with treeshake := true }).outcome =
      .ok ⟨"import y from\"p\";const x=2;f(\x7bx\x7d,y);", ⟨98, 36, 3, 1, true, true⟩, []⟩ := by
    decide +kernel
  have hkept : (bundle idleTwin "/i" none { compactly with treeshake := false }).outcome =
      .ok ⟨"import y from\"p\";const x=1;const x$1=2,z=3;f(\x7bx:x$1\x7d,y);",
        ⟨98, 56, 3, 1, true, false⟩, []⟩ := by
    decide +kernel
  have hnames : (linkedSession idleTwin "/i" { compactly with treeshake := true }).Terser
      (linkedSession idleTwin "/i" { compactly with treeshake := false })
      (bundleOrder idleTwin "/i" compactly) := by
    decide +kernel
  exact ⟨_, _, hshaken, hkept, rfl, rfl, rfl, hnames,
    shaking_saves_text idleTwin "/i" none compactly _ _ hshaken hkept (.inl rfl) hnames⟩

/-- A name that a module which is only loaded takes from another one, and a parameter of that name.
-/
def shadowedTwin : FileTree :=
  ⟨[(["i"], .file "import'./l';import{x as y}from'./m';f(x=>[x,x,x,x,x,x,x,x,y])".toUTF8),
    (["l"], .file "const x=1".toUTF8), (["m"], .file "export const x=2".toUTF8)], []⟩

set_option maxRecDepth 100000 in
/-- Some bundles are longer when they are shaken: a name that becomes free goes to a declaration
that a parameter then has to make way for. -/
theorem shaking_may_cost_text :
    ¬ ∀ (tree : FileTree) (entry : Path) (output : Option Path) (options : BundleOptions)
      (shaken kept : Bundle),
      (bundle tree entry output { options with treeshake := true }).outcome = .ok shaken →
      (bundle tree entry output { options with treeshake := false }).outcome = .ok kept →
        shaken.stats.outputSize ≤ kept.stats.outputSize := by
  intro hall
  have hshaken : (bundle shadowedTwin "/i" none { compactly with treeshake := true }).outcome =
      .ok ⟨"const x=2;f(x$1=>[x$1,x$1,x$1,x$1,x$1,x$1,x$1,x$1,x]);",
        ⟨86, 54, 3, 0, true, true⟩, []⟩ := by
    decide +kernel
  have hkept : (bundle shadowedTwin "/i" none { compactly with treeshake := false }).outcome =
      .ok ⟨"const x=1;const x$1=2;f(x=>[x,x,x,x,x,x,x,x,x$1]);",
        ⟨86, 50, 3, 0, true, false⟩, []⟩ := by
    decide +kernel
  exact absurd (hall shadowedTwin "/i" none compactly _ _ hshaken hkept) (by decide)

end ScopeHoist
