import ScopeHoist.Proofs.Generated

/-!
# One name for one thing

A bundle is one program, so that two things of the graph must not share a name in it. Bearers of a
name are the declarations that are left, the values without a declaration that a module provides
itself, and all that externals hand out. A record with a declaration bears no name of its own: in
whatever table it stands, it follows its declaration.
-/

set_option autoImplicit false

namespace ScopeHoist

namespace Session

theorem Distinct.not_mem_reads {session : Session} {order : List ModuleId}
    (h : session.Distinct order) (holder : Holder) (hbears : session.Bears order holder) :
    session.nameOf holder ∉ generatedReads := fun hread =>
  h.fresh holder hbears (List.mem_append_left _ hread)

theorem Distinct.ne_free {session : Session} {order : List ModuleId}
    (h : session.Distinct order) (holder : Holder) (hbears : session.Bears order holder)
    (module : ModuleId) (hmodule : module ∈ order) (id : Ident)
    (hid : id ∈ (session.module module).program.idents) (hscope : id.scope = .free) :
    session.nameOf holder ≠ id.name := fun heq =>
  h.fresh holder hbears (List.mem_append_right _ (List.mem_flatMap.mpr
    ⟨module, hmodule, Program.mem_freeNames.mpr ⟨id, hid, hscope, heq.symm⟩⟩))

theorem Linkable.bears_external {source session : Session} {order : List ModuleId}
    (h : Linkable source session order) (external : ExternalId)
    (hexternal : external < session.externals.length) (id : RecordId)
    (hid : id ∈ (session.external external).exports.values) :
    session.Bears order (.value id) := by
  obtain ⟨entry, hentry, rfl⟩ := List.mem_map.mp hid
  obtain ⟨record, hrecord, -, -, howner⟩ := (h.externals external hexternal).entries entry hentry
  exact ⟨record, hrecord, howner, .inr ⟨external, hexternal, hid⟩⟩

end Session

/-- In a session with names, no two things that need one are called the same, none is called like
what a module or the printed program reads from outside, and records follow their declarations. -/
theorem names_unique (options : BundleOptions) (session : Session)
    (h : session.FromBuilds options) (shaken : Bool) :
    let before := session.shakenIf shaken
    let order := before.executionOrder
    let after := before.withNames order
    (∀ first, after.Bears order first → ∀ second, after.Bears order second →
      after.nameOf first = after.nameOf second → first = second) ∧
    (∀ holder, after.Bears order holder →
      after.nameOf holder ∉ ["undefined", "Object", "_mergeNamespaces"] ∧
      ∀ module ∈ order, ∀ id ∈ (after.module module).program.idents, id.scope = .free →
        after.nameOf holder ≠ id.name) ∧
    (∀ external < after.externals.length, ∀ id ∈ (after.external external).exports.values,
      after.Bears order (.value id)) ∧
    ∀ module ∈ order, ∀ id ∈ (after.module module).exports.values,
      ∃ record, after.records[id]? = some record ∧ ∀ owner, record.owner = some owner →
        ∃ binding, after.bindings[owner]? = some binding ∧
          record.identifier = binding.name := by
  intro before order after
  obtain ⟨hlinkable, hdistinct, -⟩ :=
    before.linked_assignNames session order (h.sound.linkable_shakenIf shaken)
  have hcoherent : after.Coherent := (h.fromPhases.coherent.shakenIf shaken).assignNames order
  refine ⟨hdistinct.injective, fun holder hbears => ⟨?_, ?_⟩, ?_, fun module hmodule => ?_⟩
  · exact hdistinct.not_mem_reads holder hbears
  · exact hdistinct.ne_free holder hbears
  · exact hlinkable.bears_external
  · exact hcoherent.exists_owner module (hlinkable.order.valid module hmodule)

/-- Three modules that share a record under two names, ask for one name twice, and declare one that
the printed program reads and one that another module reads as a global. -/
def crowded : FileTree :=
  ⟨[(["i"], .file ("import*as n from'./a.js';import{x}from'p';import d from'./b.js';" ++
      "export{Object as w}from'./a.js';const n$1=1;f(n,x,d,n$1)").toUTF8),
    (["a.js"], .file ("export{Object}from'./b.js';const x=2;function unread(){}" ++
      "const f=3;g(x,f)").toUTF8),
    (["b.js"], .file "export default 3;export const Object=4;export const n=5".toUTF8)], []⟩

def crowdedSession : Session := builtFrom crowded "i"

def crowdedNamed : Session :=
  (crowdedSession.shakenIf true).withNames (crowdedSession.shakenIf true).executionOrder

theorem crowdedSession_fromBuilds : crowdedSession.FromBuilds .standard := by
  rw [crowdedSession]
  exact fromBuilds_builtFrom crowded FileTree.holds_nil "i"

set_option maxRecDepth 100000 in
theorem crowdedNamed_checked :
    (crowdedSession.shakenIf true).executionOrder = [0, 1, 2] ∧
      crowdedNamed.bindings.map Binding.name = ["Object$1", "n", "x", "unread", "f$1", "n$1"] ∧
      crowdedNamed.bindings.map Binding.removed = [false, true, false, true, false, false] ∧
      crowdedNamed.records.map (fun record => (record.identifier, record.owner)) =
        [("b", none), ("Object$1", some 0), ("n", some 1), ("n", none), ("x$1", none)] ∧
      (crowdedNamed.module 0).bindings = [0, 1] ∧ (crowdedNamed.module 1).bindings = [2, 3, 4] ∧
      (crowdedNamed.module 1).exports.values = [1, 3] ∧
      crowdedNamed.externals.length = 1 ∧ (crowdedNamed.external 0).exports.values = [4] ∧
      (crowdedNamed.module 2).program.freeNames = ["f"] := by
  decide +kernel

theorem crowdedNamed_bears (id : BindingId) (module : ModuleId) (hmodule : module ∈ [0, 1, 2])
    (hmember : id ∈ (crowdedNamed.module module).bindings)
    (hleft : (crowdedNamed.bindings.map Binding.removed)[id]? = some false) :
    crowdedNamed.Bears [0, 1, 2] (.binding id) := by
  rw [List.getElem?_map] at hleft
  exact ⟨Option.map_eq_some_iff.mp hleft, module, hmodule, hmember⟩

/-- The name of the external is asked for by a declaration too, and two more declarations would
capture what the program or a module reads. -/
theorem names_unique_crowded :
    crowdedSession.FromBuilds .standard ∧
      crowdedNamed.Bears [0, 1, 2] (.binding 2) ∧ crowdedNamed.Bears [0, 1, 2] (.value 4) ∧
      crowdedNamed.nameOf (.binding 2) ≠ crowdedNamed.nameOf (.value 4) ∧
      crowdedNamed.Bears [0, 1, 2] (.binding 0) ∧ crowdedNamed.nameOf (.binding 0) ≠ "Object" ∧
      crowdedNamed.Bears [0, 1, 2] (.binding 4) ∧
      (∃ id ∈ (crowdedNamed.module 2).program.idents, id.scope = .free ∧ id.name = "f" ∧
        crowdedNamed.nameOf (.binding 4) ≠ id.name) ∧
      ∃ record binding, crowdedNamed.records[1]? = some record ∧ record.owner = some 0 ∧
        crowdedNamed.bindings[0]? = some binding ∧ record.identifier = binding.name := by
  obtain ⟨horder, -, hremoved, hrecords, hfirst, hsecond, htable, hexternals, hhanded, hfree⟩ :=
    crowdedNamed_checked
  obtain ⟨hapart, hclear, hforeign, howned⟩ :=
    names_unique .standard crowdedSession crowdedSession_fromBuilds true
  rw [← crowdedNamed, horder] at hapart hclear hforeign howned
  have hobject := crowdedNamed_bears 0 0 (by decide) (by simp [hfirst]) (by simp [hremoved])
  have hdeclared := crowdedNamed_bears 2 1 (by decide) (by simp [hsecond]) (by simp [hremoved])
  have hglobal := crowdedNamed_bears 4 1 (by decide) (by simp [hsecond]) (by simp [hremoved])
  have hvalue : crowdedNamed.Bears [0, 1, 2] (.value 4) :=
    hforeign 0 (by simp [hexternals]) 4 (by simp [hhanded])
  refine ⟨crowdedSession_fromBuilds, hdeclared, hvalue, fun hsame => ?_, hobject, ?_, hglobal, ?_,
    ?_⟩
  · exact absurd (hapart _ hdeclared _ hvalue hsame) nofun
  · exact fun heq => (hclear _ hobject).1 (by simp [heq])
  · obtain ⟨id, hid, hscope, hname⟩ :=
      Program.mem_freeNames.mp (hfree ▸ List.mem_singleton.mpr rfl :
        "f" ∈ (crowdedNamed.module 2).program.freeNames)
    exact ⟨id, hid, hscope, hname, (hclear _ hglobal).2 2 (by decide) id hid hscope⟩
  · obtain ⟨record, hrecord, hcalled⟩ := howned 1 (by decide) 1 (by simp [htable])
    have hfound := congrArg (·[1]?) hrecords
    simp only [List.getElem?_map, hrecord] at hfound
    have howner : record.owner = some 0 := congrArg Prod.snd (Option.some.inj hfound)
    obtain ⟨binding, hbinding, hidentifier⟩ := hcalled 0 howner
    exact ⟨record, binding, hrecord, howner, hbinding, hidentifier⟩

end ScopeHoist
