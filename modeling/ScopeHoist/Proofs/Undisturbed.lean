import ScopeHoist.Proofs.Twins

/-!
# Exports and those who import beside them

Two projects of the same files that build from the same entry, where the second one has more
imports in modules that a certain module does not depend on. What the module exports of a module of
the project stays, but for one way in which importers get in touch: an external that is exported
whole is given the names that it is asked for, and whoever exports the asked module whole after that
exports them too.
-/

set_option autoImplicit false

namespace ScopeHoist

instance (module module' : Module) : Decidable (module.SameExports module') :=
  decidable_of_iff (module'.program.clauses = module.program.clauses ∧
      module'.starSpecifiers = module.starSpecifiers)
    ⟨fun ⟨hclauses, hstars⟩ => ⟨hclauses, hstars⟩, fun h => ⟨h.clauses, h.stars⟩⟩

instance (module module' : Module) : Decidable (module.AsksMore module') :=
  decidable_of_iff ((∀ specifier ∈ module.program.specifiers,
        specifier ∈ module'.program.specifiers) ∧
      ∀ request ∈ module.program.requests, request ∈ module'.program.requests)
    ⟨fun ⟨hspecifiers, hrequests⟩ => ⟨hspecifiers, hrequests⟩,
      fun h => ⟨fun _ => (h.specifiers ·), fun _ => (h.requests ·)⟩⟩

theorem Session.asksMore_of_forall {session session' : Session} (id : ModuleId)
    (h : ∀ other < session.modules.length, ∀ other' < session'.modules.length,
      (session'.module other').path = (session.module other).path →
        (session.module other).AsksMore (session'.module other') ∧
          (session.module other).SameExports (session'.module other')) :
    session.AsksMore session' id :=
  ⟨fun other other' htwins => (h other htwins.1 other' htwins.2.1 htwins.2.2).1,
    fun other other' htwins _ => (h other htwins.1 other' htwins.2.1 htwins.2.2).2⟩

/-- In two projects of the same files with one entry, let all files of the second one ask at least
for what they ask for in the first, and a module and those below it export the same. Then
what the module exports of a module in the first project, it exports in the second, unless an
external that it or one below it exports whole lends the name. -/
theorem exports_undisturbed (tree tree' : FileTree) (entry : Path) (options : BundleOptions)
    (hfiles : tree.SameFiles tree') (hbuilds : Builds tree entry options)
    (hbuilds' : Builds tree' entry options) (id : ModuleId)
    (hid : id < (builtSession tree entry options).modules.length)
    (hmore : (builtSession tree entry options).AsksMore (builtSession tree' entry options) id) :
    ∃ id', (builtSession tree entry options).Twins (builtSession tree' entry options) id id' ∧
      ∀ name record found source,
        ((builtSession tree entry options).module id).exports.get? name = some record →
        (builtSession tree entry options).records[record]? = some found →
        found.source = .module source →
          ∃ record' found',
            ((builtSession tree' entry options).module id').exports.get? name = some record' ∧
            (builtSession tree' entry options).records[record']? = some found' ∧
              ((∃ source', found'.source = .module source' ∧
                (builtSession tree entry options).Twins (builtSession tree' entry options) source
                  source' ∧ found'.localName = found.localName) ∨
                (builtSession tree' entry options).LentBelow id' record') := by
  obtain ⟨first, hwired⟩ := wired_builtSession tree entry options
  obtain ⟨first', hwired'⟩ := wired_builtSession tree' entry options
  obtain ⟨root, hrooted, hoptions⟩ := rooted_builtSession tree entry options hbuilds
  obtain ⟨root', hrooted', hoptions'⟩ := rooted_builtSession tree' entry options hbuilds'
  have hpaired : (builtSession tree entry options).Paired (builtSession tree' entry options) tree
      tree' first first' :=
    ⟨hfiles, hoptions'.trans hoptions.symm, sound_builtSession tree entry options,
      sound_builtSession tree' entry options, hwired, hwired', hrooted.led, hrooted'.led⟩
  have hroots : (builtSession tree entry options).Twins (builtSession tree' entry options) root
      root' :=
    ⟨hrooted.valid, hrooted'.valid, by
      rw [hrooted.path_eq, hrooted'.path_eq, hfiles.canonicalOr]⟩
  have hall : ∀ asker < (builtSession tree entry options).modules.length, ∃ asker',
      (builtSession tree entry options).Twins (builtSession tree' entry options) asker asker' :=
    fun asker hasker =>
      hpaired.exists_twin hmore.asks root root' hroots asker (hrooted.reached asker hasker)
  obtain ⟨id', htwins⟩ := hall id hid
  exact ⟨id', htwins, hpaired.exports_kept htwins hmore hrooted'.distinct hall⟩

/-- A module that exports another one whole, next to a module of the given text. -/
def besideStar (text : String) : FileTree :=
  ⟨[(["i"], .file "import'./x';import'./m'".toUTF8), (["x"], .file text.toUTF8),
    (["m"], .file "export*from'./d'".toUTF8), (["d"], .file "export const n=1".toUTF8)], []⟩

set_option maxRecDepth 100000 in
theorem exports_undisturbed_beside :
    (besideStar "").SameFiles (besideStar "import\x7bn\x7dfrom'./d'") ∧
      Builds (besideStar "") "/i" .standard ∧
      Builds (besideStar "import\x7bn\x7dfrom'./d'") "/i" .standard ∧
      2 < (builtSession (besideStar "") "/i" .standard).modules.length ∧
      (builtSession (besideStar "") "/i" .standard).AsksMore
        (builtSession (besideStar "import\x7bn\x7dfrom'./d'") "/i" .standard) 2 ∧
      ∃ id' record' found', (builtSession (besideStar "") "/i" .standard).Twins
          (builtSession (besideStar "import\x7bn\x7dfrom'./d'") "/i" .standard) 2 id' ∧
        ((builtSession (besideStar "import\x7bn\x7dfrom'./d'") "/i" .standard).module
          id').exports.get? "n" = some record' ∧
        (builtSession (besideStar "import\x7bn\x7dfrom'./d'") "/i" .standard).records[record']? =
          some found' ∧
        ((∃ source', found'.source = .module source' ∧
            (builtSession (besideStar "") "/i" .standard).Twins
              (builtSession (besideStar "import\x7bn\x7dfrom'./d'") "/i" .standard) 1 source' ∧
            found'.localName = "n") ∨
          (builtSession (besideStar "import\x7bn\x7dfrom'./d'") "/i" .standard).LentBelow id'
            record') := by
  have hchecked : Builds (besideStar "") "/i" .standard ∧
      Builds (besideStar "import\x7bn\x7dfrom'./d'") "/i" .standard ∧
      2 < (builtSession (besideStar "") "/i" .standard).modules.length ∧
      (∀ other < (builtSession (besideStar "") "/i" .standard).modules.length,
        ∀ other' < (builtSession (besideStar "import\x7bn\x7dfrom'./d'") "/i"
            .standard).modules.length,
          ((builtSession (besideStar "import\x7bn\x7dfrom'./d'") "/i" .standard).module
              other').path = ((builtSession (besideStar "") "/i" .standard).module other).path →
            ((builtSession (besideStar "") "/i" .standard).module other).AsksMore
                ((builtSession (besideStar "import\x7bn\x7dfrom'./d'") "/i" .standard).module
                  other') ∧
              ((builtSession (besideStar "") "/i" .standard).module other).SameExports
                ((builtSession (besideStar "import\x7bn\x7dfrom'./d'") "/i" .standard).module
                  other')) ∧
      ((builtSession (besideStar "") "/i" .standard).module 2).exports.get? "n" = some 0 ∧
      ((builtSession (besideStar "") "/i" .standard).records[0]?).map
        (fun found => (found.source, found.localName)) = some (.module 1, "n") := by
    decide +kernel
  obtain ⟨hbuilds, hbuilds', hid, hall, hentry, hrecord⟩ := hchecked
  have hfiles : (besideStar "").SameFiles (besideStar "import\x7bn\x7dfrom'./d'") :=
    FileTree.sameFiles_of_entries rfl rfl
  have hmore : (builtSession (besideStar "") "/i" .standard).AsksMore
      (builtSession (besideStar "import\x7bn\x7dfrom'./d'") "/i" .standard) 2 :=
    Session.asksMore_of_forall 2 hall
  obtain ⟨found, hfound, hnamed⟩ := Option.map_eq_some_iff.mp hrecord
  obtain ⟨hsource, hname⟩ := Prod.mk.inj hnamed
  obtain ⟨id', htwins, hkept⟩ := exports_undisturbed (besideStar "")
    (besideStar "import\x7bn\x7dfrom'./d'") "/i" .standard hfiles hbuilds hbuilds' 2 hid hmore
  obtain ⟨record', found', hentry', hfound', hkind⟩ := hkept "n" 0 found 1 hentry hfound hsource
  rw [hname] at hkind
  exact ⟨hfiles, hbuilds, hbuilds', hid, hmore, id', record', found', htwins, hentry', hfound',
    hkind⟩

/-- A module that exports two others whole, the second of which exports an external whole, next to
a module of the given text. -/
def besideStars (text : String) : FileTree :=
  ⟨[(["i"], .file "import'./x';import'./m'".toUTF8), (["x"], .file text.toUTF8),
    (["m"], .file "export*from'./a';export*from'./b'".toUTF8),
    (["a"], .file "export const n=1".toUTF8), (["b"], .file "export*from'p'".toUTF8)], []⟩

set_option maxRecDepth 100000 in
/-- An import of what a dependency lends replaces what its importers exported before, although none
of them depends on the module that asks. -/
theorem exports_may_be_disturbed :
    (besideStars "").SameFiles (besideStars "import\x7bn\x7dfrom'./b'") ∧
      Builds (besideStars "") "/i" .standard ∧
      Builds (besideStars "import\x7bn\x7dfrom'./b'") "/i" .standard ∧
      (builtSession (besideStars "") "/i" .standard).AsksMore
        (builtSession (besideStars "import\x7bn\x7dfrom'./b'") "/i" .standard) 3 ∧
      ((builtSession (besideStars "") "/i" .standard).module 0).path = "/x" ∧
      ¬ (builtSession (besideStars "") "/i" .standard).Reaches 3 0 ∧
      ((builtSession (besideStars "") "/i" .standard).module 3).path = "/m" ∧
      (∃ record found, ((builtSession (besideStars "") "/i" .standard).module 3).exports.get? "n" =
          some record ∧
        (builtSession (besideStars "") "/i" .standard).records[record]? = some found ∧
          found.source = .module 1 ∧ found.localName = "n") ∧
      ((builtSession (besideStars "import\x7bn\x7dfrom'./b'") "/i" .standard).module 3).path = "/m" ∧
      ∃ record' found', ((builtSession (besideStars "import\x7bn\x7dfrom'./b'") "/i"
          .standard).module 3).exports.get? "n" = some record' ∧
        (builtSession (besideStars "import\x7bn\x7dfrom'./b'") "/i" .standard).records[record']? =
          some found' ∧ found'.source = .external 0 := by
  have hchecked : Builds (besideStars "") "/i" .standard ∧
      Builds (besideStars "import\x7bn\x7dfrom'./b'") "/i" .standard ∧
      (∀ other < (builtSession (besideStars "") "/i" .standard).modules.length,
        ∀ other' < (builtSession (besideStars "import\x7bn\x7dfrom'./b'") "/i"
            .standard).modules.length,
          ((builtSession (besideStars "import\x7bn\x7dfrom'./b'") "/i" .standard).module
              other').path = ((builtSession (besideStars "") "/i" .standard).module other).path →
            ((builtSession (besideStars "") "/i" .standard).module other).AsksMore
                ((builtSession (besideStars "import\x7bn\x7dfrom'./b'") "/i" .standard).module
                  other') ∧
              ((builtSession (besideStars "") "/i" .standard).module other).SameExports
                ((builtSession (besideStars "import\x7bn\x7dfrom'./b'") "/i" .standard).module
                  other')) ∧
      ((builtSession (besideStars "") "/i" .standard).module 0).path = "/x" ∧
      (∀ other ∈ [1, 2, 3], ∀ dependency ∈
        ((builtSession (besideStars "") "/i" .standard).module other).moduleDependencies,
          dependency ∈ [1, 2]) ∧
      ((builtSession (besideStars "") "/i" .standard).module 3).path = "/m" ∧
      ((builtSession (besideStars "") "/i" .standard).module 3).exports.get? "n" = some 0 ∧
      ((builtSession (besideStars "") "/i" .standard).records[0]?).map
        (fun found => (found.source, found.localName)) = some (.module 1, "n") ∧
      ((builtSession (besideStars "import\x7bn\x7dfrom'./b'") "/i" .standard).module 3).path =
        "/m" ∧
      ((builtSession (besideStars "import\x7bn\x7dfrom'./b'") "/i" .standard).module
        3).exports.get? "n" = some 0 ∧
      ((builtSession (besideStars "import\x7bn\x7dfrom'./b'") "/i" .standard).records[0]?).map
        ExportRecord.source = some (.external 0) := by
    decide +kernel
  obtain ⟨hbuilds, hbuilds', hall, hasker, hsteps, hpath, hentry, hrecord, hpath', hentry',
    hrecord'⟩ := hchecked
  have hreached : ∀ other, (builtSession (besideStars "") "/i" .standard).Reaches 3 other →
      other ∈ [1, 2, 3] := by
    intro other hreaches
    induction hreaches with
    | refl => decide
    | tail _ hstep ih => exact List.mem_append_left [3] (hsteps _ ih _ hstep)
  obtain ⟨found, hfound, hnamed⟩ := Option.map_eq_some_iff.mp hrecord
  obtain ⟨hsource, hname⟩ := Prod.mk.inj hnamed
  obtain ⟨found', hfound', hsource'⟩ := Option.map_eq_some_iff.mp hrecord'
  exact ⟨FileTree.sameFiles_of_entries rfl rfl, hbuilds, hbuilds',
    Session.asksMore_of_forall 3 hall, hasker,
    fun hreaches => absurd (hreached 0 hreaches) (by decide), hpath,
    ⟨0, found, hentry, hfound, hsource, hname⟩, hpath', 0, found', hentry', hfound', hsource'⟩

end ScopeHoist
