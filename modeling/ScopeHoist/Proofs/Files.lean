import Mathlib.Data.List.Perm.Subperm
import ScopeHoist.Graph.Specifier

/-!
# Canonical paths

A place that a path leads to is there, with all directories above it, so that its canonical path
leads there again. Two paths have the same canonical path exactly if they lead to the same place,
and there are no more canonical paths of files than a tree has entries.
-/

set_option autoImplicit false

namespace ScopeHoist

namespace Path

theorem splitChars_of_not_mem (part : List Char) (h : '/' ∉ part) : splitChars part = [part] := by
  induction part with
  | nil => rfl
  | cons c rest ih =>
    rw [List.mem_cons, not_or] at h
    rw [splitChars, ih h.2]
    exact fun heq => h.1 heq.symm

theorem splitChars_append (part rest : List Char) (h : '/' ∉ part) :
    splitChars (part ++ '/' :: rest) = part :: splitChars rest := by
  induction part with
  | nil => rfl
  | cons c part ih =>
    rw [List.mem_cons, not_or] at h
    rw [List.cons_append, splitChars, ih h.2]
    exact fun heq => h.1 heq.symm

theorem splitChars_intercalate (first : List Char) (others : List (List Char))
    (h : ∀ part ∈ first :: others, '/' ∉ part) :
    splitChars (['/'].intercalate (first :: others)) = first :: others := by
  induction others generalizing first with
  | nil =>
    rw [List.intercalate_singleton]
    exact splitChars_of_not_mem first (h first List.mem_cons_self)
  | cons second others ih =>
    rw [List.intercalate_cons_cons, List.append_assoc, List.singleton_append,
      splitChars_append _ _ (h first List.mem_cons_self),
      ih second fun part hpart => h part (List.mem_cons_of_mem _ hpart)]

theorem slash_not_mem_of_mem_splitChars (text : List Char) (part : List Char)
    (h : part ∈ splitChars text) : '/' ∉ part := by
  induction text generalizing part with
  | nil => simp [List.mem_singleton.mp h]
  | cons c rest ih =>
    by_cases hc : c = '/'
    · subst hc
      rcases List.mem_cons.mp h with rfl | h
      · exact List.not_mem_nil
      · exact ih part h
    · rw [splitChars] at h
      · cases hrest : splitChars rest with
        | nil =>
          rw [hrest] at h
          simp [List.mem_singleton.mp h, Ne.symm hc]
        | cons first others =>
          rw [hrest] at h ih
          rcases List.mem_cons.mp h with rfl | h
          · simp [Ne.symm hc, ih first List.mem_cons_self]
          · exact ih part (List.mem_cons_of_mem _ h)
      · exact hc

theorem slash_not_mem_of_mem_pieces (path : Path) (name : String) (h : name ∈ pieces path) :
    '/' ∉ name.toList := by
  obtain ⟨part, hpart, rfl⟩ := List.mem_map.mp h
  rw [String.toList_ofList]
  exact slash_not_mem_of_mem_splitChars _ part hpart

end Path

namespace FileTree

variable {tree : FileTree}

def IsName (name : String) : Prop :=
  name ≠ "" ∧ name ≠ "." ∧ name ≠ ".." ∧ '/' ∉ name.toList

instance (name : String) : Decidable (IsName name) :=
  inferInstanceAs (Decidable (_ ∧ _ ∧ _ ∧ _))

def Holds (tree : FileTree) (place : Place) : Prop :=
  ∀ front name, front ++ [name] <+: place →
    IsName name ∧ tree.isDirectory front = true ∧ (tree.lookup (front ++ [name])).isSome = true

theorem holds_nil : tree.Holds [] := fun _ _ hfront =>
  absurd (List.prefix_nil.mp hfront) (by simp)

theorem Holds.above {front place : Place} (h : tree.Holds place) (hfront : front <+: place) :
    tree.Holds front := fun above name habove => h above name (habove.trans hfront)

theorem Holds.below {place : Place} (h : tree.Holds place) {name : String} (hname : IsName name)
    (hdirectory : tree.isDirectory place = true)
    (hfound : (tree.lookup (place ++ [name])).isSome = true) : tree.Holds (place ++ [name]) := by
  intro front other hfront
  rcases List.prefix_concat_iff.mp hfront with heq | hfront
  · obtain ⟨rfl, hother⟩ := List.append_inj' heq rfl
    obtain rfl := List.singleton_inj.mp hother
    exact ⟨hname, hdirectory, hfound⟩
  · exact h front other hfront

/-! ## Walking -/

theorem holds_walk (names : List String) (hnames : ∀ name ∈ names, '/' ∉ name.toList)
    (place result : Place) (h : tree.Holds place) (hwalk : tree.walk place names = .ok result) :
    tree.Holds result := by
  induction names generalizing place with
  | nil => exact Except.ok.inj hwalk ▸ h
  | cons name rest ih =>
    have ih := ih fun other hother => hnames other (List.mem_cons_of_mem _ hother)
    rw [walk] at hwalk
    split at hwalk
    · exact absurd hwalk nofun
    rename_i hdirectory
    split at hwalk
    · exact ih place h hwalk
    rename_i hstay
    split at hwalk
    · exact ih _ (h.above (List.dropLast_prefix place)) hwalk
    rename_i hup
    split at hwalk
    · exact absurd hwalk nofun
    rename_i entry hfound
    refine ih _ (h.below ⟨?_, ?_, ?_, hnames name List.mem_cons_self⟩ (by simpa using hdirectory)
      (by rw [hfound]; rfl)) hwalk
    · exact fun heq => hstay (by simp [heq])
    · exact fun heq => hstay (by simp [heq])
    · exact fun heq => hup (by simp [heq])

theorem walk_of_holds (names : List String) (place : Place) (h : tree.Holds (place ++ names)) :
    tree.walk place names = .ok (place ++ names) := by
  induction names generalizing place with
  | nil => rw [List.append_nil, walk]
  | cons name rest ih =>
    have hsplit : place ++ name :: rest = place ++ [name] ++ rest := by simp
    obtain ⟨⟨hempty, hdot, hup, -⟩, hdirectory, hfound⟩ :=
      h place name (hsplit ▸ List.prefix_append _ _)
    obtain ⟨entry, hentry⟩ := Option.isSome_iff_exists.mp hfound
    rw [walk]
    simp only [hdirectory, hempty, hdot, hup, hentry, Bool.not_true, Bool.false_eq_true, if_false,
      beq_iff_eq, Bool.or_eq_true, or_self]
    rw [hsplit] at h ⊢
    exact ih _ h

theorem holds_of_find (hdir : tree.Holds tree.workingDir) {path : Path} {place : Place}
    (h : tree.find path = .ok place) : tree.Holds place := by
  unfold find at h
  split at h
  · exact absurd h nofun
  · refine holds_walk _ (fun name => Path.slash_not_mem_of_mem_pieces path name) _ place ?_ h
    unfold start
    split
    · exact holds_nil
    · exact hdir

theorem pieces_pathOf (place : Place) (h : ∀ name ∈ place, '/' ∉ name.toList) :
    Path.pieces (pathOf place) = if place = [] then ["", ""] else "" :: place := by
  have hchars : (pathOf place).toList = '/' :: ['/'].intercalate (place.map String.toList) := by
    simp [pathOf]
  rw [Path.pieces, hchars]
  cases place with
  | nil => rfl
  | cons first others =>
    have hparts : ∀ part ∈ first.toList :: others.map String.toList, '/' ∉ part := by
      simpa using h
    rw [if_neg (List.cons_ne_nil _ _), List.map_cons, Path.splitChars,
      Path.splitChars_intercalate _ _ hparts]
    simp [Function.comp_def]

theorem Holds.isName {place : Place} (h : tree.Holds place) (name : String) (hname : name ∈ place) :
    IsName name := by
  obtain ⟨front, back, rfl⟩ := List.append_of_mem hname
  exact (h front name ⟨back, by simp⟩).1

theorem Holds.find_pathOf {place : Place} (h : tree.Holds place) :
    tree.find (pathOf place) = .ok place := by
  have hroot : tree.isDirectory [] = true := rfl
  have habsolute : (pathOf place).toList.head? = some '/' := by simp [pathOf]
  have hnonempty : (pathOf place).isEmpty = false := by
    rw [Bool.eq_false_iff]
    intro hempty
    rw [String.isEmpty_iff.mp hempty] at habsolute
    exact absurd habsolute nofun
  have hstart : tree.start (pathOf place) = [] :=
    if_pos (by rw [Path.isAbsolute, habsolute]; rfl)
  rw [find, hnonempty, if_neg Bool.false_ne_true, hstart,
    pieces_pathOf place fun name hname => (h.isName name hname).2.2.2]
  split
  · rename_i hnil
    subst hnil
    simp [walk, hroot]
  · rw [walk]
    simp only [hroot, Bool.not_true, Bool.false_eq_true, if_false, beq_self_eq_true, Bool.true_or,
      if_true]
    exact walk_of_holds place [] h

/-! ## Canonical paths -/

theorem canonical_eq_ok_iff {path found : Path} :
    tree.canonical path = .ok found ↔
      ∃ place, tree.find path = .ok place ∧ pathOf place = found := by
  unfold canonical
  cases tree.find path with
  | ok place => simp [Except.map]
  | error problem => simp [Except.map]

theorem canonical_of_canonical (hdir : tree.Holds tree.workingDir) {path found : Path}
    (h : tree.canonical path = .ok found) : tree.canonical found = .ok found := by
  obtain ⟨place, hfind, rfl⟩ := canonical_eq_ok_iff.mp h
  exact canonical_eq_ok_iff.mpr ⟨place, (holds_of_find hdir hfind).find_pathOf, rfl⟩

/-- Two paths that lead somewhere have one canonical path exactly if they lead to the same place. -/
theorem canonical_eq_iff (hdir : tree.Holds tree.workingDir) {first second : Path}
    {place place' : Place} (h : tree.find first = .ok place) (h' : tree.find second = .ok place') :
    tree.canonical first = tree.canonical second ↔ place = place' := by
  have hfirst := (holds_of_find hdir h).find_pathOf
  have hsecond := (holds_of_find hdir h').find_pathOf
  rw [canonical, canonical, h, h']
  constructor
  · intro heq
    rw [Except.ok.inj heq, hsecond] at hfirst
    exact (Except.ok.inj hfirst).symm
  · exact fun heq => heq ▸ rfl

theorem find_of_isFile {path : Path} (h : tree.isFile path = true) :
    ∃ place, tree.find path = .ok place ∧ place ∈ tree.entries.map Prod.fst := by
  unfold isFile at h
  split at h
  · rename_i place hfind
    rw [Bool.and_eq_true, Bool.not_eq_true'] at h
    refine ⟨place, hfind, ?_⟩
    have hroot : place.isEmpty = false := by
      cases place with
      | nil => exact absurd h.2 nofun
      | cons name rest => rfl
    have hlookup := h.1
    rw [lookup, hroot, if_neg Bool.false_ne_true, List.lookup_isSome_iff] at hlookup
    obtain ⟨entry, hentry, heq⟩ := hlookup
    exact List.mem_map.mpr ⟨entry, hentry, (eq_of_beq heq).symm⟩
  · exact absurd h nofun

theorem isFile_of_read {path : Path} {text : String} (h : tree.read path = .ok text) :
    tree.isFile path = true := by
  unfold read at h
  cases hfind : tree.find path with
  | error problem =>
    rw [hfind] at h
    exact absurd h nofun
  | ok place =>
    rw [hfind] at h
    unfold isFile isDirectory
    cases hlookup : tree.lookup place with
    | none =>
      simp only [bind, Except.bind, hlookup] at h
      exact absurd h nofun
    | some entry =>
      cases entry with
      | directory =>
        simp only [bind, Except.bind, hlookup] at h
        exact absurd h nofun
      | file bytes => simp [hfind, hlookup]

theorem length_le_of_isFile (paths : List Path) (hnodup : paths.Nodup)
    (h : ∀ path ∈ paths, tree.canonical path = .ok path ∧ tree.isFile path = true) :
    paths.length ≤ tree.entries.length := by
  have hsub : paths ⊆ tree.entries.map fun entry => pathOf entry.1 := by
    intro path hpath
    obtain ⟨hcanonical, hfile⟩ := h path hpath
    obtain ⟨place, hfind, hplace⟩ := find_of_isFile hfile
    obtain ⟨place', hfind', hpathOf⟩ := canonical_eq_ok_iff.mp hcanonical
    obtain rfl := Except.ok.inj (hfind.symm.trans hfind')
    obtain ⟨entry, hentry, rfl⟩ := List.mem_map.mp hplace
    exact List.mem_map.mpr ⟨entry, hentry, hpathOf⟩
  have hle := (hnodup.subperm hsub).length_le
  rwa [List.length_map] at hle

end FileTree

/-! ## Files that specifiers mean -/

/-- The canonical path of the file that a specifier means, if there is one. -/
def filePath? (tree : FileTree) (extensions : List String) (importer : Path)
    (specifier : String) : Option Path :=
  ((candidatePaths importer specifier extensions).find? fun found => tree.isFile found.1).map
    fun found => (canonicalOr tree found.1 .empty).1

theorem canonicalOr_path (tree : FileTree) (path : Path) (journal journal' : Journal) :
    (canonicalOr tree path journal).1 = (canonicalOr tree path journal').1 := by
  unfold canonicalOr
  cases tree.canonical path <;> rfl

theorem resolveSpecifier_eq (tree : FileTree) (extensions : List String) (importer : Path)
    (specifier : String) (journal : Journal) :
    (resolveSpecifier tree extensions importer specifier journal).1 =
      match filePath? tree extensions importer specifier with
      | some path => .ok path
      | none => .error (.moduleNotFound importer specifier) := by
  unfold resolveSpecifier filePath?
  cases (candidatePaths importer specifier extensions).find? fun found => tree.isFile found.1 with
  | none => rfl
  | some found => exact congrArg Except.ok (canonicalOr_path tree found.1 _ _)

end ScopeHoist
