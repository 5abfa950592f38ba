import Mathlib.Logic.Relation
import ScopeHoist.Proofs.Files
import ScopeHoist.Proofs.Loading

/-!
# Sources and what they import

A file has a program, or a reason why it has none, whatever the session is that it is loaded into.
Moving a program behind other sources and giving its identifiers their scopes leave its specifiers
alone, so that which files import which depends on the file tree only.
-/

set_option autoImplicit false

namespace ScopeHoist

/-! ## Specifiers -/

def Item.specifier? : Item → Option String
  | .importFrom _ source _ => some source.value
  | .exportFrom _ source _ => some source.value
  | .exportStar source _ => some source.value
  | _ => none

theorem Program.specifiers_eq (program : Program) :
    program.specifiers = (program.items.filterMap Item.specifier?).eraseDups := rfl

theorem Item.specifier?_moved (distance : Nat) (item : Item) :
    (item.moved distance).specifier? = item.specifier? := by
  cases item <;> rfl

theorem Program.specifiers_moved (distance : Nat) (program : Program) :
    (program.moved distance).specifiers = program.specifiers := by
  rw [specifiers_eq, specifiers_eq, Program.moved, List.filterMap_map]
  congr 1
  exact List.filterMap_congr fun item _ => item.specifier?_moved distance

namespace Resolving

theorem resolveItem_specifier? (item : Item) (frames : Frames) :
    ((resolveItem item).run frames).1.specifier? = item.specifier? := by
  cases item <;> rfl

theorem filterMap_resolveItems (items : List Item) (frames : Frames) :
    ((items.mapM resolveItem).run frames).1.filterMap Item.specifier? =
      items.filterMap Item.specifier? := by
  induction items generalizing frames with
  | nil => rfl
  | cons first rest ih =>
    rw [List.mapM_cons]
    change (((resolveItem first).run frames).1 ::
      ((rest.mapM resolveItem).run ((resolveItem first).run frames).2).1).filterMap _ = _
    rw [List.filterMap_cons, List.filterMap_cons, resolveItem_specifier?, ih]

end Resolving

theorem Program.specifiers_resolve (program : Program) :
    program.resolve.specifiers = program.specifiers := by
  rw [specifiers_eq, specifiers_eq]
  congr 1
  exact Resolving.filterMap_resolveItems program.items _

theorem Program.specifiers_placed (program : Program) (distance : Nat) :
    (program.moved distance).resolve.specifiers = program.specifiers := by
  rw [specifiers_resolve, specifiers_moved]

/-! ## Programs of files -/

namespace FileTree

theorem isFile_of_programAt {tree : FileTree} {path : Path} {program : Program}
    (h : tree.programAt path = .ok program) : tree.isFile path = true := by
  unfold programAt at h
  split at h
  · exact absurd h nofun
  · rename_i text hread
    exact isFile_of_read hread

/-- A file imports another if one of its specifiers means the other. -/
def Imports (tree : FileTree) (extensions : List String) (importer file : Path) : Prop :=
  ∃ program, tree.programAt importer = .ok program ∧ ∃ specifier ∈ program.specifiers,
    specifierKind specifier = .relative ∧
      filePath? tree extensions importer specifier = some file

end FileTree

end ScopeHoist
