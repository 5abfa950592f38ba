import ScopeHoist.Proofs.Forms

/-!
# Printing less

Where no line is indented, a page that holds no more than another one stays behind it when text is
printed on the other alone. So the text of a program gets no longer when items, declarators or
names of clauses are left out, as long as the words and signs that take their place are as short.
-/

set_option autoImplicit false

namespace ScopeHoist

namespace Printing

/-- Actions of which the first adds no more text where no line is indented. -/
def Shrinks (action other : Printing Unit) : Prop :=
  ∀ page page' : Page, page.Within page' → page.indent = 0 →
    (action.run page).2.Within (other.run page').2 ∧ (action.run page).2.indent = 0

section

variable {action other next next' extra : Printing Unit}

theorem Within.shrinks (h : Within action other) : Shrinks action other := by
  intro page page' hpage hindent
  obtain ⟨-, hwithin, hgrows⟩ := h page page' hpage
  exact ⟨hwithin, hwithin.indent.trans (hgrows.indent.trans (hpage.indent.symm.trans hindent))⟩

theorem shrinks_seq (h : Shrinks action other) (hnext : Shrinks next next') :
    Shrinks (do action; next) (do other; next') := by
  intro page page' hpage hindent
  obtain ⟨hwithin, hindent'⟩ := h page page' hpage hindent
  exact hnext _ _ hwithin hindent'

theorem shrinks_skip (hextra : Within extra extra) : Shrinks skip extra := by
  intro page page' hpage hindent
  obtain ⟨-, hself, hgrows⟩ := hextra page' page' (.refl hpage.comments')
  exact ⟨hpage.grows hgrows hself.comments fun _ hne => absurd hindent hne, hindent⟩

theorem Shrinks.behind (h : Shrinks action other) (hextra : Within extra extra) :
    Shrinks action (do extra; other) := shrinks_seq (shrinks_skip hextra) h

theorem Shrinks.ahead (h : Shrinks action other) (hextra : Within extra extra) :
    Shrinks action (do other; extra) := by
  have hseq := shrinks_seq h (shrinks_skip hextra)
  rwa [show (do action; skip : Printing Unit) = action from bind_pure action] at hseq

theorem shrinks_spaceIf {needed needed' : Bool} (h : needed = true → needed' = true) :
    Shrinks (spaceIf needed) (spaceIf needed') := by
  cases needed with
  | true =>
    rw [h rfl]
    exact within_space.shrinks
  | false =>
    cases needed' with
    | false => exact within_optionalSpace.shrinks
    | true =>
      intro page page' hpage hindent
      have hcompact : (spaceIf false).run page =
          if page.compact then ((), page) else ((), page.withText " ") := by
        rw [spaceIf, if_neg Bool.false_ne_true, optionalSpace, run_bind, run_isCompact]
        cases page.compact <;> rfl
      rw [hcompact]
      split
      · exact shrinks_skip within_space page page' hpage hindent
      · exact within_space.shrinks page page' hpage hindent

end

/-! ## Lists with fewer items -/

section

variable {α β : Type} {R : α → β → Prop} {values : List α} {values' : List β}

theorem sublistForall₂_imp {S : α → β → Prop}
    (hRS : ∀ value value', R value value' → S value value')
    (h : List.SublistForall₂ R values values') : List.SublistForall₂ S values values' := by
  obtain ⟨found, hfound, hsub⟩ := List.sublistForall₂_iff.mp h
  exact List.sublistForall₂_iff.mpr ⟨found, hfound.imp hRS, hsub⟩

theorem sublistForall₂_filterMap {γ : Type} {values : List γ} {f : γ → Option α} {f' : γ → Option β}
    (h : ∀ value ∈ values, ∀ result, f value = some result →
      ∃ result', f' value = some result' ∧ R result result') :
    List.SublistForall₂ R (values.filterMap f) (values.filterMap f') := by
  induction values with
  | nil => exact .nil
  | cons first rest ih =>
    obtain ⟨hfirst, hrest⟩ := List.forall_mem_cons.mp h
    rw [List.filterMap_cons, List.filterMap_cons]
    cases hresult : f first with
    | none =>
      cases f' first with
      | none => exact ih hrest
      | some result' => exact .cons_right (ih hrest)
    | some result =>
      obtain ⟨result', hresult', hrelated⟩ := hfirst result hresult
      rw [hresult']
      exact .cons hrelated (ih hrest)

theorem ne_nil_of_sublistForall₂ (h : List.SublistForall₂ R values values') (hsome : values ≠ []) :
    values' ≠ [] := by
  rintro rfl
  cases h
  exact hsome rfl

end

section

variable {α β : Type} {print : α → Printing Unit} {print' : β → Printing Unit}

theorem within_forM_self (values : List β) (h : ∀ value, Within (print' value) (print' value)) :
    Within (values.forM print') (values.forM print') := by
  induction values with
  | nil => exact within_skip
  | cons first _ ih => exact within_seq (h first) ih

theorem shrinks_forM {values : List α} {values' : List β}
    (hself : ∀ value, Within (print' value) (print' value))
    (h : List.SublistForall₂ (fun value value' => Shrinks (print value) (print' value'))
      values values') :
    Shrinks (values.forM print) (values'.forM print') := by
  induction h with
  | nil => exact shrinks_skip (within_forM_self _ hself)
  | cons hfirst _ ih => exact shrinks_seq hfirst ih
  | cons_right _ ih => exact ih.behind (hself _)

end

def listTail (parentEnd : Nat) (separator : Printing Unit) (rest : List (Span × Printing Unit)) :
    Printing Unit :=
  if rest.isEmpty then skip else do separator; separated parentEnd separator skip rest

theorem listTail_of_ne_nil (parentEnd : Nat) (separator : Printing Unit)
    {rest : List (Span × Printing Unit)} (h : rest ≠ []) :
    listTail parentEnd separator rest = (do
      separator
      separated parentEnd separator skip rest) := by
  rw [listTail, if_neg (by simpa using h)]

theorem separated_item (parentEnd : Nat) (separator : Printing Unit) (item : Span × Printing Unit)
    (rest : List (Span × Printing Unit)) :
    separated parentEnd separator skip (item :: rest) = (do
      item.2
      (if item.1.hi != parentEnd then leadingAtEnd item.1.hi else skip)
      listTail parentEnd separator rest) := by
  cases rest with
  | nil =>
    simp [separated, listTail, skip]
  | cons next rest => exact separated_cons parentEnd separator skip item next rest

section

variable (parentEnd parentEnd' : Nat) {items items' : List (Span × Printing Unit)}

theorem within_commaList_self (hself : ∀ item ∈ items, Within item.2 item.2) :
    Within (commaList parentEnd items skip) (commaList parentEnd items skip) :=
  within_commaList _ _ within_skip (List.forall₂_same.mpr hself)

theorem shrinks_listTail (hself : ∀ item ∈ items', Within item.2 item.2)
    (hempty : items' = [] → items = [])
    (h : Shrinks (commaList parentEnd items skip) (commaList parentEnd' items' skip)) :
    Shrinks (listTail parentEnd comma items) (listTail parentEnd' comma items') := by
  cases items with
  | nil =>
    refine shrinks_skip (within_ite _ within_skip (within_seq within_comma ?_))
    exact within_commaList_self parentEnd' hself
  | cons first rest =>
    rw [listTail_of_ne_nil parentEnd comma (List.cons_ne_nil first rest),
      listTail_of_ne_nil parentEnd' comma fun h => List.cons_ne_nil first rest (hempty h)]
    exact shrinks_seq within_comma.shrinks h

theorem shrinks_commaList (hself : ∀ item ∈ items', Within item.2 item.2)
    (h : List.SublistForall₂ (fun item item' => Shrinks item.2 item'.2) items items') :
    Shrinks (commaList parentEnd items skip) (commaList parentEnd' items' skip) := by
  induction h with
  | nil => exact shrinks_skip (within_commaList_self parentEnd' hself)
  | @cons item item' rest rest' hfirst hrest ih =>
    obtain ⟨-, hself'⟩ := List.forall_mem_cons.mp hself
    rw [commaList, commaList, separated_item, separated_item]
    refine shrinks_seq hfirst (shrinks_seq
      ((silent_beforeSeparator _ _).within (silent_beforeSeparator _ _)).shrinks ?_)
    refine shrinks_listTail parentEnd parentEnd' hself' (fun hnone => ?_) (ih hself')
    by_contra hsome
    exact ne_nil_of_sublistForall₂ hrest hsome hnone
  | @cons_right extra rest rest' hrest ih =>
    obtain ⟨hextra, hself'⟩ := List.forall_mem_cons.mp hself
    by_cases hsome : rest = []
    · rw [hsome]
      exact shrinks_skip (within_commaList_self parentEnd' hself)
    · have hsome' := ne_nil_of_sublistForall₂ hrest hsome
      have hlist := separated_item parentEnd' comma extra rest'
      rw [listTail_of_ne_nil parentEnd' comma hsome'] at hlist
      rw [commaList, commaList, hlist]
      exact (((ih hself').behind within_comma).behind
        ((silent_beforeSeparator _ _).within (silent_beforeSeparator _ _))).behind hextra

end

/-! ## Declarations with fewer declarators -/

/-- The comma behind a declarator that is left out takes no less than a blank. -/
theorem shrinks_spaceIf_comma (needed : Bool) : Shrinks (spaceIf needed) comma := by
  cases needed with
  | true =>
    have hput : Within (put " ") (put ",") := within_put (Nat.le_refl 1)
    exact hput.shrinks.ahead within_optionalSpace
  | false => exact within_optionalSpace.shrinks.behind (within_same ",")

section

variable {parts parts' : List Part} (hself : ∀ part ∈ parts', part.Within part)
include hself

theorem shrinks_listed (parentEnd parentEnd' : Nat)
    (h : List.SublistForall₂ Part.Within parts parts') :
    Shrinks (commaList parentEnd (listed parts) skip)
      (commaList parentEnd' (listed parts') skip) := by
  refine shrinks_commaList parentEnd parentEnd' ?_ ?_
  · intro item hitem
    obtain ⟨part, hpart, rfl⟩ := List.mem_map.mp hitem
    exact (hself part hpart).full
  · unfold listed
    rw [List.sublistForall₂_map_left_iff, List.sublistForall₂_map_right_iff]
    exact sublistForall₂_imp (fun part part' hpart => hpart.full.shrinks) h

theorem shrinks_putVariables (span span' : Span) (kind : VarKind)
    (h : List.SublistForall₂ Part.Within parts parts') (hsome : parts ≠ []) :
    Shrinks (putVariables span kind parts) (putVariables span' kind parts') := by
  cases h with
  | nil => exact absurd rfl hsome
  | @cons first first' rest rest' hfirst hrest =>
    have hpattern : declaresPattern first'.tree = declaresPattern first.tree :=
      hfirst.tree.declaresPattern_eq
    simp only [putVariables, List.head?_cons, Option.any_some, hpattern]
    exact shrinks_seq (within_same _).shrinks (shrinks_seq (within_spaceIf _).shrinks
      (shrinks_listed hself _ _ (.cons hfirst hrest)))
  | @cons_right extra _ rest' hrest =>
    obtain ⟨hextra, hself'⟩ := List.forall_mem_cons.mp hself
    have hsome' := ne_nil_of_sublistForall₂ hrest hsome
    have hblank := shrinks_spaceIf_comma !(parts.head?.any fun first => declaresPattern first.tree)
    have hsilent := silent_beforeSeparator span'.hi extra.span
    have hrest' := shrinks_seq (((hblank.behind (hsilent.within hsilent)).behind hextra.full).behind
      (within_spaceIf !declaresPattern extra.tree)) (shrinks_listed hself' span.hi span'.hi hrest)
    have hlist : commaList span'.hi (listed (extra :: rest')) skip = (do
        extra.full
        (if extra.span.hi != span'.hi then leadingAtEnd extra.span.hi else skip)
        comma
        commaList span'.hi (listed rest') skip) := by
      have hlist := separated_item span'.hi comma (extra.span, extra.full) (listed rest')
      rwa [listTail_of_ne_nil span'.hi comma (by simpa [listed] using hsome')] at hlist
    simp only [bind_assoc] at hrest'
    simp only [putVariables, hlist, List.head?_cons, Option.any_some]
    exact shrinks_seq (within_same _).shrinks hrest'

end

theorem within_printTree_self (tree : Tree) (setting : Setting) :
    Within (printTree tree setting) (printTree tree setting) :=
  within_printTree (.refl tree) setting

theorem within_printParts_self (trees : List Tree) :
    ∀ part ∈ printParts trees, part.Within part :=
  List.forall₂_same.mp (within_printParts (.refl trees))

theorem shrinks_printParts {trees trees' : List Tree}
    (h : List.SublistForall₂ Tree.NoLonger trees trees') :
    List.SublistForall₂ Part.Within (printParts trees) (printParts trees') := by
  induction h with
  | nil => exact .nil
  | cons hfirst _ ih => exact .cons ⟨hfirst, within_printTree hfirst⟩ ih
  | cons_right _ ih => exact .cons_right ih

end Printing

open Printing

/-- Statements of which the first takes no more text: it declares less, or is no longer. -/
inductive Tree.Less : Tree → Tree → Prop
  | noLonger (tree tree' : Tree) (h : tree.NoLonger tree') : Tree.Less tree tree'
  | declarators (kind : VarKind) (span span' : Span) (trees trees' : List Tree)
    (h : List.SublistForall₂ Tree.NoLonger trees trees') (hsome : trees ≠ []) :
    Tree.Less (.node (.variableDecl kind) span trees) (.node (.variableDecl kind) span' trees')

theorem Tree.Less.shrinks {tree tree' : Tree} (h : tree.Less tree') :
    Shrinks (printTree tree .full) (printTree tree' .full) := by
  cases h with
  | noLonger _ _ h => exact (within_printTree h .full).shrinks
  | declarators kind span span' trees trees' h hsome =>
    have hparts : printParts trees ≠ [] := by
      cases trees with
      | nil => exact absurd rfl hsome
      | cons first rest => exact List.cons_ne_nil _ _
    have hvariables := shrinks_putVariables (within_printParts_self trees') span span' kind
      (shrinks_printParts h) hparts
    exact shrinks_seq (within_leading _ _).shrinks (shrinks_seq
      (shrinks_seq hvariables (within_ite _ (within_same _) within_skip).shrinks)
      (within_putEnding _ _ _ _).shrinks)

end ScopeHoist
