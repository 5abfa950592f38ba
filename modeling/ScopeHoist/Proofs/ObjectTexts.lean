import ScopeHoist.Link.Aggregate
import ScopeHoist.Print.Program
import ScopeHoist.Proofs.Shrinking

/-!
# Namespace objects with fewer members

The members of an object and the elements of an array stand on lines of their own. One that is left
out takes its line with it, so that at the start of the next line, or at the end of the last one, a
page that holds no more than another one is still within it.
-/

set_option autoImplicit false

namespace ScopeHoist

namespace Printing

/-! ## Lists with fewer lines -/

def commaBreak : Printing Unit := do
  put ","
  optionalBreak

theorem within_commaBreak : Within commaBreak commaBreak :=
  within_seq (within_same ",") within_optionalBreak

theorem within_ended {action other extra : Printing Unit} (h : Within action other)
    (hextra : Within extra extra) :
    Within (do action; optionalBreak) (do other; extra; optionalBreak) := by
  intro page page' hpage
  obtain ⟨-, hwithin, hgrows⟩ := h page page' hpage
  obtain ⟨-, hself, hgrows'⟩ := hextra _ _ (.refl hwithin.comments')
  have hcompact := hwithin.compact.trans hgrows'.compact.symm
  rw [run_bind, run_bind, run_bind, run_optionalBreak, run_optionalBreak, ← hcompact]
  generalize (action.run page).2 = ended at *
  split
  · rename_i hisCompact
    exact ⟨rfl, hwithin.grows hgrows' hself.comments fun hnot => absurd (hisCompact.symm.trans hnot)
      Bool.noConfusion, hgrows.trans hgrows'⟩
  · exact ⟨rfl, hwithin.withBreak_grows hgrows' hself.comments,
      hgrows.trans (hgrows'.trans (Page.grows_withBreak _))⟩

section

variable {before before' next next' : Printing Unit} (h : LinesWithin next next')
include h

theorem LinesWithin.behind (hbefore : Within before before') :
    LinesWithin (do before; commaBreak; next) (do before'; commaBreak; next') := by
  intro page page' hpage _
  obtain ⟨-, hwithin, hgrows⟩ := within_seq hbefore within_commaBreak page page' hpage
  obtain ⟨hwithin', hgrows'⟩ := h _ _ hwithin (atLineStart_optionalBreak _)
  exact ⟨hwithin', hgrows.trans hgrows'⟩

theorem LinesWithin.leftOut (hbefore : Within before before) :
    LinesWithin next (do before; commaBreak; next') := by
  intro page page' hpage _
  obtain ⟨-, hself, hgrows⟩ := within_seq hbefore within_commaBreak page' page'
    (.refl hpage.comments')
  have hstart := atLineStart_optionalBreak ((before >>= fun _ => put ",").run page').2
  have hskipped := hpage.grows hgrows hself.comments fun hcompact _ _ =>
    hstart (hgrows.compact.trans (hpage.compact.symm.trans hcompact))
  obtain ⟨hwithin', hgrows'⟩ := h _ _ hskipped hstart
  exact ⟨hwithin', hgrows.trans hgrows'⟩

end

def endedLines (parentEnd : Nat) (items : List (Span × Printing Unit)) : Printing Unit := do
  separated parentEnd commaBreak skip items
  optionalBreak

theorem indented_ended (action : Printing Unit) :
    (do indented action; optionalBreak) = indented (do action; optionalBreak) := by
  have hrun : ∀ page, (do indented action; optionalBreak : Printing Unit).run page =
      (indented (do action; optionalBreak)).run page := by
    intro page
    rw [run_bind, run_indented, run_indented, run_bind, run_optionalBreak, run_optionalBreak]
    obtain ⟨text, indent, atLineStart, compact, comments⟩ := (action.run (deeper page)).2
    unfold Page.withBreak
    cases compact <;> cases atLineStart <;> rfl
  exact funext hrun

theorem commaLines_eq (parentEnd : Nat) (items : List (Span × Printing Unit)) :
    commaLines parentEnd items skip = (do
      optionalBreak
      indented (endedLines parentEnd items)) :=
  congrArg (optionalBreak >>= fun _ => ·) (indented_ended _)

section

variable (parentEnd parentEnd' : Nat) {items items' : List (Span × Printing Unit)}

theorem within_separated_self (separator : Printing Unit) (hseparator : Within separator separator)
    (hself : ∀ item ∈ items, Within item.2 item.2) :
    Within (separated parentEnd separator skip items) (separated parentEnd separator skip items) :=
  within_separated _ _ hseparator within_skip (List.forall₂_same.mpr hself)

/-- Behind the last line of the first list the second one may have more. -/
theorem within_endedLines_last {before before' : Printing Unit} (hbefore : Within before before')
    (hself : ∀ item ∈ items, Within item.2 item.2) :
    Within (do before; optionalBreak)
      (do before'; listTail parentEnd commaBreak items; optionalBreak) :=
  within_ended hbefore (within_ite _ within_skip
    (within_seq within_commaBreak (within_separated_self _ _ within_commaBreak hself)))

theorem linesWithin_endedLines (hself : ∀ item ∈ items', Within item.2 item.2)
    (h : List.SublistForall₂ (fun item item' => Within item.2 item'.2) items items') :
    LinesWithin (endedLines parentEnd items) (endedLines parentEnd' items') := by
  have hnone : ∀ items : List (Span × Printing Unit), (∀ item ∈ items, Within item.2 item.2) →
      LinesWithin (endedLines parentEnd []) (endedLines parentEnd' items) := fun items hself =>
    (within_ended within_skip (within_separated_self _ _ within_commaBreak hself)).linesWithin
  induction h with
  | nil => exact hnone _ hself
  | @cons item item' rest rest' hfirst hrest ih =>
    obtain ⟨-, hself'⟩ := List.forall_mem_cons.mp hself
    have hline := within_seq hfirst ((silent_beforeSeparator parentEnd item.1).within
      (silent_beforeSeparator parentEnd' item'.1))
    rw [endedLines, endedLines, separated_item, separated_item]
    by_cases hsome : rest = []
    · have hlast := within_endedLines_last parentEnd' hline hself'
      simp only [bind_assoc] at hlast ⊢
      rw [hsome]
      exact hlast.linesWithin
    · rw [listTail_of_ne_nil _ _ hsome,
        listTail_of_ne_nil _ _ (ne_nil_of_sublistForall₂ hrest hsome)]
      have hlines := (ih hself').behind hline
      simp only [endedLines, bind_assoc] at hlines ⊢
      exact hlines
  | @cons_right extra rest rest' hrest ih =>
    obtain ⟨hextra, hself'⟩ := List.forall_mem_cons.mp hself
    by_cases hsome : rest = []
    · rw [hsome]
      exact hnone _ hself
    · have hsilent := silent_beforeSeparator parentEnd' extra.1
      have hlines := (ih hself').leftOut (within_seq hextra (hsilent.within hsilent))
      rw [endedLines, endedLines, separated_item,
        listTail_of_ne_nil _ _ (ne_nil_of_sublistForall₂ hrest hsome)]
      simp only [endedLines, bind_assoc] at hlines ⊢
      exact hlines

theorem within_fewerLines (hself : ∀ item ∈ items', Within item.2 item.2)
    (h : List.SublistForall₂ (fun item item' => Within item.2 item'.2) items items') :
    Within (commaLines parentEnd items skip) (commaLines parentEnd' items' skip) := by
  rw [commaLines_eq, commaLines_eq]
  exact within_indented_lines (linesWithin_endedLines parentEnd parentEnd' hself h)

end

/-! ## Objects and arrays -/

section

variable {trees trees' : List Tree} (h : List.SublistForall₂ Tree.NoLonger trees trees')
include h

theorem within_fewerParts (parentEnd parentEnd' : Nat) :
    Within (commaLines parentEnd (listed (printParts trees)) skip)
      (commaLines parentEnd' (listed (printParts trees')) skip) := by
  refine within_fewerLines parentEnd parentEnd' ?_ ?_
  · intro item hitem
    obtain ⟨part, hpart, rfl⟩ := List.mem_map.mp hitem
    exact (within_printParts_self trees' part hpart).full
  · unfold listed
    rw [List.sublistForall₂_map_left_iff, List.sublistForall₂_map_right_iff]
    exact sublistForall₂_imp (fun part part' hpart => hpart.full) (shrinks_printParts h)

theorem within_object (span span' : Span) (setting : Setting) :
    Within (printTree (.node .object span trees) setting)
      (printTree (.node .object span' trees') setting) := by
  have hlines := within_fewerParts h span.hi span'.hi
  refine within_seq (within_leading _ _) (within_seq ?_ (within_putEnding _ _ _ _))
  cases trees with
  | nil =>
    cases trees' with
    | nil => exact within_same _
    | cons first' rest' =>
      have hself := within_commaLines span'.hi span'.hi within_skip
        (within_listed (within_printParts (.refl (first' :: rest'))))
      have hbraces : Within (put ("\x7b" ++ "\x7d")) (do
          put "\x7b"
          commaLines span'.hi (listed (printParts (first' :: rest'))) skip
          put "\x7d") :=
        within_put_around hself (Nat.le_refl _) (Nat.le_refl _)
      exact hbraces
  | cons first rest =>
    cases trees' with
    | nil => exact absurd rfl (ne_nil_of_sublistForall₂ h (List.cons_ne_nil first rest))
    | cons first' rest' => exact within_seq (within_same _) (within_seq hlines (within_same _))

omit h in
theorem tree_mem_of_mem_printParts : ∀ {trees : List Tree}, ∀ part ∈ printParts trees,
    part.tree ∈ trees
  | tree :: rest, part, hpart => by
    rcases List.mem_cons.mp hpart with rfl | hrest
    · exact List.mem_cons_self
    · exact List.mem_cons_of_mem tree (tree_mem_of_mem_printParts part hrest)

omit h in
theorem holeComma_of_present (hpresent : ∀ tree ∈ trees, tree.isAbsent = false) :
    holeComma (printParts trees) = skip := by
  have hlast : endsInHole (printParts trees) = false := by
    unfold endsInHole
    cases hlast : (printParts trees).getLast? with
    | none => rfl
    | some part =>
      exact hpresent _ (tree_mem_of_mem_printParts part (List.mem_of_getLast? hlast))
  rw [holeComma, hlast]
  rfl

theorem within_array (hsome : trees ≠ []) (hpresent : ∀ tree ∈ trees, tree.isAbsent = false)
    (hpresent' : ∀ tree ∈ trees', tree.isAbsent = false) (span span' : Span) (setting : Setting) :
    Within (printTree (.node .array span trees) setting)
      (printTree (.node .array span' trees') setting) := by
  have hbody : ∀ {trees : List Tree} (span : Span), trees ≠ [] →
      (∀ tree ∈ trees, tree.isAbsent = false) →
        putForm .array span setting (printParts trees) =
          inBrackets (commaLines span.hi (listed (printParts trees)) skip) := by
    intro trees span hsome hpresent
    rw [← holeComma_of_present hpresent]
    cases trees with
    | nil => exact absurd rfl hsome
    | cons first rest => rfl
  have hform : Within (putForm .array span setting (printParts trees))
      (putForm .array span' setting (printParts trees')) := by
    rw [hbody span hsome hpresent, hbody span' (ne_nil_of_sublistForall₂ h hsome) hpresent']
    exact within_inBrackets (within_fewerParts h span.hi span'.hi)
  exact within_seq (within_leading _ _) (within_seq hform (within_putEnding _ _ _ _))

end

/-! ## Namespace objects -/

theorem listed_printParts (trees : List Tree) :
    listed (printParts trees) = trees.map fun tree => (tree.span, printTree tree .full) := by
  induction trees with
  | nil => rfl
  | cons first rest ih => exact congrArg ((first.span, printTree first .full) :: ·) ih

theorem shrinks_call {callee callee' : Tree} {arguments arguments' : List Tree}
    (hcallee : Within (printTree callee .head) (printTree callee' .head))
    (h : List.SublistForall₂ (fun tree tree' => Within (printTree tree .full)
      (printTree tree' .full)) arguments arguments') :
    Shrinks (printTree (callOf callee arguments) .full)
      (printTree (callOf callee' arguments') .full) := by
  have hlist : Shrinks (commaList Span.generated.hi (listed (printParts arguments)) skip)
      (commaList Span.generated.hi (listed (printParts arguments')) skip) := by
    rw [listed_printParts, listed_printParts]
    refine shrinks_commaList _ _ ?_ ?_
    · intro item hitem
      obtain ⟨tree, -, rfl⟩ := List.mem_map.mp hitem
      exact within_printTree_self tree .full
    · rw [List.sublistForall₂_map_left_iff, List.sublistForall₂_map_right_iff]
      exact sublistForall₂_imp (fun _ _ hargument => hargument.shrinks) h
  have hparens := shrinks_seq (within_same "(").shrinks
    (shrinks_seq hlist (within_same ")").shrinks)
  exact shrinks_seq (within_leading _ _).shrinks (shrinks_seq
    (shrinks_seq hcallee.shrinks hparens) (within_putEnding .call _ _ .full).shrinks)

theorem printTree_freeze :
    printTree (memberOf (generatedIdent "Object") "freeze") .head = put "Object.freeze" := by
  have hput : put "Object.freeze" = (do put "Object"; put "."; put "freeze") := by
    rw [← put_append, ← put_append]
    rfl
  rw [hput]
  rfl

theorem within_callee :
    Within (printTree (memberOf (generatedIdent "Object") "freeze") .head)
      (printTree (generatedIdent mergeHelperName) .head) := by
  rw [printTree_freeze]
  exact within_put (by decide)

theorem shrinks_constDeclaration {name name' : String} {value value' : Tree}
    (hname : name.utf8ByteSize ≤ name'.utf8ByteSize) (hpresent : value.isAbsent = false)
    (hpresent' : value'.isAbsent = false)
    (hvalue : Shrinks (printTree value .full) (printTree value' .full)) :
    Shrinks (printItem (.statement (constDeclaration name value)))
      (printItem (.statement (constDeclaration name' value'))) := by
  have hdeclaration : ∀ (name : String) (value : Tree), value.isAbsent = false →
      printItem (.statement (constDeclaration name value)) = (do
        put "const"
        space
        put name
        optionalSpace
        put "="
        optionalSpace
        printTree value .full
        put ";"
        optionalBreak) := by
    intro name value hpresent
    have hinit : (if !value.isAbsent then do
        optionalSpace
        put "="
        optionalSpace
        printTree value .full
      else skip : Printing Unit) = (do
        optionalSpace
        put "="
        optionalSpace
        printTree value .full) := by
      rw [hpresent]
      rfl
    have hprint : printItem (.statement (constDeclaration name value)) = (do
        put "const"
        space
        put name
        (if !value.isAbsent then do
          optionalSpace
          put "="
          optionalSpace
          printTree value .full
        else skip)
        put ";"
        optionalBreak) := rfl
    rw [hprint, hinit]
    simp only [bind_assoc]
  rw [hdeclaration name value hpresent, hdeclaration name' value' hpresent']
  exact shrinks_seq (within_same _).shrinks (shrinks_seq within_space.shrinks
    (shrinks_seq (within_put hname).shrinks (shrinks_seq within_optionalSpace.shrinks
      (shrinks_seq (within_same _).shrinks (shrinks_seq within_optionalSpace.shrinks
        (shrinks_seq hvalue (within_seq (within_same _) within_optionalBreak).shrinks))))))

end Printing

open Printing

def namespaceValue (members : List (String × String)) (merged : List String) : Tree :=
  let object := objectOf (members.map fun entry => (entry.1, generatedIdent entry.2))
  if merged.isEmpty then callOf (memberOf (generatedIdent "Object") "freeze") [object]
  else callOf (generatedIdent mergeHelperName) [object, arrayOf (merged.map generatedIdent)]

theorem namespaceValue_present (members : List (String × String)) (merged : List String) :
    (namespaceValue members merged).isAbsent = false := by
  unfold namespaceValue
  dsimp only
  split <;> rfl

/-- A namespace object with fewer members and fewer namespaces merged in takes no more text. -/
theorem shrinks_namespaceValue {members members' : List (String × String)}
    {merged merged' : List String}
    (hmembers : List.SublistForall₂ (fun entry entry' =>
      entry.1 = entry'.1 ∧ entry.2.utf8ByteSize ≤ entry'.2.utf8ByteSize) members members')
    (hmerged : List.SublistForall₂ (fun name name' => name.utf8ByteSize ≤ name'.utf8ByteSize)
      merged merged') :
    Shrinks (printTree (namespaceValue members merged) .full)
      (printTree (namespaceValue members' merged') .full) := by
  have hobject : Within
      (printTree (objectOf (members.map fun entry => (entry.1, generatedIdent entry.2))) .full)
      (printTree (objectOf (members'.map fun entry => (entry.1, generatedIdent entry.2)))
        .full) := by
    refine within_object ?_ _ _ _
    rw [List.map_map, List.map_map, List.sublistForall₂_map_left_iff,
      List.sublistForall₂_map_right_iff]
    refine sublistForall₂_imp (fun entry entry' hentry => ?_) hmembers
    rw [Function.comp_apply, Function.comp_apply, hentry.1]
    exact .node _ _ _ _ _ (.cons _ _ _ _ (.refl _) (.cons _ _ _ _ (.ident _ _ hentry.2) .nil))
  cases merged with
  | nil =>
    cases merged' with
    | nil => exact shrinks_call (within_printTree_self _ _) (.cons hobject .nil)
    | cons => exact shrinks_call within_callee (.cons hobject .nil)
  | cons first rest =>
    have hsome' := ne_nil_of_sublistForall₂ hmerged (List.cons_ne_nil first rest)
    have hpresent : ∀ names : List String, ∀ tree ∈ names.map generatedIdent,
        tree.isAbsent = false := by
      intro names tree htree
      obtain ⟨name, -, rfl⟩ := List.mem_map.mp htree
      rfl
    have hnames : List.SublistForall₂ Tree.NoLonger ((first :: rest).map generatedIdent)
        (merged'.map generatedIdent) := by
      rw [List.sublistForall₂_map_left_iff, List.sublistForall₂_map_right_iff]
      exact sublistForall₂_imp (fun _ _ hname => .ident _ _ hname) hmerged
    have harray := within_array hnames (List.cons_ne_nil _ _) (hpresent _) (hpresent _) .generated
      .generated .full
    cases merged' with
    | nil => exact absurd rfl hsome'
    | cons =>
      exact shrinks_call (within_printTree_self _ _) (.cons hobject (.cons harray .nil))

end ScopeHoist
