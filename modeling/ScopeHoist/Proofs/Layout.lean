import ScopeHoist.Proofs.Pages
import ScopeHoist.Print.Tree
import ScopeHoist.Scope.Rename

/-!
# Trees side by side

A tree with shorter identifiers, in which fewer shorthand properties are written out, takes no more
text, whatever stands around it. Nothing that decides on the layout depends on how identifiers are
spelled.
-/

set_option autoImplicit false

namespace ScopeHoist

mutual
/-- Trees that are the same but for their places, for identifiers that are no longer, and for
shorthand properties that only the second has written out. -/
inductive Tree.NoLonger : Tree → Tree → Prop
  | ident (id id' : Ident) (hname : id.name.utf8ByteSize ≤ id'.name.utf8ByteSize) :
    Tree.NoLonger (.ident id) (.ident id')
  | node (form : Form) (span span' : Span) (children children' : List Tree)
    (hchildren : TreesNoLonger children children') :
    Tree.NoLonger (.node form span children) (.node form span' children')
  | shorthand (span span' : Span) (id key id' : Ident)
    (hname : id.name.utf8ByteSize ≤ id'.name.utf8ByteSize) :
    Tree.NoLonger (.node .shorthand span [.ident id]) (expanded key span' (.ident id'))
  | shorthandPattern (span span' : Span) (id key id' : Ident) (value : Tree)
    (hname : id.name.utf8ByteSize ≤ id'.name.utf8ByteSize) (habsent : value.isAbsent = true) :
    Tree.NoLonger (.node .shorthandPattern span [.ident id, value])
      (expanded key span' (.ident id'))
  | shorthandDefault (span span' : Span) (id key id' : Ident) (value value' : Tree)
    (hname : id.name.utf8ByteSize ≤ id'.name.utf8ByteSize) (hpresent : value.isAbsent = false)
    (hvalue : Tree.NoLonger value value') :
    Tree.NoLonger (.node .shorthandPattern span [.ident id, value])
      (expanded key span' (.node .defaulted span' [.ident id', value']))

inductive TreesNoLonger : List Tree → List Tree → Prop
  | nil : TreesNoLonger [] []
  | cons (tree tree' : Tree) (rest rest' : List Tree) (htree : Tree.NoLonger tree tree')
    (hrest : TreesNoLonger rest rest') : TreesNoLonger (tree :: rest) (tree' :: rest')
end

mutual
theorem Tree.NoLonger.refl : ∀ tree : Tree, tree.NoLonger tree
  | .ident id => .ident id id (Nat.le_refl _)
  | .node form span children => .node form span span children children (.refl children)

theorem TreesNoLonger.refl : ∀ trees : List Tree, TreesNoLonger trees trees
  | [] => .nil
  | tree :: rest => .cons tree tree rest rest (.refl tree) (.refl rest)
end

theorem TreesNoLonger.length_eq : ∀ {trees trees' : List Tree}, TreesNoLonger trees trees' →
    trees'.length = trees.length
  | _, _, .nil => rfl
  | _, _, .cons _ _ _ _ _ hrest => congrArg (· + 1) hrest.length_eq

theorem TreesNoLonger.forall₂ : ∀ {trees trees' : List Tree}, TreesNoLonger trees trees' →
    List.Forall₂ Tree.NoLonger trees trees'
  | _, _, .nil => .nil
  | _, _, .cons _ _ _ _ htree hrest => .cons htree hrest.forall₂

/-! ## What decides on the layout -/

open Printing

namespace Tree.NoLonger

theorem isAbsent_eq {tree tree' : Tree} (h : tree.NoLonger tree') :
    tree'.isAbsent = tree.isAbsent := by
  cases h with
  | node form _ _ _ _ hchildren => cases form <;> cases hchildren <;> rfl
  | _ => rfl

theorem isSoleName_eq {tree tree' : Tree} (h : tree.NoLonger tree') :
    isSoleName tree' = isSoleName tree := by
  cases h with
  | node form _ _ _ _ hchildren =>
    cases form
    case parameters =>
      cases hchildren with
      | nil => rfl
      | cons _ _ _ _ hfirst hrest => cases hfirst <;> cases hrest <;> rfl
    all_goals rfl
  | _ => rfl

theorem isBlock_eq {tree tree' : Tree} (h : tree.NoLonger tree') :
    isBlock tree' = isBlock tree := by
  cases h with
  | node form => cases form <;> rfl
  | _ => rfl

theorem isPatternStart_eq {tree tree' : Tree} (h : tree.NoLonger tree') :
    isPatternStart tree' = isPatternStart tree := by
  cases h with
  | node form => cases form <;> rfl
  | _ => rfl

theorem declaresPattern_eq {tree tree' : Tree} (h : tree.NoLonger tree') :
    declaresPattern tree' = declaresPattern tree := by
  cases h with
  | node form _ _ _ _ hchildren =>
    cases form
    case declarator =>
      cases hchildren with
      | nil => rfl
      | cons _ _ _ _ hpattern => exact hpattern.isPatternStart_eq
    all_goals rfl
  | _ => rfl

theorem unaryNeedsSpace_eq (op : UnaryOp) {tree tree' : Tree} (h : tree.NoLonger tree')
    (hword : beginsWithWord tree' = beginsWithWord tree) :
    unaryNeedsSpace op tree' = unaryNeedsSpace op tree := by
  cases op
  case typeof | void | delete => exact hword
  case plus | minus =>
    cases h with
    | node form =>
      cases form
      case update text before => simp only [unaryNeedsSpace]; split <;> split <;> simp_all
      case unary inner => cases inner <;> rfl
      all_goals rfl
    | _ => rfl
  all_goals rfl

theorem formsCommentEnd_eq (op : BinaryOp) {tree tree' : Tree} (h : tree.NoLonger tree') :
    formsCommentEnd op tree' = formsCommentEnd op tree := by
  cases h with
  | node form =>
    cases form
    case update text before => simp only [formsCommentEnd]; split <;> split <;> simp_all
    all_goals rfl
  | _ => rfl

theorem beginsWithWord_eq : ∀ {tree tree' : Tree}, tree.NoLonger tree' →
    beginsWithWord tree' = beginsWithWord tree
  | _, _, .ident .. => rfl
  | _, _, .node form _ _ _ _ hchildren => by
    cases hchildren with
    | nil =>
      cases form
      case update op before => cases before <;> rfl
      all_goals rfl
    | cons _ _ _ _ hfirst =>
      have ih := beginsWithWord_eq hfirst
      cases form
      case update op before => cases before <;> first | rfl | exact ih
      case arrow isAsync => exact congrArg (isAsync || ·) hfirst.isSoleName_eq
      all_goals first | rfl | exact ih
  | _, _, .shorthand .. => rfl
  | _, _, .shorthandPattern .. => rfl
  | _, _, .shorthandDefault .. => rfl

theorem runsTogether_eq (op : BinaryOp) : ∀ {tree tree' : Tree}, tree.NoLonger tree' →
    runsTogether op tree' = runsTogether op tree
  | _, _, .ident .. => rfl
  | _, _, .node form _ _ _ _ hchildren => by
    cases hchildren with
    | nil =>
      cases form
      case update text before => cases before <;> rfl
      all_goals rfl
    | cons _ _ _ _ hfirst =>
      have ih := runsTogether_eq op hfirst
      cases form
      case update text before => cases before <;> rfl
      all_goals first | rfl | exact ih
  | _, _, .shorthand .. => rfl
  | _, _, .shorthandPattern .. => rfl
  | _, _, .shorthandDefault .. => rfl

theorem endsWithWord_eq : ∀ {tree tree' : Tree}, tree.NoLonger tree' →
    endsWithWord tree' = endsWithWord tree
  | _, _, .ident .. => rfl
  | _, _, .node form _ _ _ _ hchildren => by
    rcases hchildren with _ | ⟨_, _, _, _, hfirst, _ | ⟨_, _, _, _, hsecond, _ | _⟩⟩
    · cases form <;> rfl
    · have ih := endsWithWord_eq hfirst
      cases form
      case rest | variableDecl => exact ih
      all_goals rfl
    · have ihfirst := endsWithWord_eq hfirst
      have ihsecond := endsWithWord_eq hsecond
      cases form
      case defaulted => exact ihsecond
      case declarator => simp only [endsWithWord, hsecond.isAbsent_eq, ihfirst, ihsecond]
      all_goals rfl
    · cases form <;> rfl
  | _, _, .shorthand .. => rfl
  | _, _, .shorthandPattern .. => rfl
  | _, _, .shorthandDefault .. => rfl

end Tree.NoLonger

/-! ## Parts -/

/-- Parts of which the first takes no more text. -/
structure Part.Within (part other : Part) : Prop where
  tree : part.tree.NoLonger other.tree
  write : ∀ setting, (part.write setting).Within (other.write setting)

def PartsWithin (parts parts' : List Part) : Prop := List.Forall₂ Part.Within parts parts'

namespace Part.Within

variable {part other : Part} (h : part.Within other)
include h

theorem full : part.full.Within other.full := h.write .full

theorem bare : part.bare.Within other.bare := h.write .bare

theorem isAbsent_eq : other.isAbsent = part.isAbsent := h.tree.isAbsent_eq

theorem ifPresent {first first' second second' : Printing Unit}
    (hfirst : first.Within first') (hsecond : second.Within second') :
    Printing.Within (if !part.isAbsent then first else second)
      (if !other.isAbsent then first' else second') :=
  within_ite_of_eq (by rw [h.isAbsent_eq]) hfirst hsecond

theorem whenPresent {action action' : Printing Unit} (haction : action.Within action') :
    Printing.Within (if !part.isAbsent then action else skip)
      (if !other.isAbsent then action' else skip) :=
  h.ifPresent haction within_skip

end Part.Within

theorem PartsWithin.isEmpty_eq {parts parts' : List Part} (h : PartsWithin parts parts') :
    parts'.isEmpty = parts.isEmpty := by
  cases h <;> rfl

namespace Printing

theorem within_listed {parts parts' : List Part} (h : PartsWithin parts parts') :
    ItemsWithin (listed parts) (listed parts') := by
  unfold ItemsWithin listed
  rw [List.forall₂_map_left_iff, List.forall₂_map_right_iff]
  exact h.imp fun _ _ hpart => hpart.full

theorem within_fulls {parts parts' : List Part} (h : PartsWithin parts parts') :
    List.Forall₂ Within (parts.map Part.full) (parts'.map Part.full) := by
  rw [List.forall₂_map_left_iff, List.forall₂_map_right_iff]
  exact h.imp fun _ _ hpart => hpart.full

/-! ## Words and signs around parts -/

theorem within_inParens {action other : Printing Unit} (h : Within action other) :
    Within (inParens action) (inParens other) :=
  within_seq (within_same "(") (within_seq h (within_same ")"))

theorem within_inBrackets {action other : Printing Unit} (h : Within action other) :
    Within (inBrackets action) (inBrackets other) :=
  within_seq (within_same "[") (within_seq h (within_same "]"))

theorem within_lines {items items' : List (Printing Unit)} (h : List.Forall₂ Within items items') :
    Within (lines items) (lines items') := by
  refine within_indented_lines (Within.linesWithin ?_)
  induction h with
  | nil => exact within_skip
  | cons hfirst _ ih => exact within_seq (within_seq hfirst within_optionalBreak) ih

theorem within_putString (value : String) (raw : Option String) :
    Within (putString value raw) (putString value raw) := by
  unfold putString
  cases raw with
  | none => exact within_same _
  | some text =>
    exact within_bind within_isCompact fun _ => within_ite _ (within_same _) (within_same _)

theorem within_putNumber (raw : String) : Within (putNumber raw) (putNumber raw) :=
  within_bind within_isCompact fun _ => within_ite _
    (within_seq (within_same _) (within_pure _)) (within_seq (within_same _) (within_pure _))

theorem within_isCutOff {part other : Part} : Within (isCutOff part) (isCutOff other) := by
  have hrun : ∀ (part : Part) (page : Page), page.comments = .none →
      (isCutOff part).run page = (false, page) := by
    intro part page hpage
    obtain ⟨text, indent, atLineStart, compact, comments⟩ := page
    obtain rfl : comments = .none := hpage
    rfl
  intro page page' hpage
  rw [hrun _ page hpage.comments, hrun _ page' hpage.comments']
  exact ⟨rfl, hpage, .refl page'⟩

section

variable {part other : Part} (h : part.Within other)
include h

theorem within_beforeWord :
    Within (spaceIf (beginsWithWord part.tree)) (spaceIf (beginsWithWord other.tree)) := by
  rw [h.tree.beginsWithWord_eq]
  exact within_spaceIf _

theorem within_arrowBody :
    Within (do put "=>"; if isBlock part.tree then part.full else indented part.full)
      (do put "=>"; if isBlock other.tree then other.full else indented other.full) := by
  rw [h.tree.isBlock_eq]
  split
  · exact within_seq (within_same _) h.full
  · exact within_indented_behind "=>" h.full

theorem within_putOperand (behindWord : Bool) :
    Within (putOperand behindWord part) (putOperand behindWord other) := by
  unfold putOperand
  rw [h.tree.beginsWithWord_eq]
  exact within_bind within_isCutOff fun _ => within_ite _ (within_inParens h.full)
    (within_seq (within_spaceIf _) h.full)

end

theorem within_putBlock (span span' : Span) {parts parts' : List Part}
    (h : PartsWithin parts parts') : Within (putBlock span parts) (putBlock span' parts') := by
  unfold putBlock
  rw [h.isEmpty_eq]
  have hend : Within (do leadingAtEnd span.hi; put "\x7d") (do leadingAtEnd span'.hi; put "\x7d") :=
    within_seq (within_leadingAtEnd _ _) (within_same _)
  refine within_seq (within_leading _ _) (within_seq (within_same _) (within_ite _ ?_ ?_))
  · exact within_bind (within_hasLeadingAtEnd _ _) fun _ =>
      within_ite _ (within_seq within_breakLine hend) hend
  · exact within_seq (within_lines (within_fulls h)) hend

theorem within_putTemplate {chunk : String → Printing Unit}
    (hchunk : ∀ text, Within (chunk text) (chunk text)) (chunks : List String)
    {parts parts' : List Part} (h : PartsWithin parts parts') :
    Within (putTemplate chunk chunks parts) (putTemplate chunk chunks parts') := by
  induction chunks generalizing parts parts' with
  | nil => exact within_skip
  | cons first rest ih =>
    cases rest with
    | nil => exact hchunk first
    | cons second others =>
      cases h with
      | nil => exact within_seq (hchunk first) (ih .nil)
      | cons hpart hparts =>
        exact within_seq (hchunk first) (within_seq (within_same _) (within_seq hpart.full
          (within_seq (within_same _) (ih hparts))))

theorem within_putMembers (span span' : Span) {parts parts' : List Part}
    (h : PartsWithin parts parts') :
    Within (putMembers span parts) (putMembers span' parts') :=
  within_seq (within_same _) (within_seq (within_lines (within_fulls h))
    (within_seq (within_leadingAtEnd _ _) (within_same _)))

theorem within_putArguments (span span' : Span) {parts parts' : List Part}
    (h : PartsWithin parts parts') :
    Within (putArguments span parts) (putArguments span' parts') :=
  within_inParens (within_commaList _ _ within_skip (within_listed h))

theorem within_putName {gap : Printing Unit} (hgap : Within gap gap) {name name' : Part}
    (h : name.Within name') : Within (putName gap name) (putName gap name') :=
  h.whenPresent (within_seq hgap h.bare)

theorem within_holeComma {parts parts' : List Part} (h : PartsWithin parts parts') :
    Within (holeComma parts) (holeComma parts') := by
  have hends : endsInHole parts' = endsInHole parts := by
    unfold endsInHole
    induction h with
    | nil => rfl
    | cons hpart hrest ih =>
      cases hrest with
      | nil => simp [hpart.isAbsent_eq]
      | cons => simpa using ih
  unfold holeComma
  rw [hends]
  exact within_ite _ within_comma within_skip

theorem within_putFunctionHead (kind : FunctionKind) {name name' : Part} (h : name.Within name') :
    Within (putFunctionHead kind name) (putFunctionHead kind name') := by
  unfold putFunctionHead
  simp only [ite_seq]
  exact within_seq (within_ite _ (within_same _) within_skip) (within_seq (within_same _)
    (within_seq (within_ite _ (within_same _) within_skip)
      (within_putName (within_spaceIf _) h)))

theorem within_putClassTail (span span' : Span) {superclass superclass' : Part}
    {members members' : List Part} (h : superclass.Within superclass')
    (hmembers : PartsWithin members members') :
    Within (putClassTail span superclass members) (putClassTail span' superclass' members') := by
  have hend : Within (do optionalSpace; putMembers span members)
      (do optionalSpace; putMembers span' members') :=
    within_seq within_optionalSpace (within_putMembers _ _ hmembers)
  unfold putClassTail
  rw [h.isAbsent_eq]
  exact within_ite _ (within_seq within_space (within_seq (within_same _)
    (within_seq (within_beforeWord h) (within_seq h.full hend)))) hend

theorem within_putBinary (op : BinaryOp) {left left' right right' : Part}
    (hleft : left.Within left') (hright : right.Within right') :
    Within (putBinary op left right) (putBinary op left' right') := by
  unfold putBinary
  rw [hleft.tree.endsWithWord_eq, hleft.tree.formsCommentEnd_eq, hright.tree.beginsWithWord_eq,
    hright.tree.runsTogether_eq]
  exact within_seq hleft.full (within_seq (within_spaceIf _) (within_seq (within_same _)
    (within_seq (within_spaceIf _) hright.full)))

theorem within_putObject {object object' : Part} (h : object.Within object') :
    Within (putObject object) (putObject object') := by
  obtain ⟨tree, write⟩ := object
  obtain ⟨tree', write'⟩ := object'
  obtain ⟨htree, hwrite⟩ := h
  have hwhole : Within (do write .head; return false) (do write' .head; return false) :=
    within_seq (hwrite .head) (within_pure false)
  cases htree with
  | node form =>
    cases form
    case numberLiteral raw => exact within_seq (within_leading _ _) (within_putNumber raw)
    all_goals exact hwhole
  | _ => exact hwhole

theorem within_putProperty (needsPoint : Bool) {property property' : Part}
    (h : property.Within property') :
    Within (putProperty needsPoint property) (putProperty needsPoint property') := by
  have hleading : ∀ (condition : Prop) [Decidable condition] (position : Nat),
      Silent (if condition then leading position else skip) := by
    intro condition _ position
    split
    · exact silent_leading position
    · exact silent_skip
  have hend : Within (do put "."; property.bare) (do put "."; property'.bare) :=
    within_seq (within_same _) h.bare
  unfold putProperty
  simp only [ite_seq]
  have hrest := within_seq ((hleading (property.span.lo ≥ 1) (property.span.lo - 1)).within
    (hleading (property'.span.lo ≥ 1) (property'.span.lo - 1))) hend
  refine within_ite _ (within_seq ((hleading _ _).within (hleading _ _))
    (within_seq (within_same _) hrest)) hrest

theorem within_putNew (span span' : Span) (hasArguments keepsEmpty : Bool) {callee callee' : Part}
    {parts parts' : List Part} (hcallee : callee.Within callee') (h : PartsWithin parts parts') :
    Within (putNew span hasArguments keepsEmpty callee parts)
      (putNew span' hasArguments keepsEmpty callee' parts') := by
  unfold putNew
  rw [h.isEmpty_eq]
  exact within_seq (within_same _) (within_seq (within_beforeWord hcallee) (within_seq hcallee.full
    (within_ite _ (within_bind within_isCompact fun _ =>
      within_ite _ (within_putArguments _ _ h) within_skip) within_skip)))

theorem within_putArrowParameters {parameters parameters' : Part}
    (h : parameters.Within parameters') :
    Within (putArrowParameters parameters) (putArrowParameters parameters') := by
  unfold putArrowParameters
  rw [h.tree.isSoleName_eq]
  exact within_bind within_isCompact fun _ => within_ite _ h.full (within_inParens h.full)

theorem within_putMarks (kind : FunctionKind) : Within (putMarks kind) (putMarks kind) := by
  unfold putMarks
  simp only [ite_seq]
  exact within_seq (within_ite _ (within_same _) within_skip)
    (within_ite _ (within_same _) within_skip)

theorem within_putMethodWord (kind : MethodKind) {key key' : Part} (h : key.Within key') :
    Within (putMethodWord kind key.tree) (putMethodWord kind key'.tree) := by
  cases kind with
  | plain kind => exact within_putMarks kind
  | _ => exact within_seq (within_same _) (within_beforeWord h)

theorem within_putMethod (isStatic : Bool) (kind : MethodKind)
    {key key' parameters parameters' body body' : Part} (hkey : key.Within key')
    (hparameters : parameters.Within parameters') (hbody : body.Within body') :
    Within (putMethod isStatic kind key parameters body)
      (putMethod isStatic kind key' parameters' body') := by
  have hword : methodBeginsWithWord kind key'.tree = methodBeginsWithWord kind key.tree := by
    cases kind with
    | plain kind => simp only [methodBeginsWithWord, hkey.tree.beginsWithWord_eq]
    | _ => rfl
  have hrest := within_seq (within_putMethodWord kind hkey) (within_seq hkey.bare
    (within_seq (within_inParens hparameters.full)
      (within_seq within_optionalSpace hbody.full)))
  unfold putMethod
  rw [hword]
  exact within_seq (within_leading _ _) (within_ite _ (within_seq (within_same _)
    (within_seq (within_spaceIf _) hrest)) hrest)

theorem within_putHeadPart {part part' : Part} (h : part.Within part') :
    Within (putHeadPart part) (putHeadPart part') := by
  obtain ⟨tree, write⟩ := part
  obtain ⟨tree', write'⟩ := part'
  obtain ⟨htree, hwrite⟩ := h
  cases htree with
  | node form =>
    cases form
    case variableDecl kind => exact hwrite .bare
    all_goals exact hwrite .full
  | _ => exact hwrite .full

theorem within_putLoopHead (word : String) {left left' right right' : Part}
    (hleft : left.Within left') (hright : right.Within right') :
    Within (putLoopHead word left right) (putLoopHead word left' right') := by
  unfold putLoopHead
  rw [hleft.tree.endsWithWord_eq]
  exact within_inParens (within_seq (within_putHeadPart hleft) (within_seq (within_spaceIf _)
    (within_seq (within_same _) (within_seq (within_beforeWord hright) hright.full))))

theorem within_putIf {test test' first first' second second' : Part} (htest : test.Within test')
    (hfirst : first.Within first') (hsecond : second.Within second') :
    Within (putIf test first second) (putIf test' first' second') := by
  have helse := within_seq (within_same "else")
    (within_seq (within_beforeWord hsecond) hsecond.full)
  unfold putIf
  rw [hsecond.isAbsent_eq, hfirst.tree.isBlock_eq]
  exact within_seq (within_same _) (within_seq within_optionalSpace
    (within_seq (within_inParens htest.full) (within_seq within_optionalSpace
      (within_seq hfirst.full (within_ite _
        (within_ite _ (within_seq within_optionalSpace helse) helse) within_skip)))))

theorem within_putCase {test test' : Part} {body body' : List Part} (htest : test.Within test')
    (hbody : PartsWithin body body') : Within (putCase test body) (putCase test' body') := by
  have hrest : Within (do put ":"; if !body.isEmpty then lines (body.map Part.full))
      (do put ":"; if !body'.isEmpty then lines (body'.map Part.full)) := by
    rw [hbody.isEmpty_eq]
    exact within_seq (within_same _)
      (within_ite _ (within_lines (within_fulls hbody)) within_skip)
  unfold putCase
  rw [htest.isAbsent_eq]
  exact within_ite _ (within_seq (within_same _) hrest) (within_seq (within_same _)
    (within_seq (within_beforeWord htest) (within_seq htest.full hrest)))

theorem within_putVariables (span span' : Span) (kind : VarKind) {parts parts' : List Part}
    (h : PartsWithin parts parts') :
    Within (putVariables span kind parts) (putVariables span' kind parts') := by
  have hpattern : (parts'.head?.any fun first => declaresPattern first.tree) =
      parts.head?.any fun first => declaresPattern first.tree := by
    cases h with
    | nil => rfl
    | cons hfirst => exact hfirst.tree.declaresPattern_eq
  unfold putVariables
  rw [hpattern]
  exact within_seq (within_same _) (within_seq (within_spaceIf _)
    (within_commaList _ _ within_skip (within_listed h)))

end Printing

end ScopeHoist
