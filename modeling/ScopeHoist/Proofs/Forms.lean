import ScopeHoist.Proofs.Layout

/-!
# Forms side by side

What a form writes is no more if its parts are no more, one case per form. So a tree that is no
longer takes no more text.
-/

set_option autoImplicit false

namespace ScopeHoist

open Printing

namespace Printing

/-! ## Forms with their parts -/

theorem within_initial {value value' : Part} (h : value.Within value') :
    Within (do if !value.isAbsent then do optionalSpace; put "="; optionalSpace; value.full)
      (do if !value'.isAbsent then do optionalSpace; put "="; optionalSpace; value'.full) :=
  h.whenPresent (within_seq within_optionalSpace (within_seq (within_same _)
    (within_seq within_optionalSpace h.full)))

/-! ## Statements -/

section

variable (span span' : Span) (setting : Setting)

theorem within_doWhile {body body' test test' : Part} (hbody : body.Within body')
    (htest : test.Within test') :
    Within (putStatement .doWhile span setting [body, test])
      (putStatement .doWhile span' setting [body', test']) := by
  have htests := within_seq within_optionalSpace (within_inParens htest.full)
  exact within_seq (within_same _) (within_seq (within_beforeWord hbody)
    (within_seq hbody.full (within_seq (within_same _) htests)))

theorem within_for {init init' test test' update update' body body' : Part}
    (hinit : init.Within init') (htest : test.Within test') (hupdate : update.Within update')
    (hbody : body.Within body') :
    Within (putStatement .for span setting [init, test, update, body])
      (putStatement .for span' setting [init', test', update', body']) := by
  have hupdates := within_seq (hupdate.whenPresent within_optionalSpace) hupdate.full
  have htests := within_seq (htest.whenPresent within_optionalSpace)
    (within_seq htest.full (within_seq (within_same ";") hupdates))
  refine within_seq (within_same _) (within_seq (within_inParens ?_) hbody.full)
  simp only [ite_seq]
  exact within_seq (within_putHeadPart hinit) (within_seq (within_same _) htests)

theorem within_forOf (isAwait : Bool) {left left' right right' body body' : Part}
    (hleft : left.Within left') (hright : right.Within right') (hbody : body.Within body') :
    Within (putStatement (.forOf isAwait) span setting [left, right, body])
      (putStatement (.forOf isAwait) span' setting [left', right', body']) := by
  have hrest := within_seq within_optionalSpace
    (within_seq (within_putLoopHead "of" hleft hright) hbody.full)
  exact within_seq (within_same _) (within_ite _ (within_seq (within_same _) hrest) hrest)

theorem within_switch {discriminant discriminant' : Part} {cases cases' : List Part}
    (hdiscriminant : discriminant.Within discriminant') (hcases : PartsWithin cases cases') :
    Within (putStatement .switch span setting (discriminant :: cases))
      (putStatement .switch span' setting (discriminant' :: cases')) := by
  have hlines := within_seq (within_lines (within_fulls hcases)) (within_same "\x7d")
  exact within_seq (within_same _) (within_seq (within_inParens hdiscriminant.full)
    (within_seq (within_same _) hlines))

theorem within_try {block block' handler handler' finalizer finalizer' : Part}
    (hblock : block.Within block') (hhandler : handler.Within handler')
    (hfinalizer : finalizer.Within finalizer') :
    Within (putStatement .try span setting [block, handler, finalizer])
      (putStatement .try span' setting [block', handler', finalizer']) := by
  have hfinally := hfinalizer.whenPresent (within_seq within_optionalSpace
    (within_seq (within_same "finally") hfinalizer.full))
  have hhandled := within_seq within_optionalSpace (within_seq hhandler.full hfinally)
  exact within_seq (within_same _) (within_seq within_optionalSpace (within_seq hblock.full
    (hhandler.ifPresent hhandled hfinally)))

theorem within_catch {parameter parameter' body body' : Part}
    (hparameter : parameter.Within parameter') (hbody : body.Within body') :
    Within (putStatement .catch span setting [parameter, body])
      (putStatement .catch span' setting [parameter', body']) := by
  have hbodies := within_seq within_optionalSpace hbody.full
  exact within_seq (within_same _) (within_seq within_optionalSpace
    (hparameter.ifPresent (within_seq (within_inParens hparameter.full) hbodies) hbodies))

end

section

variable (form : Form) (span span' : Span) (setting : Setting) {parts parts' : List Part}
  (h : PartsWithin parts parts')
include h

theorem within_putStatement :
    Within (putStatement form span setting parts) (putStatement form span' setting parts') := by
  cases form
  case empty | debugger => exact within_same _
  case expression =>
    rcases h with _ | ⟨hvalue, _ | _⟩
    case cons.nil => exact within_seq hvalue.full (within_same _)
    all_goals exact within_skip
  case variableDecl kind =>
    exact within_seq (within_putVariables _ _ _ h) (within_ite _ (within_same _) within_skip)
  case declarator =>
    rcases h with _ | ⟨hpattern, _ | ⟨hinit, _ | _⟩⟩
    case cons.cons.nil => exact within_seq hpattern.full (within_initial hinit)
    all_goals exact within_skip
  case functionDecl kind =>
    rcases h with _ | ⟨hname, _ | ⟨hparameters, _ | ⟨hbody, _ | _⟩⟩⟩
    case cons.cons.cons.nil =>
      exact within_seq (within_putFunctionHead kind hname) (within_seq
        (within_inParens hparameters.full) (within_seq within_optionalSpace hbody.full))
    all_goals exact within_skip
  case classDecl =>
    rcases h with _ | ⟨hname, _ | ⟨hsuperclass, hmembers⟩⟩
    case cons.cons =>
      exact within_seq (within_same _) (within_seq (within_putName within_space hname)
        (within_putClassTail _ _ hsuperclass hmembers))
    all_goals exact within_skip
  case ifThen =>
    rcases h with _ | ⟨htest, _ | ⟨hfirst, _ | ⟨hsecond, _ | _⟩⟩⟩
    case cons.cons.cons.nil => exact within_putIf htest hfirst hsecond
    all_goals exact within_skip
  case «while» =>
    rcases h with _ | ⟨htest, _ | ⟨hbody, _ | _⟩⟩
    case cons.cons.nil =>
      exact within_seq (within_same _) (within_seq (within_inParens htest.full) hbody.full)
    all_goals exact within_skip
  case doWhile =>
    rcases h with _ | ⟨hbody, _ | ⟨htest, _ | _⟩⟩
    case cons.cons.nil => exact within_doWhile _ _ _ hbody htest
    all_goals exact within_skip
  case «for» =>
    rcases h with _ | ⟨hinit, _ | ⟨htest, _ | ⟨hupdate, _ | ⟨hbody, _ | _⟩⟩⟩⟩
    case cons.cons.cons.cons.nil => exact within_for _ _ _ hinit htest hupdate hbody
    all_goals exact within_skip
  case forIn =>
    rcases h with _ | ⟨hleft, _ | ⟨hright, _ | ⟨hbody, _ | _⟩⟩⟩
    case cons.cons.cons.nil =>
      exact within_seq (within_same _)
        (within_seq (within_putLoopHead _ hleft hright) hbody.full)
    all_goals exact within_skip
  case forOf isAwait =>
    rcases h with _ | ⟨hleft, _ | ⟨hright, _ | ⟨hbody, _ | _⟩⟩⟩
    case cons.cons.cons.nil => exact within_forOf _ _ _ isAwait hleft hright hbody
    all_goals exact within_skip
  case «return» =>
    rcases h with _ | ⟨hoperand, _ | _⟩
    case cons.nil =>
      have hoperands := within_seq (within_putOperand hoperand true) (within_same ";")
      exact within_seq (within_same _) (hoperand.ifPresent hoperands (within_same _))
    all_goals exact within_skip
  case throw =>
    rcases h with _ | ⟨hoperand, _ | _⟩
    case cons.nil =>
      exact within_seq (within_same _)
        (within_seq (within_putOperand hoperand true) (within_same _))
    all_goals exact within_skip
  case «break» | «continue» =>
    rcases h with _ | ⟨hlabel, _ | _⟩
    case cons.nil =>
      exact within_seq (within_same _)
        (within_seq (within_putName within_space hlabel) (within_same _))
    all_goals exact within_skip
  case labeled =>
    rcases h with _ | ⟨hlabel, _ | ⟨hbody, _ | _⟩⟩
    case cons.cons.nil =>
      exact within_seq hlabel.bare (within_seq (within_same _)
        (within_seq within_optionalSpace hbody.full))
    all_goals exact within_skip
  case switch =>
    cases h with
    | nil => exact within_skip
    | cons hdiscriminant hcases => exact within_switch _ _ _ hdiscriminant hcases
  case case =>
    cases h with
    | nil => exact within_skip
    | cons htest hbody => exact within_putCase htest hbody
  case «try» =>
    rcases h with _ | ⟨hblock, _ | ⟨hhandler, _ | ⟨hfinalizer, _ | _⟩⟩⟩
    case cons.cons.cons.nil => exact within_try _ _ _ hblock hhandler hfinalizer
    all_goals exact within_skip
  case «catch» =>
    rcases h with _ | ⟨hparameter, _ | ⟨hbody, _ | _⟩⟩
    case cons.cons.nil => exact within_catch _ _ _ hparameter hbody
    all_goals exact within_skip
  all_goals exact within_skip

end

/-! ## Elements -/

section

variable (span span' : Span) (setting : Setting)

theorem within_accessor (isSetter : Bool) {key key' parameters parameters' body body' : Part}
    (hkey : key.Within key') (hparameters : parameters.Within parameters')
    (hbody : body.Within body') :
    Within (putElement (.accessor isSetter) span setting [key, parameters, body])
      (putElement (.accessor isSetter) span' setting [key', parameters', body']) := by
  have hbodies := within_ite (!isSetter) (within_seq within_optionalSpace hbody.full) hbody.full
  have hrest := within_seq within_optionalSpace
    (within_seq (within_inParens hparameters.full) hbodies)
  exact within_seq (within_same _)
    (within_seq (within_beforeWord hkey) (within_seq hkey.bare hrest))

theorem within_methodProperty (kind : FunctionKind)
    {key key' parameters parameters' body body' : Part} (hkey : key.Within key')
    (hparameters : parameters.Within parameters') (hbody : body.Within body') :
    Within (putElement (.method kind) span setting [key, parameters, body])
      (putElement (.method kind) span' setting [key', parameters', body']) := by
  have hbodies := within_seq within_optionalSpace hbody.full
  exact within_seq (within_putMarks kind) (within_seq hkey.bare (within_seq within_optionalSpace
    (within_seq (within_inParens hparameters.full) hbodies)))

theorem within_objectPattern {parts parts' : List Part} (h : PartsWithin parts parts') :
    Within (putElement .objectPattern span setting parts)
      (putElement .objectPattern span' setting parts') := by
  cases h with
  | nil => exact within_same _
  | cons hfirst hrest =>
    have hlist := within_commaList span.hi span'.hi within_skip
      (within_listed (.cons hfirst hrest))
    exact within_seq (within_same _) (within_seq within_optionalSpace
      (within_seq hlist (within_seq within_optionalSpace (within_same _))))

theorem within_fieldMember (isStatic : Bool) {key key' value value' : Part}
    (hkey : key.Within key') (hvalue : value.Within value') :
    Within (putElement (.fieldMember isStatic) span setting [key, value])
      (putElement (.fieldMember isStatic) span' setting [key', value']) := by
  have hinitial := within_seq within_optionalSpace (within_seq (within_same "=")
    (within_seq within_optionalSpace (within_seq hvalue.full (within_same ";"))))
  have hrest := within_seq hkey.bare (hvalue.ifPresent hinitial (within_same ";"))
  exact within_ite _ (within_seq (within_same _) hrest) hrest

end

section

variable (form : Form) (span span' : Span) (setting : Setting) {parts parts' : List Part}
  (h : PartsWithin parts parts')
include h

theorem within_putElement :
    Within (putElement form span setting parts) (putElement form span' setting parts') := by
  have hstatement := within_putStatement form span span' setting h
  cases form
  case property =>
    rcases h with _ | ⟨hkey, _ | ⟨hvalue, _ | _⟩⟩
    case cons.cons.nil =>
      exact within_seq hkey.bare (within_seq (within_same _)
        (within_seq within_optionalSpace hvalue.full))
    all_goals exact hstatement
  case shorthand =>
    rcases h with _ | ⟨hname, _ | _⟩
    case cons.nil => exact hname.bare
    all_goals exact hstatement
  case initializedShorthand =>
    rcases h with _ | ⟨hname, _ | ⟨hvalue, _ | _⟩⟩
    case cons.cons.nil => exact within_seq hname.bare (within_seq (within_same _) hvalue.full)
    all_goals exact hstatement
  case shorthandPattern =>
    rcases h with _ | ⟨hname, _ | ⟨hvalue, _ | _⟩⟩
    case cons.cons.nil => exact within_seq hname.bare (within_initial hvalue)
    all_goals exact hstatement
  case accessor isSetter =>
    rcases h with _ | ⟨hkey, _ | ⟨hparameters, _ | ⟨hbody, _ | _⟩⟩⟩
    case cons.cons.cons.nil => exact within_accessor _ _ _ isSetter hkey hparameters hbody
    all_goals exact hstatement
  case method kind =>
    rcases h with _ | ⟨hkey, _ | ⟨hparameters, _ | ⟨hbody, _ | _⟩⟩⟩
    case cons.cons.cons.nil => exact within_methodProperty _ _ _ kind hkey hparameters hbody
    all_goals exact hstatement
  case objectPattern => exact within_objectPattern _ _ _ h
  case arrayPattern =>
    exact within_inBrackets (within_commaList _ _ (within_holeComma h) (within_listed h))
  case defaulted =>
    rcases h with _ | ⟨hpattern, _ | ⟨hvalue, _ | _⟩⟩
    case cons.cons.nil =>
      exact within_seq hpattern.full (within_seq within_optionalSpace (within_seq (within_same _)
        (within_seq within_optionalSpace hvalue.full)))
    all_goals exact hstatement
  case rest =>
    rcases h with _ | ⟨hpattern, _ | _⟩
    case cons.nil => exact within_seq (within_same _) hpattern.full
    all_goals exact hstatement
  case parameters => exact within_commaList _ _ within_skip (within_listed h)
  case constructorMember =>
    rcases h with _ | ⟨hkey, _ | ⟨hparameters, _ | ⟨hbody, _ | _⟩⟩⟩
    case cons.cons.cons.nil =>
      exact within_seq (within_same _) (within_seq (within_inParens hparameters.full) hbody.full)
    all_goals exact hstatement
  case methodMember isStatic kind =>
    rcases h with _ | ⟨hkey, _ | ⟨hparameters, _ | ⟨hbody, _ | _⟩⟩⟩
    case cons.cons.cons.nil => exact within_putMethod isStatic kind hkey hparameters hbody
    all_goals exact hstatement
  case fieldMember isStatic =>
    rcases h with _ | ⟨hkey, _ | ⟨hvalue, _ | _⟩⟩
    case cons.cons.nil => exact within_fieldMember _ _ _ isStatic hkey hvalue
    all_goals exact hstatement
  case staticBlock =>
    rcases h with _ | ⟨hbody, _ | _⟩
    case cons.nil => exact within_seq (within_same _) hbody.full
    all_goals exact hstatement
  case emptyMember => exact within_same _
  all_goals exact hstatement

end

/-! ## Expressions -/

section

variable (span span' : Span) (setting : Setting)

theorem within_template (chunks : List String) {parts parts' : List Part}
    (h : PartsWithin parts parts') :
    Within (putForm (.template chunks) span setting parts)
      (putForm (.template chunks) span' setting parts') := by
  refine within_seq (within_same _) (within_seq (within_putTemplate ?_ chunks h) (within_same _))
  intro text
  split
  · exact within_same _
  · exact within_bind within_isCompact fun _ => within_ite _ (within_same _) (within_same _)

theorem within_sequence {first first' : Part} {rest rest' : List Part}
    (hfirst : first.Within first') (hrest : PartsWithin rest rest') :
    Within (putForm .sequence span setting (first :: rest))
      (putForm .sequence span' setting (first' :: rest')) := by
  refine within_seq hfirst.full ?_
  induction hrest with
  | nil => exact within_skip
  | cons hnext _ ih => exact within_seq (within_seq within_comma hnext.full) ih

theorem within_unary (op : UnaryOp) {operand operand' : Part} (h : operand.Within operand') :
    Within (putForm (.unary op) span setting [operand])
      (putForm (.unary op) span' setting [operand']) := by
  have hspace := h.tree.unaryNeedsSpace_eq op h.tree.beginsWithWord_eq
  exact within_seq (within_same _) (within_ite_of_eq hspace (within_seq within_space h.full)
    (within_ite _ (within_seq within_optionalSpace h.full) h.full))

theorem within_conditional {test test' first first' second second' : Part}
    (htest : test.Within test') (hfirst : first.Within first') (hsecond : second.Within second') :
    Within (putForm .conditional span setting [test, first, second])
      (putForm .conditional span' setting [test', first', second']) := by
  have helse := within_seq within_optionalSpace
    (within_seq (within_same ":") (within_seq within_optionalSpace hsecond.full))
  have hthen := within_seq within_optionalSpace (within_seq (within_same "?")
    (within_seq within_optionalSpace (within_seq hfirst.full helse)))
  exact within_seq htest.full hthen

theorem within_arrow (isAsync : Bool) {parameters parameters' body body' : Part}
    (hparameters : parameters.Within parameters') (hbody : body.Within body') :
    Within (putForm (.arrow isAsync) span setting [parameters, body])
      (putForm (.arrow isAsync) span' setting [parameters', body']) := by
  have hrest := within_seq (within_putArrowParameters hparameters) (within_arrowBody hbody)
  have hspace : Within (spaceIf (isSoleName parameters.tree))
      (spaceIf (isSoleName parameters'.tree)) :=
    within_ite_of_eq hparameters.tree.isSoleName_eq within_space within_optionalSpace
  exact within_ite _ (within_seq (within_same _) (within_seq hspace hrest)) hrest

end

section

variable (form : Form) (span span' : Span) (setting : Setting) {parts parts' : List Part}
  (h : PartsWithin parts parts')
include h

theorem within_putForm :
    Within (putForm form span setting parts) (putForm form span' setting parts') := by
  have helement := within_putElement form span span' setting h
  cases form
  case name | privateName | nullLiteral | boolLiteral | regexLiteral | this | superRef | importRef
      | newTarget | importMeta => exact within_same _
  case computedKey =>
    rcases h with _ | ⟨hvalue, _ | _⟩
    case cons.nil => exact within_inBrackets hvalue.full
    all_goals exact helement
  case numberLiteral raw => exact within_bind (within_putNumber raw) fun _ => within_skip
  case bigintLiteral raw =>
    exact within_bind within_isCompact fun _ => within_ite _ (within_same _) (within_same _)
  case stringLiteral value raw => exact within_putString value raw
  case template chunks => exact within_template _ _ _ chunks h
  case array =>
    cases h with
    | nil => exact within_same _
    | cons hfirst hrest =>
      exact within_inBrackets (within_commaLines _ _ (within_holeComma (.cons hfirst hrest))
        (within_listed (.cons hfirst hrest)))
  case object =>
    cases h with
    | nil => exact within_same _
    | cons hfirst hrest =>
      exact within_seq (within_same _) (within_seq
        (within_commaLines _ _ within_skip (within_listed (.cons hfirst hrest))) (within_same _))
  case sequence =>
    cases h with
    | nil => exact helement
    | cons hfirst hrest => exact within_sequence _ _ _ hfirst hrest
  case paren =>
    rcases h with _ | ⟨hvalue, _ | _⟩
    case cons.nil => exact within_inParens hvalue.full
    all_goals exact helement
  case spread | await =>
    rcases h with _ | ⟨hvalue, _ | _⟩
    case cons.nil => exact within_seq (within_same _) hvalue.full
    all_goals exact helement
  case unary op =>
    rcases h with _ | ⟨hoperand, _ | _⟩
    case cons.nil => exact within_unary _ _ _ op hoperand
    all_goals exact helement
  case update op before =>
    rcases h with _ | ⟨hoperand, _ | _⟩
    case cons.nil =>
      have hrest := within_seq hoperand.full
        (within_ite (!before) (within_same op) within_skip)
      exact within_ite _ (within_seq (within_same _) hrest) hrest
    all_goals exact helement
  case binary op =>
    rcases h with _ | ⟨hleft, _ | ⟨hright, _ | _⟩⟩
    case cons.cons.nil => exact within_putBinary op hleft hright
    all_goals exact helement
  case assign op =>
    rcases h with _ | ⟨hleft, _ | ⟨hright, _ | _⟩⟩
    case cons.cons.nil =>
      exact within_seq hleft.bare (within_seq within_optionalSpace (within_seq (within_same _)
        (within_seq within_optionalSpace hright.full)))
    all_goals exact helement
  case conditional =>
    rcases h with _ | ⟨htest, _ | ⟨hfirst, _ | ⟨hsecond, _ | _⟩⟩⟩
    case cons.cons.cons.nil => exact within_conditional _ _ _ htest hfirst hsecond
    all_goals exact helement
  case call =>
    cases h with
    | nil => exact helement
    | cons hcallee harguments =>
      exact within_seq (hcallee.write .head) (within_putArguments _ _ harguments)
  case new hasArguments =>
    cases h with
    | nil => exact helement
    | cons hcallee harguments => exact within_putNew _ _ _ _ hcallee harguments
  case member =>
    rcases h with _ | ⟨hobject, _ | ⟨hproperty, _ | _⟩⟩
    case cons.cons.nil =>
      exact within_bind (within_putObject hobject) fun _ => within_putProperty _ hproperty
    all_goals exact helement
  case index =>
    rcases h with _ | ⟨hobject, _ | ⟨hkey, _ | _⟩⟩
    case cons.cons.nil =>
      exact within_bind (within_putObject hobject) fun _ => within_inBrackets hkey.full
    all_goals exact helement
  case optionalMember asks =>
    rcases h with _ | ⟨hobject, _ | ⟨hproperty, _ | _⟩⟩
    case cons.cons.nil =>
      exact within_seq (hobject.write .head) (within_seq (within_same _) hproperty.bare)
    all_goals exact helement
  case optionalIndex asks =>
    rcases h with _ | ⟨hobject, _ | ⟨hkey, _ | _⟩⟩
    case cons.cons.nil =>
      have hend := within_inBrackets hkey.full
      exact within_seq (hobject.write .head)
        (within_ite _ (within_seq (within_same _) hend) hend)
    all_goals exact helement
  case optionalCall asks =>
    cases h with
    | nil => exact helement
    | cons hcallee harguments =>
      have hend := within_putArguments span span' harguments
      exact within_seq hcallee.full (within_ite _ (within_seq (within_same _) hend) hend)
  case taggedTemplate =>
    rcases h with _ | ⟨htag, _ | ⟨htemplate, _ | _⟩⟩
    case cons.cons.nil => exact within_seq (htag.write .head) htemplate.bare
    all_goals exact helement
  case function kind =>
    rcases h with _ | ⟨hname, _ | ⟨hparameters, _ | ⟨hbody, _ | _⟩⟩⟩
    case cons.cons.cons.nil =>
      exact within_seq (within_putFunctionHead kind hname) (within_seq
        (within_inParens hparameters.full) (within_seq within_optionalSpace hbody.full))
    all_goals exact helement
  case arrow isAsync =>
    rcases h with _ | ⟨hparameters, _ | ⟨hbody, _ | _⟩⟩
    case cons.cons.nil => exact within_arrow _ _ _ isAsync hparameters hbody
    all_goals exact helement
  case classExpr =>
    rcases h with _ | ⟨hname, _ | ⟨hsuperclass, hmembers⟩⟩
    case cons.cons =>
      exact within_seq (within_same _) (within_seq (within_putName within_space hname)
        (within_putClassTail _ _ hsuperclass hmembers))
    all_goals exact helement
  case yield delegates =>
    rcases h with _ | ⟨hoperand, _ | _⟩
    case cons.nil =>
      have hrest := hoperand.whenPresent (within_putOperand hoperand (!delegates))
      exact within_seq (within_same _) (within_ite _ (within_seq (within_same _) hrest) hrest)
    all_goals exact helement
  all_goals exact helement

end

theorem within_putEnding (form : Form) (span span' : Span) (setting : Setting) :
    Within (putEnding form span setting) (putEnding form span' setting) := by
  refine within_ite _ within_skip ?_
  split
  · exact within_skip
  · exact within_trailing _ _
  · exact within_seq (within_trailing _ _) within_optionalBreak

theorem within_printForm (form : Form) (span span' : Span) (setting : Setting)
    {parts parts' : List Part} (h : PartsWithin parts parts') :
    Within (printForm form span setting parts) (printForm form span' setting parts') := by
  have hform := within_seq (within_leading span.lo span'.lo)
    (within_seq (within_putForm form span span' setting h)
      (within_putEnding form span span' setting))
  cases form
  case absent => exact within_skip
  case block => exact within_putBlock span span' h
  all_goals exact hform

theorem within_printIdent {id id' : Ident} (setting : Setting)
    (h : id.name.utf8ByteSize ≤ id'.name.utf8ByteSize) :
    Within (printIdent id setting) (printIdent id' setting) :=
  within_seq (within_leading _ _)
    (within_seq (within_put h) (within_ite _ (within_trailing _ _) within_skip))

theorem within_keyed (span span' : Span) (key : Ident) {id id' : Ident}
    {before rest rest' : Printing Unit} (hbefore : Silent before)
    (h : id.name.utf8ByteSize ≤ id'.name.utf8ByteSize) (hrest : Within rest rest') :
    Within
      (do
        leading span.lo
        printIdent id .bare
        rest)
      (do
        leading span'.lo
        printTree (.node (.name key.name) key.span []) .bare
        put ":"
        optionalSpace
        before
        printIdent id' .full
        rest') := by
  have hbetween : Within
      (do putEnding (.name key.name) key.span .bare; put ":"; optionalSpace; before;
          leading id'.span.lo)
      (do putEnding (.name key.name) key.span .bare; put ":"; optionalSpace; before;
          leading id'.span.lo) :=
    within_seq within_skip (within_seq (within_same _) (within_seq within_optionalSpace
      (within_seq (hbefore.within hbefore) (within_leading _ _))))
  have hname := within_seq (within_put_behind key.name hbetween h)
    (within_seq (silent_skip.within (silent_trailing id'.span.hi)) hrest)
  simp only [printTree, printForm, putForm, printIdent, bind_assoc] at hname ⊢
  refine (silent_leading _).within_left ((silent_leading _).within_left ?_)
  refine (silent_leading _).within_right ((silent_leading _).within_right ?_)
  exact hname

theorem within_writtenOut (form : Form) (span span' : Span) (setting : Setting)
    (hform : endingOf form = .plain ∨ endingOf form = .commented) :
    Within (putEnding form span setting) (putEnding .property span' setting) := by
  refine within_ite _ within_skip ?_
  rcases hform with hform | hform <;> rw [hform]
  · exact silent_skip.within (silent_trailing _)
  · exact within_trailing _ _

end Printing

open Printing

section

variable (span : Span) (id : Ident) (value : Tree) (setting : Setting)

theorem printTree_shorthandPattern :
    printTree (.node .shorthandPattern span [.ident id, value]) setting = (do
      leading span.lo
      printIdent id .bare
      (if !value.isAbsent then do
        optionalSpace
        put "="
        optionalSpace
        printTree value .full
      else skip)
      putEnding .shorthandPattern span setting) := by
  simp only [printTree, printParts, printForm, putForm, putElement, Part.bare, Part.full,
    Part.isAbsent, bind_assoc, skip]
  rfl

theorem printTree_defaulted :
    printTree (.node .defaulted span [.ident id, value]) .full = (do
      leading span.lo
      printIdent id .full
      optionalSpace
      put "="
      optionalSpace
      printTree value .full
      trailing span.hi) := by
  simp only [printTree, printParts, printForm, putForm, putElement, Part.full, bind_assoc]
  rfl

theorem printTree_expanded :
    printTree (expanded id span value) setting = (do
      leading span.lo
      printTree (.node (.name id.name) id.span []) .bare
      put ":"
      optionalSpace
      printTree value .full
      putEnding .property span setting) := by
  simp only [expanded, printTree, printParts, printForm, putForm, putElement, Part.bare, Part.full,
    bind_assoc]

end

mutual
/-- A tree that is no longer takes no more text. -/
theorem within_printTree : ∀ {tree tree' : Tree}, tree.NoLonger tree' → ∀ setting,
    Within (printTree tree setting) (printTree tree' setting)
  | _, _, .ident id id' hname, setting => within_printIdent setting hname
  | _, _, .node form span span' children children' hchildren, setting =>
    within_printForm form span span' setting (within_printParts hchildren)
  | _, _, .shorthand span span' id key id' hname, setting => by
    have hkeyed := within_keyed span span' key silent_skip hname
      (within_writtenOut .shorthand span span' setting (.inr rfl))
    simp only [skip, pure_bind] at hkeyed
    rw [printTree_expanded]
    exact hkeyed
  | _, _, .shorthandPattern span span' id key id' value hname habsent, setting => by
    have hkeyed := within_keyed span span' key silent_skip hname
      (within_writtenOut .shorthandPattern span span' setting (.inl rfl))
    simp only [skip, pure_bind] at hkeyed
    rw [printTree_expanded, printTree_shorthandPattern, habsent]
    exact hkeyed
  | _, _, .shorthandDefault span span' id key id' value value' hname hpresent hvalue, setting => by
    have ih := within_printTree hvalue .full
    have hdefault := within_seq within_optionalSpace (within_seq (within_same "=")
      (within_seq within_optionalSpace (within_seq ih ((silent_trailing span'.hi).within_right
        (within_writtenOut .shorthandPattern span span' setting (.inl rfl))))))
    have hkeyed := within_keyed span span' key (silent_leading span'.lo) hname hdefault
    rw [printTree_expanded, printTree_shorthandPattern, hpresent, printTree_defaulted]
    simpa only [Bool.not_false, if_true, bind_assoc] using hkeyed

theorem within_printParts : ∀ {trees trees' : List Tree}, TreesNoLonger trees trees' →
    PartsWithin (printParts trees) (printParts trees')
  | _, _, .nil => .nil
  | _, _, .cons _ _ _ _ htree hrest =>
    .cons ⟨htree, within_printTree htree⟩ (within_printParts hrest)
end

end ScopeHoist
