import ScopeHoist.Tree.Basic

/-!
# Edges of printed trees

Whether the text of a tree begins or ends with a character that would run into a word next to it.
-/

set_option autoImplicit false

namespace ScopeHoist

/-- Whether parameters are a single name. -/
def isSoleName : Tree → Bool
  | .node .parameters _ [.ident _] => true
  | _ => false

/-- Whether the printed tree begins with a word, a number or the like. -/
def beginsWithWord : Tree → Bool
  | .ident _ => true
  | .node form _ children =>
    match form, children with
    | .name _, _ | .boolLiteral _, _ | .nullLiteral, _ | .numberLiteral _, _
    | .bigintLiteral _, _ | .await, _ | .function _, _ | .classExpr, _ | .this, _ | .yield _, _
    | .new _, _ | .newTarget, _ | .importMeta, _ | .superRef, _ | .importRef, _ => true
    | .expression, first :: _ | .sequence, first :: _ | .assign _, first :: _
    | .binary _, first :: _ | .conditional, first :: _ | .call, first :: _ | .member, first :: _
    | .index, first :: _ | .optionalMember _, first :: _ | .optionalIndex _, first :: _
    | .optionalCall _, first :: _ | .taggedTemplate, first :: _ | .update _ false, first :: _ =>
      beginsWithWord first
    | .unary op, _ => op == .typeof || op == .void || op == .delete
    | .arrow isAsync, parameters :: _ => isAsync || isSoleName parameters
    | .arrow isAsync, [] => isAsync
    | .debugger, _ | .variableDecl _, _ | .functionDecl _, _ | .classDecl, _ | .ifThen, _
    | .while, _ | .doWhile, _ | .for, _ | .forIn, _ | .forOf _, _ | .return, _ | .throw, _
    | .break, _ | .continue, _ | .labeled, _ | .switch, _ | .try, _ => true
    | _, _ => false

/-- Whether the printed tree may end with a word, a number or the like. -/
def endsWithWord : Tree → Bool
  | .node .array _ _ | .node .object _ _ | .node (.stringLiteral _ _) _ _ | .node .paren _ _
  | .node (.regexLiteral _ _) _ _ | .node .arrayPattern _ _ | .node .objectPattern _ _ => false
  | .node .rest _ [pattern] => endsWithWord pattern
  | .node .defaulted _ [_, value] => endsWithWord value
  | .node (.variableDecl _) _ [declarator] => endsWithWord declarator
  | .node .declarator _ [pattern, init] =>
    if init.isAbsent then endsWithWord pattern else endsWithWord init
  | _ => true

end ScopeHoist
