import ScopeHoist.Print.Edges
import ScopeHoist.Print.Page
import ScopeHoist.Text.Decimal
import ScopeHoist.Text.Quoted

/-!
# Printing trees

`printTree` writes a tree on a page. How the children are written does not depend on how their
parent lays them out, so they are prepared first and `printForm` only puts them in their places.
-/

set_option autoImplicit false

namespace ScopeHoist

/-- What stands around a tree and decides how its end is written. -/
inductive Setting where
  /-- A value, a pattern or a statement: comments behind it are its own. -/
  | full
  /-- Comments behind it are left to what it is part of. -/
  | bare
  /-- In front of arguments, a property or a template, where `new` needs its parentheses. -/
  | head
  deriving DecidableEq

/-- A child and how to write it. -/
structure Part where
  tree : Tree
  write : Setting → Printing Unit

namespace Part

def span (part : Part) : Span := part.tree.span

def full (part : Part) : Printing Unit := part.write .full

def bare (part : Part) : Printing Unit := part.write .bare

def isAbsent (part : Part) : Bool := part.tree.isAbsent

end Part

namespace Printing

def listed (parts : List Part) : List (Span × Printing Unit) :=
  parts.map fun part => (part.span, part.full)

def putString (value : String) (raw : Option String) : Printing Unit := do
  match raw with
  | some text =>
    if !(← isCompact) || (value == "use strict" && text.toList.contains '\\') then put text
    else put (quoted value)
  | none => put (quoted value)

/-- Writes a number; the answer says whether a point behind it would be taken as its own. -/
def putNumber (raw : String) : Printing Bool := do
  if ← isCompact then
    let text := shortLiteral raw
    put text
    let isRaw := (numberLiteral raw).isNone
    return !isRaw && !text.toList.any fun c => c == '.' || c == 'e' || c == 'x'
  else
    put raw
    return raw.toList.all Char.isDigit && !(raw.length ≥ 2 && raw.toList.head? == some '0')

def putChunk (chunk : String) : Printing Unit := do
  if ← isCompact then put (templateText chunk) else put chunk

/-- Chunks of a template with the parts between them. -/
def putTemplate (chunk : String → Printing Unit) : List String → List Part → Printing Unit
  | [], _ => skip
  | [last], _ => chunk last
  | first :: rest, [] => do
    chunk first
    putTemplate chunk rest []
  | first :: rest, part :: parts => do
    chunk first
    put "$\x7b"
    part.full
    put "\x7d"
    putTemplate chunk rest parts

/-- The comments in front of the place where an operand starts. -/
def commentsBefore (tree : Tree) : Printing (List Comment) :=
  return commentsAt (← get).comments.leading tree.span.lo

/-- Whether the leftmost part of an operand is one in front of which any comment counts. -/
def hasSensitiveStart : Tree → Bool
  | .node (.assign _) _ _ | .node (.optionalMember _) _ _ | .node (.optionalIndex _) _ _
  | .node (.optionalCall _) _ _ => true
  | .node .member _ (.node .superRef _ _ :: _) | .node .index _ (.node .superRef _ _ :: _)
  | .node .call _ (.node .superRef _ _ :: _) | .node .call _ (.node .importRef _ _ :: _) => true
  | .node .call _ (first :: _) | .node .member _ (first :: _) | .node .index _ (first :: _)
  | .node (.binary _) _ (first :: _) | .node .conditional _ (first :: _)
  | .node .sequence _ (first :: _) => hasSensitiveStart first
  | _ => false

/-- Whether an operand has to stand in parentheses lest the comments in front of it cut it off. -/
def isCutOff (part : Part) : Printing Bool := do
  let found ← commentsBefore part.tree
  return found.any Comment.breaksLine || (!found.isEmpty && hasSensitiveStart part.tree)

def inParens (action : Printing Unit) : Printing Unit := do
  put "("
  action
  put ")"

/-- An operand that must start on the line of its keyword, behind a word or a sign. -/
def putOperand (behindWord : Bool) (part : Part) : Printing Unit := do
  if ← isCutOff part then inParens part.full
  else
    spaceIf (behindWord && beginsWithWord part.tree)
    part.full

def inBrackets (action : Printing Unit) : Printing Unit := do
  put "["
  action
  put "]"

/-- Statements between braces. -/
def putBlock (span : Span) (parts : List Part) : Printing Unit := do
  leading span.lo
  put "\x7b"
  if parts.isEmpty then
    if ← hasLeadingAtEnd span.hi then breakLine
  else lines (parts.map Part.full)
  leadingAtEnd span.hi
  put "\x7d"

def putMembers (span : Span) (parts : List Part) : Printing Unit := do
  put "\x7b"
  lines (parts.map Part.full)
  leadingAtEnd span.hi
  put "\x7d"

def putClassTail (span : Span) (superclass : Part) (members : List Part) : Printing Unit := do
  if !superclass.isAbsent then
    space
    put "extends"
    spaceIf (beginsWithWord superclass.tree)
    superclass.full
  optionalSpace
  putMembers span members

/-- An optional name, set off from the keyword in front of it. -/
def putName (gap : Printing Unit) (name : Part) : Printing Unit := do
  if !name.isAbsent then
    gap
    name.bare

def putFunctionHead (kind : FunctionKind) (name : Part) : Printing Unit := do
  if kind.isAsync then put "async "
  put "function"
  if kind.isGenerator then put "*"
  putName (spaceIf !kind.isGenerator) name

/-- Whether no sign of a text of its own stands between two operators of one character. -/
def runsTogether (op : BinaryOp) : Tree → Bool
  | .node (.update text true) _ _ => (op == .sub && text == "--") || (op == .add && text == "++")
  | .node (.unary inner) _ _ => (op == .sub && inner == .minus) || (op == .add && inner == .plus)
  | .node (.binary _) _ (first :: _) => runsTogether op first
  | _ => false

def unaryNeedsSpace (op : UnaryOp) (operand : Tree) : Bool :=
  match op with
  | .typeof | .void | .delete => beginsWithWord operand
  | .plus =>
    match operand with
    | .node (.update "++" true) _ _ | .node (.unary .plus) _ _ => true
    | _ => false
  | .minus =>
    match operand with
    | .node (.update "--" true) _ _ | .node (.unary .minus) _ _ => true
    | _ => false
  | _ => false

/-- A `--` in front of these would read as the end of a comment. -/
def formsCommentEnd (op : BinaryOp) : Tree → Bool
  | .node (.update "--" false) _ _ =>
    op == .greater || op == .shiftRight || op == .shiftRightZero || op == .greaterEqual
  | _ => false

def putBinary (op : BinaryOp) (left right : Part) : Printing Unit := do
  let isWord := op == .isIn || op == .instanceof
  left.full
  spaceIf (if isWord then endsWithWord left.tree else formsCommentEnd op left.tree)
  put op.text
  spaceIf (if isWord then beginsWithWord right.tree else runsTogether op right.tree)
  right.full

/-- The object of a property access; the answer says whether it needs a second point. -/
def putObject (object : Part) : Printing Bool := do
  match object.tree with
  | .node (.numberLiteral raw) span _ =>
    leading span.lo
    putNumber raw
  | _ =>
    object.write .head
    return false

def putProperty (needsPoint : Bool) (property : Part) : Printing Unit := do
  let lo := property.span.lo
  if needsPoint then
    if lo ≥ 2 then leading (lo - 2)
    put "."
  if lo ≥ 1 then leading (lo - 1)
  put "."
  property.bare

def putArguments (span : Span) (arguments : List Part) : Printing Unit :=
  inParens (commaList span.hi (listed arguments) skip)

/-- A trailing hole of an array needs one more comma. -/
def endsInHole (parts : List Part) : Bool := (parts.getLast?.map Part.isAbsent).getD false

def holeComma (parts : List Part) : Printing Unit := if endsInHole parts then comma else skip

def putNew (span : Span) (hasArguments keepsEmpty : Bool) (callee : Part) (arguments : List Part) :
    Printing Unit := do
  put "new"
  spaceIf (beginsWithWord callee.tree)
  callee.full
  if hasArguments then
    if !((← isCompact) && arguments.isEmpty && !keepsEmpty) then putArguments span arguments

/-- The parameters of an arrow; a compact page writes a single name without parentheses. -/
def putArrowParameters (parameters : Part) : Printing Unit := do
  if isSoleName parameters.tree && (← isCompact) then parameters.full
  else inParens parameters.full

def methodBeginsWithWord (kind : MethodKind) (key : Tree) : Bool :=
  match kind with
  | .plain kind => kind.isAsync || (!kind.isGenerator && beginsWithWord key)
  | .getter | .setter => true

/-- What stands in front of the key of a method. -/
def putMarks (kind : FunctionKind) : Printing Unit := do
  if kind.isAsync then put "async "
  if kind.isGenerator then put "*"

def putMethodWord (kind : MethodKind) (key : Tree) : Printing Unit :=
  match kind with
  | .plain kind => putMarks kind
  | .getter => do
    put "get"
    spaceIf (beginsWithWord key)
  | .setter => do
    put "set"
    spaceIf (beginsWithWord key)

def putMethod (isStatic : Bool) (kind : MethodKind) (key parameters body : Part) :
    Printing Unit := do
  leading key.span.lo
  if isStatic then
    put "static"
    spaceIf (methodBeginsWithWord kind key.tree)
  putMethodWord kind key.tree
  key.bare
  inParens parameters.full
  optionalSpace
  body.full

/-- The first part of a loop head, without the semicolon of a declaration. -/
def putHeadPart (part : Part) : Printing Unit :=
  match part.tree with
  | .node (.variableDecl _) _ _ => part.bare
  | _ => part.full

/-- The head of a loop over values, in parentheses. -/
def putLoopHead (word : String) (left right : Part) : Printing Unit :=
  inParens do
    putHeadPart left
    spaceIf (endsWithWord left.tree)
    put word
    spaceIf (beginsWithWord right.tree)
    right.full

def isBlock : Tree → Bool
  | .node .block _ _ => true
  | _ => false

def putIf (test first second : Part) : Printing Unit := do
  put "if"
  optionalSpace
  inParens test.full
  optionalSpace
  first.full
  if !second.isAbsent then
    if isBlock first.tree then optionalSpace
    put "else"
    spaceIf (beginsWithWord second.tree)
    second.full

def putCase (test : Part) (body : List Part) : Printing Unit := do
  if test.isAbsent then put "default"
  else
    put "case"
    spaceIf (beginsWithWord test.tree)
    test.full
  put ":"
  if !body.isEmpty then lines (body.map Part.full)

def isPatternStart : Tree → Bool
  | .node .arrayPattern _ _ | .node .objectPattern _ _ => true
  | _ => false

def declaresPattern : Tree → Bool
  | .node .declarator _ (pattern :: _) => isPatternStart pattern
  | _ => false

/-- Declarators behind their keyword, without the semicolon. -/
def putVariables (span : Span) (kind : VarKind) (declarators : List Part) : Printing Unit := do
  put kind.word
  spaceIf !(declarators.head?.any fun first => declaresPattern first.tree)
  commaList span.hi (listed declarators) skip

/-- The words and signs of a statement around its parts, in the order of `Form`. -/
def putStatement (form : Form) (span : Span) (setting : Setting) (parts : List Part) :
    Printing Unit :=
  match form, parts with
  | .empty, _ => put ";"
  | .debugger, _ => put "debugger;"
  | .expression, [value] => do
    value.full
    put ";"
  | .variableDecl kind, declarators => do
    putVariables span kind declarators
    if setting != .bare then put ";"
  | .declarator, [pattern, init] => do
    pattern.full
    if !init.isAbsent then
      optionalSpace
      put "="
      optionalSpace
      init.full
  | .functionDecl kind, [name, parameters, body] => do
    putFunctionHead kind name
    inParens parameters.full
    optionalSpace
    body.full
  | .classDecl, name :: superclass :: members => do
    put "class"
    putName space name
    putClassTail span superclass members
  | .ifThen, [test, first, second] => putIf test first second
  | .while, [test, body] => do
    put "while"
    inParens test.full
    body.full
  | .doWhile, [body, test] => do
    put "do"
    spaceIf (beginsWithWord body.tree)
    body.full
    put "while"
    optionalSpace
    inParens test.full
  | .for, [init, test, update, body] => do
    put "for"
    inParens do
      putHeadPart init
      put ";"
      if !test.isAbsent then optionalSpace
      test.full
      put ";"
      if !update.isAbsent then optionalSpace
      update.full
    body.full
  | .forIn, [left, right, body] => do
    put "for"
    putLoopHead "in" left right
    body.full
  | .forOf isAwait, [left, right, body] => do
    put "for"
    if isAwait then put " await"
    optionalSpace
    putLoopHead "of" left right
    body.full
  | .return, [operand] => do
    put "return"
    if !operand.isAbsent then putOperand true operand
    put ";"
  | .throw, [operand] => do
    put "throw"
    putOperand true operand
    put ";"
  | .break, [label] => do
    put "break"
    putName space label
    put ";"
  | .continue, [label] => do
    put "continue"
    putName space label
    put ";"
  | .labeled, [label, body] => do
    label.bare
    put ":"
    optionalSpace
    body.full
  | .switch, discriminant :: cases => do
    put "switch"
    inParens discriminant.full
    put "\x7b"
    lines (cases.map Part.full)
    put "\x7d"
  | .case, test :: body => putCase test body
  | .try, [block, handler, finalizer] => do
    put "try"
    optionalSpace
    block.full
    if !handler.isAbsent then
      optionalSpace
      handler.full
    if !finalizer.isAbsent then
      optionalSpace
      put "finally"
      finalizer.full
  | .catch, [parameter, body] => do
    put "catch"
    optionalSpace
    if !parameter.isAbsent then inParens parameter.full
    optionalSpace
    body.full
  | _, _ => skip

/-- The words and signs of what literals, patterns and classes are made of, or of a statement. -/
def putElement (form : Form) (span : Span) (setting : Setting) (parts : List Part) :
    Printing Unit :=
  match form, parts with
  | .property, [key, value] => do
    key.bare
    put ":"
    optionalSpace
    value.full
  | .shorthand, [name] => name.bare
  | .initializedShorthand, [name, value] => do
    name.bare
    put "="
    value.full
  | .shorthandPattern, [name, value] => do
    name.bare
    if !value.isAbsent then
      optionalSpace
      put "="
      optionalSpace
      value.full
  | .accessor isSetter, [key, parameters, body] => do
    put (if isSetter then "set" else "get")
    spaceIf (beginsWithWord key.tree)
    key.bare
    optionalSpace
    inParens parameters.full
    if !isSetter then optionalSpace
    body.full
  | .method kind, [key, parameters, body] => do
    putMarks kind
    key.bare
    optionalSpace
    inParens parameters.full
    optionalSpace
    body.full
  | .objectPattern, [] => put "\x7b\x7d"
  | .objectPattern, parts => do
    put "\x7b"
    optionalSpace
    commaList span.hi (listed parts) skip
    optionalSpace
    put "\x7d"
  | .arrayPattern, parts => inBrackets (commaList span.hi (listed parts) (holeComma parts))
  | .defaulted, [pattern, value] => do
    pattern.full
    optionalSpace
    put "="
    optionalSpace
    value.full
  | .rest, [pattern] => do
    put "..."
    pattern.full
  | .parameters, parts => commaList span.hi (listed parts) skip
  | .constructorMember, [_, parameters, body] => do
    put "constructor"
    inParens parameters.full
    body.full
  | .methodMember isStatic kind, [key, parameters, body] =>
    putMethod isStatic kind key parameters body
  | .fieldMember isStatic, [key, value] => do
    if isStatic then put "static "
    key.bare
    if !value.isAbsent then
      optionalSpace
      put "="
      optionalSpace
      value.full
    put ";"
  | .staticBlock, [body] => do
    put "static"
    body.full
  | .emptyMember, _ => put ";"
  | form, parts => putStatement form span setting parts

/-- The words and signs of a form around its children. -/
def putForm (form : Form) (span : Span) (setting : Setting) (parts : List Part) :
    Printing Unit :=
  match form, parts with
  | .name text, _ => put text
  | .privateName text, _ => put ("#" ++ text)
  | .computedKey, [value] => inBrackets value.full
  | .nullLiteral, _ => put "null"
  | .boolLiteral value, _ => put (if value then "true" else "false")
  | .numberLiteral raw, _ => do let _ ← putNumber raw
  | .bigintLiteral raw, _ => do
    if ← isCompact then put (shortBigint raw) else put raw
  | .stringLiteral value raw, _ => putString value raw
  | .regexLiteral pattern flags, _ => put ("/" ++ pattern ++ "/" ++ flags)
  | .template chunks, parts => do
    put "\x60"
    putTemplate (if setting == .bare then put else putChunk) chunks parts
    put "\x60"
  | .this, _ => put "this"
  | .superRef, _ => put "super"
  | .importRef, _ => put "import"
  | .newTarget, _ => put "new.target"
  | .importMeta, _ => put "import.meta"
  | .array, [] => put "[]"
  | .array, parts => inBrackets (commaLines span.hi (listed parts) (holeComma parts))
  | .object, [] => put "\x7b\x7d"
  | .object, parts => do
    put "\x7b"
    commaLines span.hi (listed parts) skip
    put "\x7d"
  | .sequence, first :: rest => do
    first.full
    rest.forM fun part => do
      comma
      part.full
  | .paren, [value] => inParens value.full
  | .spread, [value] => do
    put "..."
    value.full
  | .unary op, [operand] => do
    put op.text
    if unaryNeedsSpace op operand.tree then space
    else if op == .typeof || op == .void || op == .delete then optionalSpace
    operand.full
  | .update op before, [operand] => do
    if before then put op
    operand.full
    if !before then put op
  | .binary op, [left, right] => putBinary op left right
  | .assign op, [left, right] => do
    left.bare
    optionalSpace
    put op.text
    optionalSpace
    right.full
  | .conditional, [test, first, second] => do
    test.full
    optionalSpace
    put "?"
    optionalSpace
    first.full
    optionalSpace
    put ":"
    optionalSpace
    second.full
  | .call, callee :: arguments => do
    callee.write .head
    putArguments span arguments
  | .new hasArguments, callee :: arguments =>
    putNew span hasArguments (setting == .head) callee arguments
  | .member, [object, property] => do
    putProperty (← putObject object) property
  | .index, [object, key] => do
    let _ ← putObject object
    inBrackets key.full
  | .optionalMember asks, [object, property] => do
    object.write .head
    put (if asks then "?." else ".")
    property.bare
  | .optionalIndex asks, [object, key] => do
    object.write .head
    if asks then put "?."
    inBrackets key.full
  | .optionalCall asks, callee :: arguments => do
    callee.full
    if asks then put "?."
    putArguments span arguments
  | .taggedTemplate, [tag, template] => do
    tag.write .head
    template.bare
  | .function kind, [name, parameters, body] => do
    putFunctionHead kind name
    inParens parameters.full
    optionalSpace
    body.full
  | .arrow isAsync, [parameters, body] => do
    if isAsync then
      put "async"
      spaceIf (isSoleName parameters.tree)
    putArrowParameters parameters
    put "=>"
    if isBlock body.tree then body.full else indented body.full
  | .classExpr, name :: superclass :: members => do
    put "class"
    putName space name
    putClassTail span superclass members
  | .yield delegates, [operand] => do
    put "yield"
    if delegates then put "*"
    if !operand.isAbsent then putOperand (!delegates) operand
  | .await, [operand] => do
    put "await "
    operand.full
  | form, parts => putElement form span setting parts

/-- How the end of a form is written. -/
inductive Ending where
  | plain
  /-- Comments behind it are written. -/
  | commented
  /-- Comments behind it are written, and the line ends. -/
  | line

def endingOf : Form → Ending
  | .name _ | .privateName _ | .computedKey | .superRef | .importRef | .spread | .rest
  | .shorthandPattern | .parameters | .constructorMember | .methodMember _ _ | .fieldMember _
  | .staticBlock | .emptyMember | .block | .declarator | .case | .catch | .absent => .plain
  | .empty | .debugger | .expression | .variableDecl _ | .functionDecl _ | .classDecl | .ifThen
  | .while | .doWhile | .for | .forIn | .forOf _ | .return | .throw | .break | .continue
  | .labeled | .switch | .try => .line
  | _ => .commented

def putEnding (form : Form) (span : Span) (setting : Setting) : Printing Unit :=
  if setting == .bare then skip
  else
    match endingOf form with
    | .plain => skip
    | .commented => trailing span.hi
    | .line => do
      trailing span.hi
      optionalBreak

end Printing

open Printing in
/-- Writes a form, its children prepared. -/
def printForm (form : Form) (span : Span) (setting : Setting) (parts : List Part) :
    Printing Unit :=
  match form with
  | .absent => skip
  | .block => putBlock span parts
  | form => do
    leading span.lo
    putForm form span setting parts
    putEnding form span setting

open Printing in
def printIdent (id : Ident) (setting : Setting) : Printing Unit := do
  leading id.span.lo
  put id.name
  if setting != .bare then trailing id.span.hi

mutual
def printTree : Tree → Setting → Printing Unit
  | .ident id, setting => printIdent id setting
  | .node form span children, setting => printForm form span setting (printParts children)

def printParts : List Tree → List Part
  | [] => []
  | tree :: rest => ⟨tree, printTree tree⟩ :: printParts rest
end

end ScopeHoist
