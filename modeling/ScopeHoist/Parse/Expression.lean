import ScopeHoist.Parse.Member

/-!
# Expressions

From assignments down to literals. What stands between parentheses is read as expressions first,
and an arrow behind them makes it parameters.
-/

set_option autoImplicit false

namespace ScopeHoist
namespace Parser

variable (rule : Phrase → Parser Tree)

def expression : Parser Tree := do
  let first ← rule .assignment
  if ← seesSign "," then
    let rest ← gather (eatsSign ",") (rule .assignment)
    Form.sequence.startingAt first.span.lo (first :: rest)
  else return first

/-! ## Templates -/

/-- Takes a sign inside a template, where no gap is read. -/
def takeSign (text : String) (cursor : Cursor) : Parser Unit :=
  modify fun state => state.take cursor (.plain (.sign text) text.length)

/-- The text behind the present sign, up to the next one. -/
def templateChunk (opening : Nat) (isTagged : Bool) : Parser String := do
  let cursor := (← get).behind
  let chunk := ChunkText.read cursor.offset cursor.rest ⟨[], 0, none, false⟩
  if !chunk.isClosed then throw ⟨.unterminatedTemplate, opening⟩
  match chunk.invalid with
  | some problem => if !isTagged then throw problem
  | none => pure ()
  let next := cursor.drop chunk.length
  takeSign (if next.rest.head? == some '\x60' then "\x60" else "$\x7b") next
  return String.ofList chunk.raw.reverse

def templateParts (opening : Nat) (isTagged : Bool) : Nat → Parser (List String × List Tree)
  | 0 => return ([], [])
  | n + 1 => do
    let chunk ← templateChunk opening isTagged
    if ← seesSign "\x60" then
      advance
      return ([chunk], [])
    else
      advance
      let value ← allowingIn (expression rule)
      if !(← seesSign "\x7d") then fail (.expected "\x7d" (← get).token.shown)
      let (chunks, values) ← templateParts opening isTagged n
      return (chunk :: chunks, value :: values)

def template (isTagged : Bool) : Parser Tree := do
  let first ← start
  let (chunks, values) ← templateParts rule first isTagged (← read).bound
  (Form.template chunks).startingAt first values

/-! ## Arguments and elements -/

def spreadOrValue : Parser Tree := do
  let first ← start
  if ← eatsSign "..." then
    let value ← allowingIn (rule .assignment)
    Form.spread.startingAt first [value]
  else rule .assignment

/-- One argument and what separates it from the next. -/
def argument (opening : Nat) (isImport : Bool) : Parser Tree := do
  let value ← allowingIn (spreadOrValue rule)
  if (← moreBefore ")") then
    expectSign ","
    if isImport && (← seesSign ")") then failAt .importTrailingComma opening
  return value

def arguments (isImport : Bool) : Parser (List Tree) := do
  let opening ← start
  expectSign "("
  let values ← gather (moreBefore ")") (argument rule opening isImport)
  expectSign ")"
  return values

def arrayElement (opening : Nat) : Parser Tree := do
  if ← eatsSign "," then return .absent
  let value ← allowingIn (spreadOrValue rule)
  if !(← seesSign "]") then
    expectSign ","
    if ← seesSign "]" then rememberComma opening (some (← previous).lo)
  return value

def arrayLiteral : Parser Tree := do
  let first ← start
  advance
  let elements ← gather (moreBefore "]") (arrayElement rule first)
  expectSign "]"
  Form.array.startingAt first elements

/-! ## Binary operators -/

/-- The operator that the present token is. -/
def binaryOp? (allowsIn : Bool) : Token → Option BinaryOp
  | .operator op => some op
  | .keyword "in" => if allowsIn then some .isIn else none
  | .keyword "instanceof" => some .instanceof
  | _ => none

def isLogical : Tree → Bool
  | .node (.binary op) _ _ => op == .and || op == .or
  | _ => false

def reportMixed (op : BinaryOp) (left right : Tree) : Parser Unit := do
  match op with
  | .nullish =>
    if isLogical left then reportAt .nullishMixed left.span.lo
    if isLogical right then reportAt .nullishMixed right.span.lo
  | .and | .or =>
    match left with
    | .node (.binary .nullish) span _ => reportAt .nullishMixed span.lo
    | _ => return
  | _ => return

def checkPower (op : BinaryOp) (left : Tree) : Parser Unit := do
  match op, left with
  | .power, .node (.unary _) _ _ | .power, .node .await _ _ => fail .unaryInPower
  | _, _ => return

/-- Operators behind an operand that bind tighter than a given precedence. -/
def operators (lowest : Nat) : Nat → Tree → Parser Tree
  | 0, left => return left
  | n + 1, left => do
    match binaryOp? (← read).allowsIn (← token) with
    | none => return left
    | some op =>
      if op.precedence ≤ lowest then return left
      advance
      checkPower op left
      let operand ← rule .unary
      let right ←
        operators (if op == .power then op.precedence - 1 else op.precedence) n operand
      reportMixed op left right
      operators lowest n (.node (.binary op) (left.span.to right.span) [left, right])

/-! ## Parentheses and arrows -/

/-- An item between parentheses, and the comma behind it if the closing parenthesis follows. -/
def parenItem : Parser (Tree × Option Nat) := do
  let item ← spreadOrValue rule
  if ← seesSign ")" then return (item, none)
  expectSign ","
  if ← seesSign ")" then return (item, some (← previous).lo)
  return (item, none)

def parenItems : Parser (List Tree × Option Nat) := do
  expectSign "("
  let found ← gather (moreBefore ")") (parenItem rule)
  expectSign ")"
  return (found.map Prod.fst, found.getLast?.bind Prod.snd)

def reportAssignmentProperties (items : List Tree) : Parser Unit :=
  items.forM fun item =>
    match item with
    | .node .object _ parts =>
      parts.forM fun part =>
        match part with
        | .node .initializedShorthand span _ => reportAt .assignmentProperty span.lo
        | _ => return
    | _ => return

def checkNoSpread (items : List Tree) : Parser Unit :=
  items.forM fun item =>
    match item with
    | .node .spread _ [value] => failAt .spreadInParens value.span.lo
    | _ => return

/-- Items that no arrow follows. -/
def parenthesized (first : Nat) (items : List Tree) : Parser Tree := do
  checkNoSpread items
  match items with
  | [] => failAt .emptyParens first
  | [item] => Form.paren.startingAt first [item]
  | item :: rest =>
    let last := (rest.getLast?.map Tree.span).getD item.span
    Form.paren.startingAt first [.node .sequence (item.span.to last) items]

/-- Behind the body of an arrow function in braces no operator may stand. -/
def arrowEnd (arrow : Tree) : Parser Tree := do
  match arrow, (← get).token with
  | .node (.arrow _) _ [_, .node .block _ _], .operator _ =>
    report .semicolonExpected
    let tree ← operators rule 0 (← read).bound arrow
    if !(← seesStatementEnd) then report .semicolonExpected
    return tree
  | _, _ => return arrow

/-- An arrow function whose parameters are read, or else a call of `async` or parentheses. -/
def parenOrArrow (asyncSpan : Option Span) (allowsArrow : Bool) : Parser Tree := do
  let first ← match asyncSpan with | some span => pure span.lo | none => start
  let (items, comma) ← allowingIn (parenItems rule)
  if ← seesSign "=>" then
    if ← afterBreak then failAt .arrowLineBreak first
    if !allowsArrow then failAt .arrowPlace first
    advance
    let parameters ← parametersOf comma items
    checkParameters parameters
    arrowEnd rule (← arrowTail rule first asyncSpan.isSome parameters)
  else
    reportAssignmentProperties items
    match asyncSpan with
    | some span => Form.call.startingAt first (.ident ⟨"async", .unscoped, span⟩ :: items)
    | none => parenthesized first items

/-- An arrow function that begins with `async` and a name. -/
def asyncNameArrow (first : Nat) : Parser Tree := do
  let id ← bindingIdentifier false
  expectSign "=>"
  arrowTail rule first true [.ident id]

/-- A name, or an arrow function with the name as its parameter. -/
def nameOrArrow (first : Nat) (allowsArrow : Bool) : Parser Tree := do
  let around ← read
  let id ← identifier (!around.inGenerator)
  let sameLine := !(← afterBreak)
  if allowsArrow && id.name == "async" && sameLine && (← seesBindingIdentifier) then
    if around.inLoopHead && (← seesWord "of") && !(← peeksSign "=>") then
      if !around.inAwaitLoopHead then reportAt .asyncOfLoop id.span.lo
      return .ident id
    asyncNameArrow rule first
  else if allowsArrow && sameLine && (← seesSign "=>") then
    advance
    if isUnbindable id.name then reportAt .strictBinding id.span.lo
    arrowTail rule first false [.ident id]
  else return .ident id

/-! ## Primary expressions -/

def knownFlags : List Char := ['d', 'g', 'i', 'm', 's', 'u', 'v', 'y']

def checkFlags (flags : List Char) (offset : Nat) : Parser Unit := do
  if flags.any fun flag => !knownFlags.contains flag then reportAt .regexFlags offset
  match knownFlags.find? fun flag => flags.count flag > 1 with
  | some flag => reportAt (.regexFlagTwice flag) offset
  | none => return

/-- A regular expression, which starts like a division. -/
def regexLiteral : Parser Tree := do
  let first ← start
  modify fun state => state.take state.here (.regex state.here)
  match ← token with
  | .regex pattern flags =>
    advance
    checkFlags flags.toList first
    (Form.regexLiteral pattern flags).startingAt first []
  | _ => fail .expressionExpected

def seesSlash : Parser Bool :=
  sees fun token => token == .operator .div || token == .assignment (.compound .div)

/-- Whether the present word can stand for a variable. -/
def seesReference : Parser Bool :=
  sees fun token =>
    match token.word? with
    | some text => text == "let" || !isReservedInModule text
    | none => false

def asyncPrimary (first : Nat) (allowsArrow : Bool) : Parser Tree := do
  let (next, afterBreak) ← peek
  if next.isWord "function" && !afterBreak then
    advance
    function rule first true false false
  else if allowsArrow && next.isSign "(" && !afterBreak then
    advance
    parenOrArrow rule (some (← previous)) allowsArrow
  else nameOrArrow rule first allowsArrow

def wordPrimary (first : Nat) (allowsArrow : Bool) (text : String) : Parser Tree := do
  if text == "this" then
    advance
    Form.this.startingAt first []
  else if text == "async" then asyncPrimary rule first allowsArrow
  else if text == "function" then function rule first false false false
  else if text == "class" then classOf rule false false
  else if ← seesReference then nameOrArrow rule first allowsArrow
  else fail .expressionExpected

def primary : Parser Tree := do
  let first ← start
  let allowsArrow := (← read).arrowStart == first
  let token := (← get).token
  match literalForm? token with
  | some form =>
    advance
    form.startingAt first []
  | none =>
    match token.word? with
    | some text => wordPrimary rule first allowsArrow text
    | none =>
      if token.isSign "[" then arrayLiteral rule
      else if token.isSign "\x7b" then objectLiteral rule
      else if token.isSign "(" then parenOrArrow rule none allowsArrow
      else if token.isSign "\x60" then template rule false
      else if token.isSign "#" then privateName
      else if ← seesSlash then regexLiteral
      else fail .expressionExpected

/-! ## Members and calls -/

def isOptionalChain : Tree → Bool
  | .node (.optionalMember _) _ _ | .node (.optionalIndex _) _ _
  | .node (.optionalCall _) _ _ => true
  | _ => false

def isSuper : Tree → Bool
  | .node .superRef _ _ => true
  | _ => false

def isImport : Tree → Bool
  | .node .importRef _ _ => true
  | _ => false

/-- An access to a property of what stands in front, a name or a key. -/
def access (object property : Tree) (isKey asks isBare : Bool) : Parser Tree := do
  if isSuper object then
    if asks && (← read).allowsSuper then fail (if isBare then .superCall else .superPlace)
    if !(← read).allowsSuper then fail .superPlace
    match property with
    | .node (.privateName _) _ _ => if !isKey then fail .superCall
    | _ => pure ()
  let form :=
    if isOptionalChain object || asks then
      if isKey then Form.optionalIndex asks else Form.optionalMember asks
    else if isKey then .index
    else .member
  form.startingAt object.span.lo [object, property]

def callOn (object : Tree) (asks : Bool) : Parser Tree := do
  let values ← arguments rule (isImport object)
  if asks || isOptionalChain object then
    if isSuper object || isImport object then fail .superOptional
    (Form.optionalCall asks).startingAt object.span.lo (object :: values)
  else Form.call.startingAt object.span.lo (object :: values)

def taggedTemplate (tag : Tree) : Parser Tree := do
  let text ← template rule true
  if isOptionalChain tag then reportAt .optionalTemplate tag.span.lo
  Form.taggedTemplate.startingAt tag.span.lo [tag, text]

/-- Reads past a question mark in front of a point, which asks whether there is an object. -/
def eatsQuestion : Parser Bool := do
  if (← seesSign "?") && (← peeksSign ".") then
    advance
    return true
  else return false

/-- Behind `super` or `import` something has to follow. -/
def checkAlone (object : Tree) (isBare : Bool) : Parser Unit := do
  if isSuper object then fail (if isBare then .superCall else .superPlace)
  else if isImport object then fail .importPlace

/-- One more access, call or template behind an expression. In a bare one calls are left to what
it is part of. -/
def subscript (isBare : Bool) (object : Tree) : Parser (Option Tree) := do
  let _ ← token
  let asks ← eatsQuestion
  let next ← if asks then peek else pure (.endOfSource, false)
  if asks && next.1.isSign "[" then advance
  if ← eatsSign "[" then
    let key ← allowingIn (expression rule)
    expectSign "]"
    return some (← access object key true asks isBare)
  else if asks && next.1.isSign "(" then
    advance
    return some (← callOn rule object true)
  else if !isBare && (← seesSign "(") then return some (← callOn rule object false)
  else if ← eatsSign "." then
    let property ← memberName
    return some (← access object property false asks isBare)
  else
    checkAlone object isBare
    if ← seesSign "\x60" then return some (← taggedTemplate rule object)
    return none

def subscripts (isBare : Bool) (object : Tree) : Parser Tree := grow (subscript rule isBare) object

/-- `super`, with what follows it. -/
def superAccess (isBare : Bool) : Parser Tree := do
  let first ← start
  advance
  subscripts rule isBare (← Form.superRef.startingAt first [])

/-- A call of `import` or `import.meta`, with what follows it. -/
def importAccess (isBare : Bool) : Parser Tree := do
  let first ← start
  advance
  if ← eatsSign "." then
    let (text, _) ← anyWord
    if text != "meta" then unexpected "meta"
    subscripts rule isBare (← Form.importMeta.startingAt first [])
  else subscripts rule isBare (← Form.importRef.startingAt first [])

def newTarget (first : Nat) : Parser Tree := do
  if !(← eatsWord "target") then unexpected "target"
  let around ← read
  if !around.hasNewTarget && !around.inParameters && !around.inClass then
    reportAt .newTargetPlace first
  subscripts rule true (← Form.newTarget.startingAt first [])

def checkConstructed (callee : Tree) : Parser Unit := do
  match callee with
  | .node .member _ (object :: _) | .node .index _ (object :: _) =>
    if isOptionalChain object then failAt .optionalConstructor object.span.lo
  | callee => if isOptionalChain callee then failAt .optionalConstructor callee.span.lo

def newExpression : Parser Tree := do
  let first ← start
  advance
  if ← eatsSign "." then newTarget rule first
  else
    let callee ← rule .constructed
    checkConstructed callee
    if ← seesSign "(" then
      let values ← arguments rule false
      subscripts rule true (← (Form.new true).startingAt first (callee :: values))
    else (Form.new false).startingAt first [callee]

def isArrow : Tree → Bool
  | .node (.arrow _) _ _ => true
  | _ => false

/-- An expression with accesses but no calls behind it. -/
def constructed : Parser Tree := do
  if ← seesWord "new" then newExpression rule
  else if ← seesWord "super" then superAccess rule true
  else if ← seesWord "import" then importAccess rule true
  else
    let object ← primary rule
    if isArrow object then return object else subscripts rule true object

def leftHandSide : Parser Tree := do
  if ← seesWord "super" then superAccess rule false
  else if ← seesWord "import" then importAccess rule false
  else
    let callee ← constructed rule
    match callee with
    | .node (.arrow _) _ _ => return callee
    | .node (.new false) _ _ => return callee
    | callee =>
      if ← seesSign "(" then subscripts rule false (← callOn rule callee false)
      else return callee

/-! ## Operators on one operand -/

def unaryOp? : Token → Option UnaryOp
  | .keyword "delete" => some .delete
  | .keyword "void" => some .void
  | .keyword "typeof" => some .typeof
  | .operator .add => some .plus
  | .operator .sub => some .minus
  | .sign "~" => some .complement
  | .sign "!" => some .not
  | _ => none

def updateText? : Token → Option String
  | .sign "++" => some "++"
  | .sign "--" => some "--"
  | _ => none

def checkUpdated (tree : Tree) : Parser Unit := do
  if !isSimpleTarget tree then reportAt .simpleTarget tree.span.lo

/-- An operand whose fault is noted down, so that the parse goes on with nothing in its place. -/
def operandOrNothing : Parser Tree :=
  tryCatch (rule .unary) fun problem => do
    modify fun state => { state with problems := problem :: state.problems }
    return .absent

def unaryTail (first : Nat) (op : UnaryOp) : Parser Tree := do
  advance
  let operand ← operandOrNothing rule
  match op, operand with
  | .delete, .ident id => reportAt .deletedIdentifier id.span.lo
  | _, _ => pure ()
  return .node (.unary op) ⟨first, operand.span.hi⟩ [operand]

def seesCloser : Parser Bool := seesTrailing [")", "]", ";", ","]

def awaitExpression : Parser Tree := do
  let first ← start
  let around ← read
  advance
  if ← seesStar then fail .awaitStar
  if !around.inAsync && (← seesCloser) then
    reportAt .awaitName first
    return .ident ⟨"await", .unscoped, ← spanFrom first⟩
  if around.inFunction && !around.inAsync then report .awaitPlace
  if around.inParameters && !around.inFunction then report .awaitInParameters
  let operand ← rule .unary
  Form.await.startingAt first [operand]

def updateExpression : Parser Tree := do
  let operand ← leftHandSide rule
  if isArrow operand || (← afterBreak) then return operand
  match updateText? (← get).token with
  | some text =>
    checkUpdated operand
    advance
    (Form.update text false).startingAt operand.span.lo [operand]
  | none => return operand

def unary : Parser Tree := do
  let first ← start
  let token := (← get).token
  match updateText? token, unaryOp? token with
  | some text, _ =>
    advance
    let operand ← rule .unary
    checkUpdated operand
    return .node (.update text true) ⟨first, operand.span.hi⟩ [operand]
  | none, some op => unaryTail rule first op
  | none, none =>
    if token.isWord "await" then awaitExpression rule else updateExpression rule

/-! ## Whole expressions -/

/-- The first operand. One that is missing in front of an operator is noted down. -/
def firstOperand : Parser Tree :=
  tryCatch (rule .unary) fun problem => do
    match binaryOp? (← read).allowsIn (← someToken) with
    | some _ =>
      report .expressionExpected
      return .absent
    | none => throw problem

def binary : Parser Tree := do
  let left ← firstOperand rule
  if isArrow left then return left else operators rule 0 (← read).bound left

def conditional : Parser Tree := do
  let first ← start
  let test ← binary rule
  if isArrow test then return test
  if ← eatsSign "?" then
    let yes ← allowingIn (rule .assignment)
    expectSign ":"
    let no ← rule .assignment
    return .node .conditional ⟨first, no.span.hi⟩ [test, yes, no]
  else return test

def yieldExpression : Parser Tree := do
  let first ← start
  let around ← read
  advance
  if around.inParameters && !around.inFunction then
    failAt .yieldInParameters (← previous).lo
  let hasOperand := (← seesStar) || (← seesSlash) || (← get).token.startsExpression
  if (← seesStatementEnd) || !hasOperand then (Form.yield false).startingAt first [.absent]
  else
    let delegates ← eatsStar
    let operand ← rule .assignment
    (Form.yield delegates).startingAt first [operand]

/-- Forms that an assignment can have on its left once they are read as patterns. -/
def isAssignable : Tree → Bool
  | .ident _ | .node .member _ _ | .node .index _ _ | .node (.optionalMember _) _ _
  | .node (.optionalIndex _) _ _ | .node (.optionalCall _) _ _ | .node .paren _ _
  | .node .arrayPattern _ _ | .node .objectPattern _ _ | .node .absent _ _ => true
  | _ => false

def assignmentTail (first : Nat) (target : Tree) : Parser Tree := do
  match (← get).token with
  | .assignment op =>
    let target ←
      if op == .plain then patternOf .assigned target
      else do
        if !isSimpleTarget target then reportAt .simpleTarget target.span.lo
        pure target
    if !isAssignable target then failAt .assignmentForm target.span.lo
    advance
    let value ← rule .assignment
    (Form.assign op).startingAt first [target, value]
  | _ => return target

/-- Whether an arrow function can begin with the token. -/
def startsArrow : Token → Bool
  | .name _ => true
  | .keyword "yield" => true
  | .sign "(" => true
  | _ => false

def assignment : Parser Tree := do
  if (← read).inGenerator && (← seesWord "yield") then yieldExpression rule
  else
    let token ← someToken
    let first ← start
    let arrowStart := if startsArrow token then first else 0
    let value ← within (fun around => { around with arrowStart }) (conditional rule)
    match value with
    | .node (.arrow _) _ _ | .node .conditional _ _ | .node (.binary _) _ _
    | .node (.unary _) _ _ | .node (.update _ _) _ _ => return value
    | value => assignmentTail rule first value

end Parser
end ScopeHoist
