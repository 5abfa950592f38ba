import ScopeHoist.Parse.Expression

/-!
# Statements

Declarations and statements. All source is module code, so statements that only looser code may
hold are faults.
-/

set_option autoImplicit false

namespace ScopeHoist
namespace Parser

variable (rule : Phrase → Parser Tree)

def condition : Parser Tree := do
  expectSign "("
  let value ← allowingIn (expression rule)
  expectSign ")"
  return value

/-! ## Declarations -/

def isPlainName : Tree → Bool
  | .ident _ => true
  | _ => false

def declaratorValue (kind : VarKind) (isLoop : Bool) (first : Nat) (pattern : Tree) :
    Parser Tree := do
  if isLoop && ((← seesWord "in") || (← seesWord "of")) then return .absent
  if ← eatsAssignment then rule .assignment
  else if kind == .constant then
    reportAt .constInitializer first
    return .absent
  else if isPlainName pattern then return .absent
  else failAt .patternInitializer first

def declarator (kind : VarKind) (isLoop : Bool) : Parser Tree := do
  let first ← start
  let pattern ← rule (.binding (kind != .hoisted))
  let value ← declaratorValue rule kind isLoop first pattern
  Form.declarator.startingAt first [pattern, value]

/-- Whether another declarator follows. A list that ends in a comma is reported. -/
def reportTrailing (keyword : Span) : Parser Bool := do
  if (← seesSign ";") || (← isEnd) then
    let span ← previous
    reportAt .trailingComma (if span == keyword then span.hi else span.lo)
    return true
  else return false

def declarators (kind : VarKind) (isLoop : Bool) (keyword : Span) : Nat → Parser (List Tree)
  | 0 => return []
  | n + 1 => do
    if ← reportTrailing keyword then return []
    let first ←
      if kind != .hoisted || !isLoop then allowingIn (declarator rule kind isLoop)
      else declarator rule kind isLoop
    if ← eatsSign "," then
      let rest ← declarators kind isLoop keyword n
      return first :: rest
    else return [first]

/-- Reads past what stands behind a declaration on its line. -/
def skipStatement : Parser Unit := do
  report .semicolonExpected
  let _ ← tryCatch (expression rule) fun _ => return .absent
  let _ ← gather (return !(← eatsStatementEnd)) advance

def varKindOf : Token → VarKind
  | .keyword "const" => .constant
  | .keyword "let" => .lexical
  | _ => .hoisted

def variableDeclaration (isLoop : Bool) : Parser Tree := do
  let first ← start
  let kind := varKindOf (← token)
  advance
  let found ← declarators rule kind isLoop (← previous) (← read).bound
  if !isLoop then
    if !(← eatsStatementEnd) then skipStatement rule
  (Form.variableDecl kind).startingAt first found

/-- Whether a declaration with `let` starts here. -/
def seesLetDeclaration : Parser Bool := do
  if ← seesWord "let" then return (← peek).1.followsLet else return false

/-- A declaration that frees what it declares, which modules cannot hold. -/
def usingDeclaration (first : Nat) : Parser Tree := do
  advance
  let found ← declarators rule .lexical false (← previous) (← read).bound
  reportAt .usingDeclaration first
  (Form.variableDecl .lexical).startingAt first found

def seesUsingDeclaration : Parser Bool := do
  if !(← seesWord "using") then return false
  let (next, afterBreak) ← peek
  return !afterBreak && (next.word?.any fun text => !isReservedInModule text)

/-! ## Jumps -/

def jumpLabel : Parser Tree := do
  if ← eatsStatementEnd then return .absent
  let id ← identifier (!(← read).inGenerator)
  expectStatementEnd
  return .node (.name id.name) id.span []

/-- Reports a jump to nowhere. -/
def checkJump (first : Nat) (isBreak : Bool) (label : Tree) : Parser Unit := do
  let around ← read
  let labels := (← get).labels
  let isUnknown := (wordOf? label).any fun text => !labels.contains text
  if isBreak then
    if isUnknown then reportAt .breakLabel first
    else if !around.allowsBreak then reportAt .breakPlace first
  else if !around.allowsContinue then reportAt .continuePlace first
  else if isUnknown then reportAt .continueLabel first

def jump (isBreak : Bool) : Parser Tree := do
  let first ← start
  advance
  let label ← jumpLabel
  checkJump first isBreak label
  (if isBreak then Form.break else Form.continue).startingAt first [label]

def returnStatement : Parser Tree := do
  let first ← start
  advance
  let value ← if ← seesStatementEnd then pure .absent else allowingIn (expression rule)
  expectStatementEnd
  if !(← read).inFunction then reportAt .returnPlace first
  Form.return.startingAt first [value]

def throwStatement : Parser Tree := do
  let first ← start
  advance
  if ← afterBreak then fail .lineBreakInThrow
  let value ← allowingIn (expression rule)
  expectStatementEnd
  Form.throw.startingAt first [value]

/-! ## Branches -/

/-- The condition and the branch of an `if`. -/
def ifHead : Parser (Tree × Tree) := do
  advance
  let test ← condition rule
  let branch ← rule (.statement false)
  return (test, branch)

def elseBranch : Parser Tree := do
  if !(← eatsWord "else") then return .absent
  if ← seesWord "if" then rule .elseIf else rule (.statement false)

def ifStatement : Parser Tree := do
  let first ← start
  let (test, branch) ← ifHead rule
  let other ← elseBranch rule
  Form.ifThen.startingAt first [test, branch, other]

/-- An `if` behind `else`; what follows its own branch is not counted as part of it. -/
def elseIf : Parser Tree := do
  let first ← start
  let (test, branch) ← ifHead rule
  let span ← spanFrom first
  let other ← elseBranch rule
  return .node .ifThen span [test, branch, other]

def caseTest (hasDefault : Bool) : Parser Tree := do
  if ← eatsWord "case" then allowingIn (expression rule)
  else
    advance
    if hasDefault then fail .severalDefaults
    return .absent

def seesCase : Parser Bool := return (← seesWord "case") || (← seesWord "default")

def switchCase (hasDefault : Bool) : Parser Tree := do
  let first ← start
  let test ← caseTest rule hasDefault
  expectSign ":"
  let body ←
    gather (return !(← isEnd) && !(← seesCase) && !(← seesSign "\x7d")) (rule (.statement true))
  Form.case.startingAt first (test :: body)

def switchCases (hasDefault : Bool) : Nat → Parser (List Tree)
  | 0 => return []
  | n + 1 => do
    if ← seesCase then
      let isDefault ← seesWord "default"
      let first ← switchCase rule hasDefault
      let rest ← switchCases (hasDefault || isDefault) n
      return first :: rest
    else return []

def switchStatement : Parser Tree := do
  let first ← start
  advance
  let discriminant ← condition rule
  expectSign "\x7b"
  let cases ←
    within (fun around => { around with allowsBreak := true })
      (do switchCases rule false (← read).bound)
  expectSign "\x7d"
  Form.switch.startingAt first (discriminant :: cases)

def catchParameter : Parser Tree := do
  if ← eatsSign "(" then
    let pattern ← rule (.binding false)
    expectSign ")"
    return pattern
  else return .absent

def catchClause : Parser Tree := do
  let first ← start
  if ← eatsWord "catch" then
    let parameter ← catchParameter rule
    let body ← block rule
    Form.catch.startingAt first [parameter, body]
  else return .absent

def finallyBlock : Parser Tree := do
  if ← eatsWord "finally" then block rule else return .absent

def tryStatement : Parser Tree := do
  let first ← start
  advance
  let body ← block rule
  let behind ← start
  let handler ← catchClause rule
  let finalizer ← finallyBlock rule
  if handler.isAbsent && finalizer.isAbsent then reportAt .semicolonExpected behind
  Form.try.startingAt first [body, handler, finalizer]

/-- A handler or a finalizer without the block in front of it. -/
def strayHandler : Parser Tree := do
  report .semicolonExpected
  let _ ← tryCatch (catchClause rule) fun _ => return .absent
  let _ ← tryCatch (finallyBlock rule) fun _ => return .absent
  return .absent

/-! ## Loops -/

def loopBody : Parser Tree :=
  within (fun around => { around with allowsBreak := true, allowsContinue := true })
    (rule (.statement false))

def whileStatement : Parser Tree := do
  let first ← start
  advance
  let test ← condition rule
  let body ← loopBody rule
  Form.while.startingAt first [test, body]

def doStatement : Parser Tree := do
  let first ← start
  advance
  let body ← loopBody rule
  expectWord "while"
  let test ← condition rule
  let _ ← eatsStatementEnd
  Form.doWhile.startingAt first [body, test]

/-- The head of a loop, by its form: the parts in front of the body. -/
structure LoopHead where
  form : Form
  parts : List Tree

def stepHead (init : Tree) : Parser LoopHead := do
  let test ←
    if ← eatsSign ";" then pure .absent
    else do
      let value ← allowingIn (expression rule)
      expectSign ";"
      pure value
  let update ← if ← seesSign ")" then pure .absent else allowingIn (expression rule)
  return ⟨.for, [init, test, update]⟩

/-- The head of a loop over values, from `in` or `of` on. -/
def eachHead (isAwait : Bool) (target : Tree) : Parser LoopHead := do
  if ← eatsWord "of" then
    let source ← allowingIn (rule .assignment)
    return ⟨.forOf isAwait, [target, source]⟩
  else
    advance
    let source ← allowingIn (expression rule)
    return ⟨.forIn, [target, source]⟩

def seesEach : Parser Bool := return (← seesWord "of") || (← seesWord "in")

def patternOffset : Tree → Nat
  | .node .declarator _ (pattern :: _) => pattern.span.lo
  | tree => tree.span.lo

/-- A loop over values declares one variable without a value. -/
def checkLoopVariables : Tree → Parser Unit
  | .node _ _ [.node .declarator _ [pattern, value]] => do
    if !value.isAbsent then reportAt .loopInitializer pattern.span.lo
  | .node _ _ (_ :: others) =>
    others.forM fun tree => reportAt .severalLoopVariables (patternOffset tree)
  | _ => return

def declaredHead (isAwait : Bool) : Parser LoopHead := do
  let declaration ← variableDeclaration rule true
  if ← seesEach then
    checkLoopVariables declaration
    eachHead rule isAwait declaration
  else
    expectSign ";"
    stepHead rule declaration

def loopHead (isAwait : Bool) : Parser LoopHead := do
  if (← seesWord "const") || (← seesWord "var") || (← seesLetDeclaration) then
    declaredHead rule isAwait
  else if ← eatsSign ";" then stepHead rule .absent
  else
    let init ←
      within
        (fun around =>
          { around with allowsIn := false, inLoopHead := true, inAwaitLoopHead := isAwait })
        (expression rule)
    if ← seesEach then eachHead rule isAwait (← patternOf .assigned init)
    else
      expectSign ";"
      stepHead rule init

def isForOf : Form → Bool
  | .forOf _ => true
  | _ => false

def forStatement : Parser Tree := do
  let first ← start
  advance
  let awaitOffset ← start
  let isAwait ← eatsWord "await"
  expectSign "("
  let head ← loopHead rule isAwait
  expectSign ")"
  let body ← loopBody rule
  if isAwait && !isForOf head.form then failAt .awaitLoop awaitOffset
  head.form.startingAt first (head.parts ++ [body])

/-! ## Labels and expressions -/

def checkLabeled (tree : Tree) : Parser Unit := do
  match tree with
  | .node (.functionDecl kind) span _ =>
    reportAt .labeledFunction span.lo
    if kind.isAsync || kind.isGenerator then reportAt .labeledGenerator span.lo
  | _ => return

/-- A statement behind its label. -/
def labeledStatement (label : Ident) : Parser Tree := do
  let labels := (← get).labels
  modify fun state => { state with labels := label.name :: labels }
  let body ←
    within (fun around => { around with allowsBreak := true }) do
      if ← seesWord "function" then
        let body ← function rule (← start) false true true
        checkLabeled body
        return body
      else rule (.statement false)
  if labels.contains label.name then reportAt (.labelTwice label.name) label.span.lo
  modify fun state => { state with labels }
  Form.labeled.startingAt label.span.lo [.node (.name label.name) label.span [], body]

/-- The end of a statement that is an expression. -/
def expressionEnd (first : Nat) (value : Tree) : Parser Tree := do
  match value with
  | .ident id => if id.name == "interface" then reportAt (.strictName id.name) id.span.lo
  | _ => pure ()
  if ← eatsStatementEnd then Form.expression.startingAt first [value]
  else
    match ← token with
    | .operator _ =>
      report .semicolonExpected
      let value ← operators rule 0 (← read).bound value
      Form.expression.startingAt first [value]
    | _ => fail .statementEndExpected

def expressionStatement : Parser Tree := do
  let first ← start
  let value ← allowingIn (expression rule)
  match value with
  | .ident id =>
    if ← eatsSign ":" then labeledStatement rule id else expressionEnd rule first value
  | value => expressionEnd rule first value

/-- `import` at the start of a statement that is no declaration, if a call or a property follows. -/
def seesImportExpression : Parser Bool := do
  if !(← seesWord "import") then return false
  let (next, _) ← peek
  return next.isSign "(" || next.isSign "."

def importStatement : Parser Tree := do
  let first ← start
  let value ← expression rule
  let _ ← eatsStatementEnd
  Form.expression.startingAt first [value]

def withStatement : Parser Tree := do
  report .withStatement
  advance
  let _ ← condition rule
  rule (.statement false)

/-- A function or class in a place for statements alone is reported. -/
def checkPlace (allowsDeclaration : Bool) : Parser Unit := do
  if !allowsDeclaration then report .declarationPlace

def keywordStatement (allowsDeclaration : Bool) (text : String) : Parser Tree := do
  match text with
  | "break" => jump true
  | "continue" => jump false
  | "debugger" =>
    let first ← start
    advance
    expectStatementEnd
    Form.debugger.startingAt first []
  | "do" => doStatement rule
  | "for" => forStatement rule
  | "function" =>
    checkPlace allowsDeclaration
    function rule (← start) false true true
  | "class" =>
    checkPlace allowsDeclaration
    classOf rule true true
  | "if" => ifStatement rule
  | "return" => returnStatement rule
  | "switch" => switchStatement rule
  | "throw" => throwStatement rule
  | "catch" => strayHandler rule
  | "finally" => strayHandler rule
  | "try" => tryStatement rule
  | "with" => withStatement rule
  | "while" => whileStatement rule
  | "var" => variableDeclaration rule false
  | "const" =>
    if allowsDeclaration then variableDeclaration rule false else expressionStatement rule
  | "let" =>
    if allowsDeclaration && (← seesLetDeclaration) then variableDeclaration rule false
    else expressionStatement rule
  | _ => expressionStatement rule

def statement (allowsDeclaration : Bool) : Parser Tree := do
  let first ← start
  if ← seesImportExpression then importStatement rule
  else if (← seesWord "import") || (← seesWord "export") then fail .importExportPlace
  else
    match ← someToken with
    | .keyword text => keywordStatement rule allowsDeclaration text
    | token =>
      if token.isSign "\x7b" then block rule
      else if ← eatsSign ";" then Form.empty.startingAt first []
      else if ← seesAsyncFunction then
        advance
        function rule first true true true
      else if allowsDeclaration && (← seesUsingDeclaration) then usingDeclaration rule first
      else expressionStatement rule

end Parser
end ScopeHoist
