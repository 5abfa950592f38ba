import ScopeHoist.Parse.Pattern

/-!
# Functions

Parameter lists and bodies, for functions, methods and arrows alike.
-/

set_option autoImplicit false

namespace ScopeHoist
namespace Parser

variable (rule : Phrase → Parser Tree)

/-! ## Blocks -/

/-- Whether a block goes on. The end of the source is reported and ends it. -/
def blockGoesOn : Parser Bool := do
  match ← token with
  | .endOfSource =>
    report (.expected "\x7d" Token.endOfSource.shown)
    return false
  | token => return !token.isSign "\x7d"

/-- Statements up to and with the closing brace. -/
def blockBody : Parser (List Tree) := do
  let statements ← gather blockGoesOn (rule (.statement true))
  if !(← isEnd) then advance
  return statements

def block : Parser Tree := do
  let first ← start
  expectSign "\x7b"
  let statements ← blockBody rule
  Form.block.startingAt first statements

/-- Runs a parser for a function body: no label or loop around it counts. -/
def inBody {α : Type} (kind : FunctionKind) (isArrow : Bool) (parser : Parser α) : Parser α := do
  let labels := (← get).labels
  modify fun state => { state with labels := [] }
  let result ←
    within
      (fun around =>
        { around with
          inAsync := kind.isAsync
          inGenerator := kind.isGenerator
          inFunction := true
          inStaticBlock := false
          hasNewTarget := !isArrow || around.hasNewTarget
          allowsBreak := false
          allowsContinue := false })
      parser
  modify fun state => { state with labels }
  return result

def isStrictDirective : Tree → Bool
  | .node .expression _ [.node (.stringLiteral _ raw) _ _] =>
    raw == some "\"use strict\"" || raw == some "'use strict'"
  | _ => false

/-- A directive for the body alone would come too late for such parameters. -/
def checkDirective (parameters : List Tree) (body : Tree) : Parser Unit := do
  let isSimple := parameters.all fun tree => match tree with | .ident _ => true | _ => false
  match body with
  | .node .block _ (first :: _) =>
    if !isSimple && isStrictDirective first then reportAt .directivePlace first.span.lo
  | _ => return

def functionBody (kind : FunctionKind) (parameters : List Tree) : Parser Tree := do
  let body ← inBody kind false (block rule)
  checkDirective parameters body
  return body

def arrowBody (isAsync : Bool) (parameters : List Tree) : Parser Tree := do
  let body ← inBody ⟨isAsync, false⟩ true do
    if ← seesSign "\x7b" then block rule else rule .assignment
  checkDirective parameters body
  return body

/-- An arrow function from its arrow on. -/
def arrowTail (first : Nat) (isAsync : Bool) (parameters : List Tree) : Parser Tree := do
  let body ← arrowBody rule isAsync parameters
  (Form.arrow isAsync).startingAt first [.node .parameters .generated parameters, body]

/-! ## Parameters -/

def restParameter (first : Nat) : Parser Tree := do
  let pattern ← rule (.binding false)
  if ← eatsAssignment then
    let value ← rule .assignment
    reportAt .restInitializer pattern.span.lo
    let pattern ← Form.defaulted.startingAt first [pattern, value]
    Form.rest.startingAt first [pattern]
  else Form.rest.startingAt first [pattern]

def parameter (afterRest : Option Nat) : Parser Tree := do
  match afterRest with
  | some offset => reportAt .restParameterNotLast offset
  | none => pure ()
  let first ← start
  let pattern ← if ← eatsSign "..." then restParameter rule first else bindingElement rule
  if !(← seesSign ")") then
    expectSign ","
    if isRest pattern && (← seesSign ")") then reportAt .commaAfterRest (← previous).lo
  return pattern

def parameterList (afterRest : Option Nat) : Nat → Parser (List Tree)
  | 0 => return []
  | n + 1 => do
    if ← moreBefore ")" then
      let pattern ← parameter rule afterRest
      let afterRest := if isRest pattern then some pattern.span.lo else afterRest
      let rest ← parameterList afterRest n
      return pattern :: rest
    else return []

/-- Parameters in their parentheses, and the body behind them. -/
def functionTail (kind : FunctionKind) (check : List Tree → Parser Unit) :
    Parser (Tree × Tree) :=
  within
    (fun around => { around with inAsync := kind.isAsync, inGenerator := kind.isGenerator })
    do
      expectSign "("
      let parameters ←
        within (fun around => { around with inParameters := true, inFunction := false })
          (do parameterList rule none (← read).bound)
      check parameters
      expectSign ")"
      let body ← functionBody rule kind parameters
      return (.node .parameters .generated parameters, body)

def unchecked : List Tree → Parser Unit := fun _ => return

def checkGetter (offset : Nat) (parameters : List Tree) : Parser Unit := do
  if !parameters.isEmpty then reportAt .getterParameters offset

def checkSetter (offset : Nat) (parameters : List Tree) : Parser Unit := do
  if parameters.length != 1 then reportAt .setterParameters offset
  match parameters with
  | .node .rest span _ :: _ => reportAt .restInSetter span.lo
  | _ => return

/-- A function from its keyword on; `first` is where it starts, at the keyword or at `async`. -/
def function (first : Nat) (isAsync isDeclaration isNamed : Bool) : Parser Tree := do
  advance
  let isGenerator ← eatsOperator
  let kind : FunctionKind := ⟨isAsync, isGenerator⟩
  let name ←
    if isDeclaration then optionalBindingIdentifier isNamed false
    else
      within
        (fun around => { around with inAsync := isAsync, inGenerator := isGenerator })
        (optionalBindingIdentifier false false)
  let (parameters, body) ←
    within
      (fun around =>
        { around with allowsSuper := false, inField := false, hasNewTarget := true })
      (functionTail rule kind unchecked)
  let form := if isDeclaration && isNamed then Form.functionDecl kind else Form.function kind
  form.startingAt first [name, parameters, body]
where
  eatsOperator : Parser Bool := eats fun token => token == .operator .mul

/-- Whether an async function starts here. -/
def seesAsyncFunction : Parser Bool := do
  if !(← seesWord "async") then return false
  let (next, afterBreak) ← peek
  return next.isWord "function" && !afterBreak

end Parser
end ScopeHoist
