import ScopeHoist.Source.Scan

/-!
# Parsing

A parser reads tokens one after the other and sees the present one; it can look at the one behind
it. A fault that a module can be read past is noted down, any other one ends the parse.

Grammar rules call each other through a function from phrases to parsers, which `Parse.Program`
ties together. It is an argument of the rules, so none of them is recursive.
-/

set_option autoImplicit false

namespace ScopeHoist

/-- What the place in the module makes of what is written there. -/
structure Surroundings where
  /-- More than the number of tokens, for loops to end. -/
  bound : Nat
  /-- Where an arrow function may begin. -/
  arrowStart : Nat
  allowsIn : Bool
  inAsync : Bool
  inGenerator : Bool
  inFunction : Bool
  inParameters : Bool
  inStaticBlock : Bool
  inClass : Bool
  inField : Bool
  allowsSuper : Bool
  /-- Inside a function that has a `this` of its own. -/
  hasNewTarget : Bool
  allowsBreak : Bool
  allowsContinue : Bool
  /-- In the first part of a loop head. -/
  inLoopHead : Bool
  inAwaitLoopHead : Bool

def Surroundings.ofModule (bound : Nat) : Surroundings :=
  ⟨bound, 0, true, false, false, false, false, false, false, false, false, false, false, false,
    false, false⟩

structure ParseState where
  token : Token
  span : Span
  /-- Whether a line ends between the token in front and the present one. -/
  afterBreak : Bool
  /-- At the present token, and behind it. -/
  here : Cursor
  behind : Cursor
  previous : Span
  comments : Comments
  /-- Newest first. -/
  problems : List Problem
  labels : List String
  /-- The commas in front of closing brackets, by the offset of the opening one. -/
  trailingCommas : List (Nat × Nat)

namespace ParseState

/-- Takes a scanned token for the present one. -/
def take (state : ParseState) (start : Cursor) (scanned : Scanned) : ParseState :=
  { state with
    token := scanned.token
    span := ⟨start.offset, start.offset + scanned.length⟩
    here := start
    behind := start.drop scanned.length
    problems := scanned.faults.reverse ++ state.problems }

/-- Files the comments of a gap in front of a token. -/
def keepComments (state : ParseState) (gap : Gap) (token : Token) (start : Nat) : ParseState :=
  let behind := gap.behind.reverse
  let ahead := gap.ahead.reverse
  let comments := state.comments
  if token == .endOfSource && state.token != .endOfSource then
    if behind.isEmpty && ahead.isEmpty then state
    else
      { state with
        comments := ⟨comments.leading, (state.span.hi, behind ++ ahead) :: comments.trailing⟩ }
  else
    let start := if token == .endOfSource then state.span.hi else start
    let leading := if ahead.isEmpty then comments.leading else (start, ahead) :: comments.leading
    let trailing :=
      if behind.isEmpty then comments.trailing
      else (state.span.hi, behind) :: comments.trailing
    { state with comments := ⟨leading, trailing⟩ }

/-- On to the next token. -/
def advance (state : ParseState) : ParseState :=
  let gap := Gap.after state.token state.behind
  let start := state.behind.drop gap.length
  let scanned := Scanned.next start
  let state := { state with problems := gap.faults.reverse ++ state.problems }
  let state := state.keepComments gap scanned.token start.offset
  { state.take start scanned with previous := state.span, afterBreak := gap.hasLineBreak }

/-- In front of the first token of a text. -/
def initial (chars : List Char) (offset : Nat) : ParseState :=
  let cursor : Cursor := ⟨chars, offset⟩
  let state : ParseState :=
    ⟨.endOfSource, ⟨offset, offset⟩, true, cursor, cursor, ⟨offset, offset⟩, .none, [], [], []⟩
  if "#!".toList.isPrefixOf chars then state.take cursor (.shebang cursor) else state.advance

/-- Where the present token starts; the end of the last one when there is none. -/
def start (state : ParseState) : Nat :=
  if state.token == .endOfSource then state.previous.hi else state.span.lo

/-- Where a fault of the present token stands; at the last one when there is none. -/
def faultOffset (state : ParseState) : Nat :=
  if state.token == .endOfSource then state.previous.lo else state.span.lo

/-- Whether a statement can end here without a semicolon. -/
def endsStatement (state : ParseState) : Bool :=
  state.token == .endOfSource || state.token.isSign "\x7d" || state.afterBreak

end ParseState

abbrev Parser := ReaderT Surroundings (EStateM Problem ParseState)

/-- What grammar rules can ask for in turn. -/
inductive Phrase where
  | assignment
  | unary
  /-- What stands behind `new`. -/
  | constructed
  | leftHandSide
  | binding (reservesLet : Bool)
  /-- A statement; some places have no room for a declaration. -/
  | statement (allowsDeclaration : Bool)
  /-- An `if` behind `else`. -/
  | elseIf

namespace Parser

/-! ## Faults -/

/-- Ends the parse. -/
def failAt {α : Type} (fault : Fault) (offset : Nat) : Parser α := do
  match (← get).token with
  | .broken problem => throw problem
  | _ => throw ⟨fault, offset⟩

def fail {α : Type} (fault : Fault) : Parser α := do failAt fault (← get).faultOffset

def unexpected {α : Type} (wanted : String) : Parser α := do
  fail (.unexpected (← get).token.shown wanted)

/-- Notes a fault down and goes on. -/
def reportAt (fault : Fault) (offset : Nat) : Parser Unit :=
  modify fun state =>
    match state.token with
    | .broken problem =>
      { state with problems := ⟨fault, offset⟩ :: problem :: state.problems }
    | _ => { state with problems := ⟨fault, offset⟩ :: state.problems }

def report (fault : Fault) : Parser Unit := do reportAt fault (← get).faultOffset

/-! ## The present token -/

/-- The present token, which must not be broken. -/
def token : Parser Token := do
  let state ← get
  match state.token with
  | .broken problem => throw problem
  | token => return token

/-- The present token, which must exist. -/
def someToken : Parser Token := do
  match ← token with
  | .endOfSource => throw ⟨.endOfSource, (← get).previous.hi⟩
  | token => return token

def isEnd : Parser Bool := return (← get).token == .endOfSource

def sees (test : Token → Bool) : Parser Bool := return test (← get).token

def seesSign (text : String) : Parser Bool := return (← get).token.isSign text

def seesWord (text : String) : Parser Bool := return (← get).token.isWord text

def seesAssignment : Parser Bool := return (← get).token == .assignment .plain

def afterBreak : Parser Bool := return (← get).afterBreak

def start : Parser Nat := return (← get).start

def previous : Parser Span := return (← get).previous

/-- From an offset to the end of the last token. -/
def spanFrom (first : Nat) : Parser Span := return ⟨first, (← get).previous.hi⟩

def advance : Parser Unit := modify ParseState.advance

/-- The token behind the present one, and whether a line ends between them. -/
def peek : Parser (Token × Bool) := do
  let next := (← get).advance
  return (next.token, next.afterBreak)

def peeksSign (text : String) : Parser Bool := return (← peek).1.isSign text

def eats (test : Token → Bool) : Parser Bool := do
  if ← sees test then
    advance
    return true
  else return false

def eatsSign (text : String) : Parser Bool := eats fun token => token.isSign text

def eatsWord (text : String) : Parser Bool := eats fun token => token.isWord text

def eatsAssignment : Parser Bool := eats fun token => token == .assignment .plain

def expect (text : String) (test : Token → Bool) : Parser Unit := do
  if !(← eats test) then fail (.expected text (← get).token.shown)

def expectSign (text : String) : Parser Unit := expect text fun token => token.isSign text

def expectWord (text : String) : Parser Unit := expect text fun token => token.isWord text

/-- Whether the statement ends here, with a semicolon or without. -/
def seesStatementEnd : Parser Bool := do
  let state ← get
  return state.token.isSign ";" || state.endsStatement

def eatsStatementEnd : Parser Bool := do
  if ← eatsSign ";" then return true
  return (← get).endsStatement

def expectStatementEnd : Parser Unit := do
  if !(← eatsStatementEnd) then fail (.expected ";" (← get).token.shown)

/-! ## Loops -/

def gatherFor {α : Type} (more : Parser Bool) (item : Parser α) : Nat → Parser (List α)
  | 0 => return []
  | n + 1 => do
    if ← more then
      let first ← item
      let rest ← gatherFor more item n
      return first :: rest
    else return []

/-- Items as long as there are more; each reads at least one token. -/
def gather {α : Type} (more : Parser Bool) (item : Parser α) : Parser (List α) := do
  gatherFor more item (← read).bound

/-- Whether more follows in front of a closing sign. -/
def moreBefore (close : String) : Parser Bool := do
  return !(← isEnd) && !(← seesSign close)

def growFor {α : Type} (step : α → Parser (Option α)) : Nat → α → Parser α
  | 0, value => return value
  | n + 1, value => do
    match ← step value with
    | some next => growFor step n next
    | none => return value

/-- Lets a value grow as long as it does. -/
def grow {α : Type} (step : α → Parser (Option α)) (value : α) : Parser α := do
  growFor step (← read).bound value

/-! ## Surroundings -/

def within {α : Type} (change : Surroundings → Surroundings) (parser : Parser α) : Parser α :=
  withReader change parser

def allowingIn {α : Type} (parser : Parser α) : Parser α :=
  within (fun around => { around with allowsIn := true }) parser

end Parser

/-- A node from an offset to the last token. -/
def Form.startingAt (form : Form) (first : Nat) (children : List Tree) : Parser Tree :=
  return .node form (← Parser.spanFrom first) children

end ScopeHoist
