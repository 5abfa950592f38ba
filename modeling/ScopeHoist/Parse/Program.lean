import ScopeHoist.Parse.Item
import ScopeHoist.Tree.Position

/-!
# Parsing programs

The grammar rules tied together, and the program that a text holds. Nesting is as deep as the text
is long at most, so the depth allowed is never used up.
-/

set_option autoImplicit false

namespace ScopeHoist

namespace Parser

/-- The rule of each phrase, over the rules of what the phrase holds. -/
def ruleOf (rule : Phrase → Parser Tree) : Phrase → Parser Tree
  | .assignment => assignment rule
  | .unary => unary rule
  | .constructed => constructed rule
  | .leftHandSide => leftHandSide rule
  | .binding reservesLet => binding rule reservesLet
  | .statement allowsDeclaration => statement rule allowsDeclaration
  | .elseIf => elseIf rule

/-- The rules down to some depth. -/
def ruleTo : Nat → Phrase → Parser Tree
  | 0, _ => fail .nesting
  | depth + 1, phrase => ruleOf (ruleTo depth) phrase

def shebang : Parser (Option String) := do
  match (← get).token with
  | .shebang text =>
    advance
    return some text
  | _ => return none

def program (depth : Nat) : Parser Program := do
  let first ← start
  let shebang ← shebang
  let items ← gather (return (← token) != .endOfSource) (item (ruleTo depth))
  return ⟨← spanFrom first, shebang, items⟩

end Parser

/-- The program of a text and its comments, positions counted from one; or else the first fault that
the parse could not go on from, or the first one noted down, counted from nought. -/
def Program.parse? (text : List Char) : Except Problem (Program × Comments) :=
  let bound := text.length + 2
  let relative := fun problem : Problem => { problem with offset := problem.offset - 1 }
  match (Parser.program (8 * bound)).run (.ofModule bound) (.initial text 1) with
  | .ok program state =>
    match state.problems.getLast? with
    | some problem => .error (relative problem)
    | none => .ok (program, state.comments)
  | .error problem _ => .error (relative problem)

/-- The program of a text and its comments, positions counted from an offset of at least one. -/
def Program.ofText? (offset : Nat) (text : List Char) : Except Problem (Program × Comments) :=
  (Program.parse? text).map fun (program, comments) =>
    (program.moved (offset - 1), comments.moved (offset - 1))

end ScopeHoist
