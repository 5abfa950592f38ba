import ScopeHoist.Source.Fault
import ScopeHoist.Text.Decimal
import ScopeHoist.Tree.Basic

/-!
# Tokens

What the text of a module is made of. Words that the grammar reserves everywhere are keywords;
`null`, `true` and `false` are words of their own, and all other words are names.
-/

set_option autoImplicit false

namespace ScopeHoist

inductive Token where
  | endOfSource
  | name (text : String)
  | keyword (text : String)
  | literalWord (text : String)
  | sign (text : String)
  | operator (op : BinaryOp)
  | assignment (op : AssignOp)
  | string (value raw : String)
  | number (raw : String)
  | bigint (raw : String)
  | regex (pattern flags : String)
  | shebang (text : String)
  /-- Characters that make no token. -/
  | broken (problem : Problem)
  deriving DecidableEq, Repr

def keywords : List String :=
  ["await", "break", "case", "catch", "class", "const", "continue", "debugger", "default",
   "delete", "do", "else", "export", "extends", "finally", "for", "function", "if", "import",
   "in", "instanceof", "let", "new", "return", "super", "switch", "this", "throw", "try",
   "typeof", "var", "void", "while", "with", "yield"]

def literalWords : List String := ["null", "true", "false"]

def Token.ofWord (text : String) : Token :=
  if keywords.contains text then .keyword text
  else if literalWords.contains text then .literalWord text
  else .name text

/-- Words that cannot be written with escapes nor stand for a variable. -/
def isReservedInModule (text : String) : Bool :=
  keywords.contains text || literalWords.contains text
    || ["enum", "implements", "interface", "package", "private", "protected", "public"].contains
      text

/-- Names that no statement may bind. -/
def isUnbindable (text : String) : Bool := text == "eval" || text == "arguments"

/-- The value of a number literal in plain decimals. -/
def shownNumber (raw : String) : String :=
  ((numberLiteral raw).map fun x => (shortestDigits x).positional).getD "inf"

namespace Token

/-- The text of a word of any kind. -/
def word? : Token → Option String
  | .name text => some text
  | .keyword text => some text
  | .literalWord text => some text
  | _ => none

def isWord (token : Token) (text : String) : Bool := token.word? == some text

def isSign (token : Token) (text : String) : Bool := token == .sign text

/-- How a message shows the token. -/
def shown : Token → String
  | .endOfSource => "<eof>"
  | .name text => text
  | .keyword text => text
  | .literalWord text => text
  | .sign text => text
  | .operator op => op.text
  | .assignment op => op.text
  | .string value raw => "string literal (" ++ value ++ ", " ++ raw ++ ")"
  | .number raw => "numeric literal (" ++ shownNumber raw ++ ", " ++ raw ++ ")"
  | .bigint raw => "bigint literal (" ++ toString (bigintLiteral raw) ++ ", " ++ raw ++ ")"
  | .regex pattern flags => "regexp literal (" ++ pattern ++ ", " ++ flags ++ ")"
  | .shebang _ => "#!"
  | .broken _ => "<broken>"

/-- Whether a comment behind the token on its line belongs to it and not to the next one. -/
def keepsComment : Token → Bool
  | .name _ | .operator _ | .string _ _ | .number _ | .bigint _ | .regex _ _ => true
  | .sign text => [";", "\x7b", ")", ":", ".", "$\x7b", "]", "=>"].contains text
  | _ => false

/-- Whether an expression can start with the token. -/
def startsExpression : Token → Bool
  | .name _ | .literalWord _ | .string _ _ | .number _ | .bigint _ | .regex _ _ => true
  | .keyword text =>
    ["await", "function", "yield", "this", "new", "super", "class", "import", "delete", "typeof",
     "void"].contains text
  | .sign text => ["!", "~", "++", "--", "(", "[", "\x7b", "\x60", "#", "@", "$\x7b"].contains text
  | .operator op => op == .add || op == .sub
  | _ => false

/-- Whether `let` in front of the token starts a declaration. -/
def followsLet : Token → Bool
  | .name _ => true
  | .keyword text => text == "let" || text == "yield" || text == "await"
  | .sign text => text == "\x7b" || text == "["
  | _ => false

end Token

end ScopeHoist
