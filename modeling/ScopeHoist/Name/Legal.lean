import ScopeHoist.Text.IdentifierChars

/-!
# Legal names

Which texts can be written as a plain identifier in module code, and how any text is turned into
one: a hyphen in front of a word character is dropped and that character raised, every other
character that is not a letter, a digit, `_` or `$` becomes `_`, and a leading digit or a reserved
word is set off by a `_`.
-/

set_option autoImplicit false

namespace ScopeHoist

/-- Words that are never a binding name in module code. -/
def reservedWords : List String := [
  "arguments", "await", "break", "case", "catch", "class", "const", "continue", "debugger",
  "default", "delete", "do", "else", "enum", "eval", "export", "extends", "false", "finally",
  "for", "function", "if", "implements", "import", "in", "instanceof", "interface", "let", "new",
  "null", "package", "private", "protected", "public", "return", "static", "super", "switch",
  "this", "throw", "true", "try", "typeof", "undefined", "var", "void", "while", "with", "yield"]

def isReservedWord (name : String) : Bool := reservedWords.contains name

def isLegalChar (c : Char) : Bool := c == '_' || c == '$' || c.isAlphanum

/-- Legal spelling as a plain identifier: a legal character that is no digit, then legal ones, and
no reserved word. -/
def isLegalName (name : String) : Bool :=
  match name.toList with
  | [] => false
  | c :: rest => isLegalChar c && !c.isDigit && rest.all isLegalChar && !isReservedWord name

/-- Drops each hyphen in front of a word character and raises that character. -/
def camelCase : List Char → List Char
  | '-' :: c :: rest =>
    if isWordChar c then c.toUpper :: camelCase rest else '-' :: camelCase (c :: rest)
  | c :: rest => c :: camelCase rest
  | [] => []

/-- Sets off a leading digit and a reserved word, and names the empty text. -/
def setOff (chars : List Char) : List Char :=
  match chars with
  | [] => ['_']
  | c :: _ => if c.isDigit || isReservedWord (String.ofList chars) then '_' :: chars else chars

def legalName (raw : String) : String :=
  String.ofList <| setOff <|
    (camelCase raw.toList).map fun c => if isLegalChar c then c else '_'

end ScopeHoist
