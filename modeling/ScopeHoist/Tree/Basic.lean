/-!
# Program trees

A program is a list of items, and an item holds trees. A tree is an identifier or a form with
children, so that a walk over trees needs one rule per form that matters to it and one for all the
others. The form fixes how many children there are and what each is for; `Tree.Build` names the
shapes. A part that is left out is the form `absent`.

Identifiers are the names that scopes give a meaning to. Property names and labels are no
identifiers but the form `name`.
-/

set_option autoImplicit false

namespace ScopeHoist

/-- A stretch of source, counted over all sources of a run; generated code has the span 0 to 0. -/
structure Span where
  lo : Nat
  hi : Nat
  deriving DecidableEq, Repr, Inhabited

def Span.generated : Span := ⟨0, 0⟩

def Span.isGenerated (span : Span) : Bool := span == Span.generated

def Span.to (first last : Span) : Span := ⟨first.lo, last.hi⟩

inductive Scope where
  /-- Not resolved, or with no meaning to scopes. -/
  | unscoped
  /-- The top level of the module. -/
  | module
  /-- Declared nowhere in the module. -/
  | free
  | nested (number : Nat)
  deriving DecidableEq, Repr

/-- What tells two meanings of one spelling apart. -/
structure Identity where
  name : String
  scope : Scope
  deriving DecidableEq, Repr

structure Ident where
  name : String
  scope : Scope
  span : Span
  deriving DecidableEq, Repr

def Ident.identity (id : Ident) : Identity := ⟨id.name, id.scope⟩

def Ident.generated (name : String) : Ident := ⟨name, .unscoped, .generated⟩

inductive VarKind where
  | constant
  | lexical
  | hoisted
  deriving DecidableEq, Repr

def VarKind.word : VarKind → String
  | .constant => "const"
  | .lexical => "let"
  | .hoisted => "var"

inductive BindingKind where
  | variable (kind : VarKind)
  | functionDecl
  | classDecl
  deriving DecidableEq, Repr

def BindingKind.word : BindingKind → String
  | .variable kind => kind.word
  | .functionDecl => "function"
  | .classDecl => "class"

inductive UnaryOp where
  | minus
  | plus
  | not
  | complement
  | typeof
  | void
  | delete
  deriving DecidableEq, Repr

def UnaryOp.text : UnaryOp → String
  | .minus => "-"
  | .plus => "+"
  | .not => "!"
  | .complement => "~"
  | .typeof => "typeof"
  | .void => "void"
  | .delete => "delete"

inductive BinaryOp where
  | nullish
  | or
  | and
  | bitOr
  | bitXor
  | bitAnd
  | equal
  | notEqual
  | same
  | notSame
  | less
  | lessEqual
  | greater
  | greaterEqual
  | instanceof
  | isIn
  | shiftLeft
  | shiftRight
  | shiftRightZero
  | add
  | sub
  | mul
  | div
  | mod
  | power
  deriving DecidableEq, Repr

def BinaryOp.text : BinaryOp → String
  | .nullish => "??"
  | .or => "||"
  | .and => "&&"
  | .bitOr => "|"
  | .bitXor => "^"
  | .bitAnd => "&"
  | .equal => "=="
  | .notEqual => "!="
  | .same => "==="
  | .notSame => "!=="
  | .less => "<"
  | .lessEqual => "<="
  | .greater => ">"
  | .greaterEqual => ">="
  | .instanceof => "instanceof"
  | .isIn => "in"
  | .shiftLeft => "<<"
  | .shiftRight => ">>"
  | .shiftRightZero => ">>>"
  | .add => "+"
  | .sub => "-"
  | .mul => "*"
  | .div => "/"
  | .mod => "%"
  | .power => "**"

/-- How tightly an operator binds; `**` groups to the right, the others to the left. -/
def BinaryOp.precedence : BinaryOp → Nat
  | .nullish => 1
  | .or => 1
  | .and => 2
  | .bitOr => 3
  | .bitXor => 4
  | .bitAnd => 5
  | .equal | .notEqual | .same | .notSame => 6
  | .less | .lessEqual | .greater | .greaterEqual | .instanceof | .isIn => 7
  | .shiftLeft | .shiftRight | .shiftRightZero => 8
  | .add | .sub => 9
  | .mul | .div | .mod => 10
  | .power => 11

/-- Plain assignment, or one that applies an operator first. -/
inductive AssignOp where
  | plain
  | compound (op : BinaryOp)
  deriving DecidableEq, Repr

def AssignOp.text : AssignOp → String
  | .plain => "="
  | .compound op => op.text ++ "="

structure FunctionKind where
  isAsync : Bool
  isGenerator : Bool
  deriving DecidableEq, Repr

def FunctionKind.plain : FunctionKind := ⟨false, false⟩

inductive MethodKind where
  | plain (kind : FunctionKind)
  | getter
  | setter
  deriving DecidableEq, Repr

/-- What a tree with children is. The comments list the children. -/
inductive Form where
  | absent
  | name (text : String)
  | privateName (text : String)
  -- expression
  | computedKey
  -- literals: the interpolated expressions of a template, nothing for the others
  | nullLiteral
  | boolLiteral (value : Bool)
  | numberLiteral (raw : String)
  | bigintLiteral (raw : String)
  | stringLiteral (value : String) (raw : Option String)
  | regexLiteral (pattern flags : String)
  | template (chunks : List String)
  -- nothing
  | this
  | superRef
  | importRef
  | newTarget
  | importMeta
  -- elements, absent for a hole; properties; operands
  | array
  | object
  | sequence
  -- one operand
  | paren
  | spread
  | unary (op : UnaryOp)
  | update (op : String) (before : Bool)
  -- left and right; condition and two branches
  | binary (op : BinaryOp)
  | assign (op : AssignOp)
  | conditional
  -- callee and arguments
  | call
  | new (hasArguments : Bool)
  -- object and property; callee and arguments; `asks` for the link that has the `?.`
  | member
  | index
  | optionalMember (asks : Bool)
  | optionalIndex (asks : Bool)
  | optionalCall (asks : Bool)
  -- tag and template
  | taggedTemplate
  -- name or absent, parameters, body
  | function (kind : FunctionKind)
  -- parameters and body
  | arrow (isAsync : Bool)
  -- name or absent, superclass or absent, members
  | classExpr
  -- operand, absent if left out
  | yield (delegates : Bool)
  | await
  -- key and value; key and value of a pattern
  | property
  -- identifier; identifier and initializer
  | shorthand
  | initializedShorthand
  -- key, parameters, body
  | accessor (isSetter : Bool)
  | method (kind : FunctionKind)
  -- properties; elements, absent for a hole
  | objectPattern
  | arrayPattern
  -- pattern and default; pattern; identifier and default or absent; patterns
  | defaulted
  | rest
  | shorthandPattern
  | parameters
  -- key, parameters, body
  | constructorMember
  | methodMember (isStatic : Bool) (kind : MethodKind)
  -- key and value or absent; body; nothing
  | fieldMember (isStatic : Bool)
  | staticBlock
  | emptyMember
  -- statements; nothing; nothing; expression
  | block
  | empty
  | debugger
  | expression
  -- declarators; pattern and initializer or absent
  | variableDecl (kind : VarKind)
  | declarator
  -- name, parameters, body; name, superclass or absent, members
  | functionDecl (kind : FunctionKind)
  | classDecl
  -- condition and two branches, the second absent if left out
  | ifThen
  -- condition and body; body and condition
  | while
  | doWhile
  -- three parts of the head, each absent if left out, and body; target, source and body
  | for
  | forIn
  | forOf (isAwait : Bool)
  -- operand, absent if left out
  | return
  | throw
  -- label, absent if left out; label and statement
  | break
  | continue
  | labeled
  -- discriminant and cases; test, absent for the default, and statements
  | switch
  | case
  -- block, handler and finalizer, absent if left out; parameter or absent, and block
  | try
  | catch
  deriving Repr

inductive Tree where
  | ident (id : Ident)
  | node (form : Form) (span : Span) (children : List Tree)

instance : Inhabited Tree := ⟨.node .absent .generated []⟩

def Tree.span : Tree → Span
  | .ident id => id.span
  | .node _ span _ => span

def Tree.absent : Tree := .node .absent .generated []

def Tree.isAbsent : Tree → Bool
  | .node .absent _ [] => true
  | _ => false

/-- A string as it stands in the source, or one that still has to be quoted. -/
structure Quotation where
  value : String
  raw : Option String
  span : Span
  deriving Repr

/-- The name of an import or export: an identifier or a string. -/
inductive OuterName where
  | ident (id : Ident)
  | text (quotation : Quotation)
  deriving Repr

def OuterName.value : OuterName → String
  | .ident id => id.name
  | .text quotation => quotation.value

def OuterName.span : OuterName → Span
  | .ident id => id.span
  | .text quotation => quotation.span

inductive ImportSpecifier where
  | default (target : Ident) (span : Span)
  | aggregate (target : Ident) (span : Span)
  | named (target : Ident) (imported : Option OuterName) (span : Span)
  deriving Repr

def ImportSpecifier.target : ImportSpecifier → Ident
  | .default target _ => target
  | .aggregate target _ => target
  | .named target _ _ => target

def ImportSpecifier.span : ImportSpecifier → Span
  | .default _ span => span
  | .aggregate _ span => span
  | .named _ _ span => span

inductive ExportSpecifier where
  | aggregate (exported : OuterName) (span : Span)
  | named (origin : OuterName) (exported : Option OuterName) (span : Span)
  deriving Repr

def ExportSpecifier.span : ExportSpecifier → Span
  | .aggregate _ span => span
  | .named _ _ span => span

inductive Item where
  | statement (tree : Tree)
  | importFrom (specifiers : List ImportSpecifier) (source : Quotation) (span : Span)
  | exportDecl (decl : Tree) (span : Span)
  | exportList (specifiers : List ExportSpecifier) (span : Span)
  | exportFrom (specifiers : List ExportSpecifier) (source : Quotation) (span : Span)
  | exportStar (source : Quotation) (span : Span)
  /-- A function or class, with or without a name. -/
  | exportDefaultDecl (decl : Tree) (span : Span)
  | exportDefault (value : Tree) (span : Span)

def Item.span : Item → Span
  | .statement tree => tree.span
  | .importFrom _ _ span => span
  | .exportDecl _ span => span
  | .exportList _ span => span
  | .exportFrom _ _ span => span
  | .exportStar _ span => span
  | .exportDefaultDecl _ span => span
  | .exportDefault _ span => span

structure Program where
  span : Span
  shebang : Option String
  items : List Item

instance : Inhabited Program := ⟨⟨.generated, none, []⟩⟩

end ScopeHoist
