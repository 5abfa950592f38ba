import ScopeHoist.Source.Comments
import ScopeHoist.Tree.Basic

/-!
# Pages

A page collects printed text: it indents the first text of each line, never leaves a line empty,
and takes comments from their table as the positions come by. A compact page drops optional blanks
and line breaks, does not indent, and has no comments.
-/

set_option autoImplicit false

namespace ScopeHoist

structure Page where
  text : String
  indent : Nat
  atLineStart : Bool
  compact : Bool
  comments : Comments

def Page.blank (compact : Bool) (comments : Comments) : Page :=
  ⟨"", 0, true, compact, if compact then .none else comments⟩

def indentText (depth : Nat) : String := String.ofList (List.replicate (4 * depth) ' ')

/-- What stands in front of the next text. -/
def Page.margin (page : Page) : String :=
  if page.atLineStart && !page.compact then indentText page.indent else ""

abbrev Printing := StateM Page

namespace Printing

def skip : Printing Unit := pure ()

def isCompact : Printing Bool := return (← get).compact

def put (text : String) : Printing Unit :=
  modify fun page =>
    { page with
      text := page.text ++ page.margin ++ text
      atLineStart := false }

def space : Printing Unit := put " "

/-- A blank that a compact page leaves out. -/
def optionalSpace : Printing Unit := do
  if !(← isCompact) then put " "

/-- A blank that a compact page writes only where it is needed. -/
def spaceIf (needed : Bool) : Printing Unit := if needed then space else optionalSpace

def breakLine : Printing Unit :=
  modify fun page =>
    if page.atLineStart then page else { page with text := page.text ++ "\n", atLineStart := true }

/-- A line break that a compact page leaves out. -/
def optionalBreak : Printing Unit := do
  if !(← isCompact) then breakLine

def indented (action : Printing Unit) : Printing Unit := do
  modify fun page => { page with indent := page.indent + 1 }
  action
  modify fun page => { page with indent := page.indent - 1 }

def putLines : List String → Printing Unit
  | [] => skip
  | [line] => put line
  | line :: rest => do
    put line
    breakLine
    putLines rest

def putComment (behind : Bool) (comment : Comment) : Printing Unit := do
  if behind then space
  if comment.isLine then
    put "//"
    put comment.text
    breakLine
  else
    put "/*"
    putLines (comment.text.splitOn "\n")
    put "*/"
    space

/-- Writes the comments that stand in front of a position. -/
def leading (position : Nat) : Printing Unit := do
  if position == 0 then return
  let page ← get
  let found := commentsAt page.comments.leading position
  set { page with
    comments := { page.comments with leading := dropComments page.comments.leading position } }
  found.forM (putComment false)

/-- Writes the comments that stand in front of the last token of something that ends here. -/
def leadingAtEnd (position : Nat) : Printing Unit := do
  leading position
  leading (position - 1)

def hasLeadingAtEnd (position : Nat) : Printing Bool := do
  let table := (← get).comments.leading
  return position != 0
    && !(commentsAt table position ++ commentsAt table (position - 1)).isEmpty

/-- Writes the comments that stand behind something that ends here. -/
def trailing (position : Nat) : Printing Unit := do
  if position == 0 then return
  let page ← get
  let found := commentsAt page.comments.trailing position
  set { page with
    comments := { page.comments with trailing := dropComments page.comments.trailing position } }
  found.forM (putComment true)

/-- Items with something between them and behind the last. A separator takes the comments in front
of the last token of the item that it follows. -/
def separated (parentEnd : Nat) (separator last : Printing Unit) :
    List (Span × Printing Unit) → Printing Unit
  | [] => skip
  | [(span, action)] => do
    action
    last
    if span.hi != parentEnd then leadingAtEnd span.hi
  | (span, action) :: rest => do
    action
    if span.hi != parentEnd then leadingAtEnd span.hi
    separator
    separated parentEnd separator last rest

def comma : Printing Unit := do
  put ","
  optionalSpace

/-- A list on one line. -/
def commaList (parentEnd : Nat) (items : List (Span × Printing Unit)) (last : Printing Unit) :
    Printing Unit :=
  separated parentEnd comma last items

/-- A list with an item a line, indented, between line breaks. -/
def commaLines (parentEnd : Nat) (items : List (Span × Printing Unit)) (last : Printing Unit) :
    Printing Unit := do
  optionalBreak
  indented (separated parentEnd (do put ","; optionalBreak) last items)
  optionalBreak

/-- Items that end their lines themselves, indented. -/
def lines (items : List (Printing Unit)) : Printing Unit := do
  optionalBreak
  indented (items.forM fun item => do item; optionalBreak)

end Printing

end ScopeHoist
