import ScopeHoist.Source.Comments
import ScopeHoist.Source.Token

/-!
# Gaps

What stands between two tokens: blanks, line breaks and comments. A comment belongs to the token
in front of it, the one that stands on the same line, or else to the next token.
-/

set_option autoImplicit false

namespace ScopeHoist

/-- What is left of a text, and the offset where it starts. -/
structure Cursor where
  rest : List Char
  offset : Nat

def Cursor.drop (cursor : Cursor) (count : Nat) : Cursor :=
  ⟨cursor.rest.drop count, cursor.offset + count⟩

structure Gap where
  /-- Characters read. -/
  length : Nat
  hasLineBreak : Bool
  /-- For the token in front, and for the one behind; newest first. -/
  behind : List Comment
  ahead : List Comment
  faults : List Problem

/-- Where in a gap a character stands. -/
inductive GapPart where
  | blank
  /-- In a line comment, its text backwards. -/
  | line (text : List Char) (isAhead : Bool)
  /-- In a block comment, its text backwards. -/
  | block (text : List Char) (isAhead : Bool)
  /-- Behind a block comment that a semicolon would give to the token in front. -/
  | pending (comment : Comment) (isAhead : Bool)
  /-- In a line that no module may hold. -/
  | ignored

namespace Gap

def step (gap : Gap) (count : Nat) : Gap := { gap with length := gap.length + count }

def store (gap : Gap) (comment : Comment) (isAhead : Bool) : Gap :=
  if isAhead then { gap with ahead := comment :: gap.ahead }
  else { gap with behind := comment :: gap.behind }

def storeLine (gap : Gap) (text : List Char) (isAhead : Bool) : Gap :=
  gap.store ⟨true, String.ofList text.reverse⟩ isAhead

def breakLine (gap : Gap) : Gap := { gap with hasLineBreak := true }

def report (gap : Gap) (fault : Fault) (offset : Nat) : Gap :=
  { gap with faults := gap.faults ++ [⟨fault, offset⟩] }

/-- What a line must not start with, or anywhere hold, and the fault that it makes. -/
def strayLine? (hasLineBreak : Bool) (chars : List Char) : Option Fault :=
  if "<!--".toList.isPrefixOf chars then some .legacyComment
  else if !hasLineBreak then none
  else if "-->".toList.isPrefixOf chars then some .legacyComment
  else if "<<<<<<< ".toList.isPrefixOf chars || ">>>>>>> ".toList.isPrefixOf chars
      || "=======".toList.isPrefixOf chars then
    some .conflictMarker
  else none

/-- Whether a line comment here is for the next token. -/
def lineIsAhead (gap : Gap) (front : Token) : Bool :=
  gap.hasLineBreak || (match front with | .operator _ => true | _ => false)

/-- Whether a block comment here is for the next token. The end of the source as the token in front
stands for the start. -/
def blockIsAhead (gap : Gap) (front : Token) : Bool :=
  gap.hasLineBreak || !(front == .endOfSource || front.keepsComment)

/-- Reads the gap behind a token, the first argument. -/
def read (front : Token) (start : Nat) : GapPart → List Char → Gap → Gap
  | .blank, '/' :: '/' :: rest, gap =>
    read front start (.line [] (gap.lineIsAhead front)) rest (gap.step 2)
  | .blank, '/' :: '*' :: rest, gap =>
    read front start (.block [] (gap.blockIsAhead front)) rest (gap.step 2)
  | .blank, c :: rest, gap =>
    if isBlank c then
      read front start .blank rest ((if isLineEnd c then gap.breakLine else gap).step 1)
    else
      match strayLine? gap.hasLineBreak (c :: rest) with
      | some fault =>
        read front start .ignored rest ((gap.report fault (start + gap.length)).step 1)
      | none => gap
  | .blank, [], gap => gap
  | .line text isAhead, c :: rest, gap =>
    if isLineEnd c then
      read front start .blank rest ((gap.storeLine text isAhead).breakLine.step 1)
    else read front start (.line (c :: text) isAhead) rest (gap.step 1)
  | .line text isAhead, [], gap => gap.storeLine text isAhead
  | .block text isAhead, '*' :: '/' :: rest, gap =>
    read front start (.pending ⟨false, String.ofList text.reverse⟩ isAhead) rest (gap.step 2)
  | .block text isAhead, c :: rest, gap =>
    read front start (.block (c :: text) isAhead) rest
      ((if isLineEnd c then gap.breakLine else gap).step 1)
  | .block _ _, [], gap => gap.report .unterminatedComment (start + gap.length)
  | .pending comment isAhead, '/' :: '/' :: rest, gap =>
    let gap := gap.store comment isAhead
    read front start (.line [] (gap.lineIsAhead front)) rest (gap.step 2)
  | .pending comment isAhead, '/' :: '*' :: rest, gap =>
    let gap := gap.store comment isAhead
    read front start (.block [] (gap.blockIsAhead front)) rest (gap.step 2)
  | .pending comment isAhead, c :: rest, gap =>
    if isBlank c then
      read front start (.pending comment isAhead) rest
        ((if isLineEnd c then gap.breakLine else gap).step 1)
    else
      let gap := gap.store comment (isAhead && c != ';')
      match strayLine? gap.hasLineBreak (c :: rest) with
      | some fault =>
        read front start .ignored rest ((gap.report fault (start + gap.length)).step 1)
      | none => gap
  | .pending comment isAhead, [], gap => gap.store comment isAhead
  | .ignored, c :: rest, gap =>
    if isLineEnd c then read front start .blank rest (gap.breakLine.step 1)
    else read front start .ignored rest (gap.step 1)
  | .ignored, [], gap => gap

/-- The gap behind a token. -/
def after (front : Token) (cursor : Cursor) : Gap :=
  read front cursor.offset .blank cursor.rest ⟨0, front == .endOfSource, [], [], []⟩

end Gap

end ScopeHoist
