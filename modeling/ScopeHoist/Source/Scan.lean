import ScopeHoist.Source.Escape
import ScopeHoist.Source.Gap

/-!
# Scanning tokens

`Scanned.next` reads the token at a cursor, which must not stand in a gap. Regular expressions
and the text of templates look like other tokens, so the parser asks for them where it expects
them.
-/

set_option autoImplicit false

namespace ScopeHoist

structure Scanned where
  token : Token
  length : Nat
  faults : List Problem

def Scanned.plain (token : Token) (length : Nat) : Scanned := ⟨token, length, []⟩

def Scanned.broken (fault : Fault) (offset length : Nat) : Scanned :=
  .plain (.broken ⟨fault, offset⟩) length

/-! ## Words -/

structure WordText where
  /-- Backwards. -/
  text : List Char
  length : Nat
  hasEscape : Bool
  faults : List Problem
  broken : Option Problem

namespace WordText

def none : WordText := ⟨[], 0, false, [], .none⟩

def push (word : WordText) (c : Char) : WordText :=
  { word with text := c :: word.text, length := word.length + 1 }

def fits (word : WordText) (value : List Char) : Bool :=
  match value.head? with
  | .none => true
  | some c => if word.text.isEmpty then isIdentifierStart c else isIdentifierPart c

def pushEscape (word : WordText) (start : Nat) (escape : Escape) : WordText :=
  { word with
    text := escape.value.reverse ++ word.text
    length := word.length + 1 + escape.length
    hasEscape := true
    faults :=
      if word.fits escape.value then word.faults
      else word.faults ++ [⟨.identifierChar, start + word.length⟩] }

def fail (word : WordText) (start : Nat) (fault : Fault) : WordText :=
  { word with broken := some ⟨fault, start + word.length⟩, length := word.length + 1 }

def read (start : Nat) (chars : List Char) (word : WordText) : WordText :=
  match chars with
  | [] => word
  | '\\' :: 'u' :: rest =>
    match unicodeEscape rest with
    | .ok escape => read start (rest.drop (escape.length - 1)) (word.pushEscape start escape)
    | .error fault => word.fail start fault
  | '\\' :: _ => word.fail start .unicodeEscapeExpected
  | c :: rest => if isIdentifierPart c then read start rest (word.push c) else word
termination_by chars.length
decreasing_by all_goals simp; try omega

end WordText

def Scanned.word (cursor : Cursor) : Scanned :=
  let word := WordText.read cursor.offset cursor.rest .none
  let text := String.ofList word.text.reverse
  match word.broken with
  | some problem => ⟨.broken problem, word.length, word.faults⟩
  | none =>
    if word.hasEscape && (isReservedInModule text) then
      .broken (.escapedReservedWord text) cursor.offset word.length
    else ⟨.ofWord text, word.length, word.faults⟩

/-! ## Strings -/

structure StringText where
  /-- Backwards. -/
  value : List Char
  length : Nat
  faults : List Problem
  broken : Option Problem

namespace StringText

def push (text : StringText) (c : Char) : StringText :=
  { text with value := c :: text.value, length := text.length + 1 }

def pushEscape (text : StringText) (start : Nat) (escape : Escape) : StringText :=
  { text with
    value := escape.value.reverse ++ text.value
    length := text.length + 1 + escape.length
    faults :=
      if escape.isLegacy then text.faults ++ [⟨.legacyOctal, start + text.length⟩]
      else text.faults }

/-- The text behind the opening quote, the closing one included. -/
def read (quote : Char) (start : Nat) (chars : List Char) (text : StringText) : StringText :=
  match chars with
  | [] => { text with faults := text.faults ++ [⟨.unterminatedString, start⟩] }
  | '\\' :: rest =>
    match escapeAt rest with
    | .ok escape => read quote start (rest.drop escape.length) (text.pushEscape start escape)
    | .error fault =>
      { text with broken := some ⟨fault, start + text.length⟩, length := text.length + 1 }
  | c :: rest =>
    if c == quote then { text with length := text.length + 1 }
    else if c == '\n' || c == '\r' then
      { text with faults := text.faults ++ [⟨.unterminatedString, start⟩] }
    else read quote start rest (text.push c)
termination_by chars.length
decreasing_by all_goals simp; try omega

end StringText

def Scanned.string (quote : Char) (cursor : Cursor) : Scanned :=
  let text := StringText.read quote cursor.offset (cursor.rest.drop 1) ⟨[], 1, [], none⟩
  let value := String.ofList text.value.reverse
  let raw := String.ofList (cursor.rest.take text.length)
  match text.broken with
  | some problem => ⟨.broken problem, text.length, text.faults⟩
  | none => ⟨.string value raw, text.length, text.faults⟩

/-! ## Numbers -/

structure DigitText where
  /-- Digits, and all characters with the separators. -/
  digits : Nat
  length : Nat
  faults : List Problem

/-- A run of digits and separators; each separator must have a digit behind it. -/
def digitText (isDigit : Char → Bool) (start : Nat) : List Char → DigitText
  | [] => ⟨0, 0, []⟩
  | '_' :: rest =>
    let text := digitText isDigit start rest
    let faults :=
      if rest.head?.any isDigit then text.faults else ⟨.numericSeparator, start⟩ :: text.faults
    ⟨text.digits, text.length + 1, faults⟩
  | c :: rest =>
    if isDigit c then
      let text := digitText isDigit start rest
      ⟨text.digits + 1, text.length + 1, text.faults⟩
    else ⟨0, 0, []⟩

namespace Scanned

def textOf (cursor : Cursor) (length : Nat) : String := String.ofList (cursor.rest.take length)

/-- A number of some length, which no identifier may follow. -/
def number (cursor : Cursor) (length : Nat) (faults : List Problem) : Scanned :=
  if (cursor.rest.drop length).head?.any fun c => c == '\\' || isIdentifierStart c then
    ⟨.broken ⟨.identifierAfterNumber, cursor.offset + length⟩, length, faults⟩
  else ⟨.number (textOf cursor length), length, faults⟩

/-- A number of some length, or a whole number of any size when an `n` follows. -/
def numberOrBigint (cursor : Cursor) (length : Nat) (faults : List Problem) : Scanned :=
  if (cursor.rest.drop length).head? == some 'n' then
    ⟨.bigint (textOf cursor (length + 1)), length + 1, faults⟩
  else number cursor length faults

/-- A number in a base that is written in front of it. -/
def basedNumber (cursor : Cursor) (isDigit : Char → Bool) (digit : String) : Scanned :=
  let text := digitText isDigit (cursor.offset + 2) (cursor.rest.drop 2)
  if text.digits == 0 then broken (.digitExpected digit) (cursor.offset + 2) (text.length + 2)
  else numberOrBigint cursor (text.length + 2) text.faults

/-- The exponent behind a decimal number of some length. -/
def exponent (cursor : Cursor) (length : Nat) (faults : List Problem) : Scanned :=
  match cursor.rest.drop length with
  | e :: rest =>
    if e == 'e' || e == 'E' then
      let sign := if rest.head? == some '+' || rest.head? == some '-' then 1 else 0
      let start := length + 1 + sign
      let text := digitText Char.isDigit (cursor.offset + start) (rest.drop sign)
      if rest.isEmpty then broken .exponentExpected (cursor.offset + length + 1) (length + 1)
      else if text.digits == 0 then
        broken (.digitExpected "a decimal") (cursor.offset + start) start
      else number cursor (start + text.length) (faults ++ text.faults)
    else number cursor length faults
  | [] => number cursor length faults

/-- The places behind the point of a decimal number, if there is a point. -/
def places (cursor : Cursor) (length : Nat) (faults : List Problem) : Scanned :=
  match cursor.rest.drop length with
  | '.' :: rest =>
    let text := digitText Char.isDigit (cursor.offset + length + 1) rest
    exponent cursor (length + 1 + text.length) (faults ++ text.faults)
  | _ => exponent cursor length faults

def decimalNumber (cursor : Cursor) : Scanned :=
  let text := digitText Char.isDigit cursor.offset cursor.rest
  let digits := (cursor.rest.take text.length).filter Char.isDigit
  let legacy : List Problem → Fault → List Problem := fun faults fault =>
    faults ++ [⟨fault, cursor.offset⟩]
  if (cursor.rest.drop text.length).head? == some 'n' then
    numberOrBigint cursor text.length text.faults
  else if text.digits ≥ 2 && digits.head? == some '0' then
    if digits.all (· == '0') || digits.all isOctalDigit then
      number cursor text.length (legacy text.faults .legacyOctal)
    else places cursor text.length (legacy text.faults .legacyDecimal)
  else places cursor text.length text.faults

def numeric (cursor : Cursor) : Scanned :=
  match cursor.rest with
  | '0' :: c :: _ =>
    if c == 'x' || c == 'X' then basedNumber cursor isHexDigit "a hexadecimal"
    else if c == 'o' || c == 'O' then basedNumber cursor isOctalDigit "an octal"
    else if c == 'b' || c == 'B' then
      basedNumber cursor (fun d => d == '0' || d == '1') "a binary"
    else decimalNumber cursor
  | _ => decimalNumber cursor

end Scanned

/-! ## Signs -/

/-- All signs, each behind those that it is the start of. -/
def signs : List (String × Token) :=
  let compound := fun op : BinaryOp => (op.text ++ "=", Token.assignment (.compound op))
  let binary := fun op : BinaryOp => (op.text, Token.operator op)
  let plain := fun text : String => (text, Token.sign text)
  [compound .shiftRightZero, plain "...", binary .same, binary .notSame, compound .power,
   compound .shiftLeft, compound .shiftRight, binary .shiftRightZero, compound .and, compound .or,
   compound .nullish, plain "=>", binary .equal, binary .notEqual, binary .lessEqual,
   binary .greaterEqual, binary .and, binary .or, binary .nullish, plain "++", plain "--",
   compound .add, compound .sub, compound .mul, compound .div, compound .mod, compound .bitAnd,
   compound .bitOr, compound .bitXor, binary .shiftLeft, binary .shiftRight, binary .power,
   binary .less, binary .greater, binary .add, binary .sub, binary .mul, binary .div, binary .mod,
   binary .bitAnd, binary .bitOr, binary .bitXor, ("=", .assignment .plain), plain "!",
   plain "~", plain "?", plain ":", plain ".", plain ",", plain ";", plain "(", plain ")",
   plain "[", plain "]", plain "\x7b", plain "\x7d", plain "@", plain "#", plain "\x60"]

def signAt (chars : List Char) : Option (String × Token) :=
  signs.find? fun sign => sign.1.toList.isPrefixOf chars

namespace Scanned

def shebang (cursor : Cursor) : Scanned :=
  let text := (cursor.rest.drop 2).takeWhile fun c => !isLineEnd c
  .plain (.shebang (String.ofList text)) (text.length + 2)

/-- The token at a cursor. -/
def next (cursor : Cursor) : Scanned :=
  match cursor.rest with
  | [] => .plain .endOfSource 0
  | c :: rest =>
    if c == '"' || c == '\'' then string c cursor
    else if c.isDigit || (c == '.' && rest.head?.any Char.isDigit) then numeric cursor
    else if c == '\\' || isIdentifierStart c then word cursor
    else
      match signAt cursor.rest with
      | some (text, token) => .plain token text.length
      | none => broken (.unexpectedChar c) cursor.offset 1

end Scanned

/-! ## Regular expressions and templates -/

/-- The length of the pattern that starts here, up to the slash that ends it. -/
def patternLength (isEscaped isInClass : Bool) : List Char → Option Nat
  | [] => none
  | c :: rest =>
    if isLineEnd c then none
    else if isEscaped then (patternLength false isInClass rest).map (· + 1)
    else if c == '/' && !isInClass then some 0
    else
      let isInClass := c == '[' || (isInClass && c != ']')
      (patternLength (c == '\\') isInClass rest).map (· + 1)

/-- The regular expression that starts at a slash. -/
def Scanned.regex (cursor : Cursor) : Scanned :=
  let rest := cursor.rest.drop 1
  match patternLength false false rest with
  | none => .broken .unterminatedRegex cursor.offset 1
  | some length =>
    let pattern := rest.take length
    let tail := rest.drop (length + 1)
    let flags : WordText :=
      if tail.head?.any isIdentifierStart then
        WordText.read (cursor.offset + length + 2) tail .none
      else .none
    match flags.broken with
    | some problem => ⟨.broken problem, length + 2 + flags.length, flags.faults⟩
    | none =>
      ⟨.regex (String.ofList pattern) (String.ofList flags.text.reverse),
        length + 2 + flags.length, flags.faults⟩

/-- The text of a template up to an interpolation or to its end. -/
structure ChunkText where
  /-- Backwards, each line end as one character. -/
  raw : List Char
  length : Nat
  /-- The first escape that means nothing. -/
  invalid : Option Problem
  isClosed : Bool

namespace ChunkText

def push (text : ChunkText) (c : Char) (count : Nat) : ChunkText :=
  { text with raw := c :: text.raw, length := text.length + count }

/-- Notes down an escape that means nothing. -/
def check (text : ChunkText) (start : Nat) (chars : List Char) : ChunkText :=
  let found : Option Fault :=
    match escapeAt chars with
    | .ok escape => if escape.isLegacy then some .legacyOctal else none
    | .error fault => some fault
  { text with invalid := text.invalid <|> found.map fun fault => ⟨fault, start + text.length⟩ }

def read (start : Nat) : List Char → ChunkText → ChunkText
  | [], text => text
  | '\x60' :: _, text => { text with isClosed := true }
  | '$' :: '\x7b' :: _, text => { text with isClosed := true }
  | '\\' :: '\r' :: '\n' :: rest, text => read start rest ((text.push '\\' 1).push '\n' 2)
  | '\\' :: c :: rest, text =>
    let written := if c == '\r' then '\n' else c
    read start rest (((text.check start (c :: rest)).push '\\' 1).push written 1)
  | '\r' :: '\n' :: rest, text => read start rest (text.push '\n' 2)
  | c :: rest, text => read start rest (text.push (if c == '\r' then '\n' else c) 1)

end ChunkText

end ScopeHoist
