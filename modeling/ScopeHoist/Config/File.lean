import ScopeHoist.Config.Settings
import ScopeHoist.Text.Quoted

/-!
# Settings files

A settings file has one `key = value` a line, with comments behind `#`. A value is a string, a
flag or a list of strings. Tables, numbers and dates are no settings, so a file that holds any is
refused like one that is malformed.
-/

set_option autoImplicit false

namespace ScopeHoist

namespace SettingsFile

/-! Readers answer what was read and what is left. -/

def isBlank (c : Char) : Bool := c == ' ' || c == '\t'

def skipBlanks (chars : List Char) : List Char := chars.dropWhile isBlank

/-- Characters that may stand in a string or a comment of one line. -/
def isLineChar (c : Char) : Bool := c == '\t' || (c.toNat ≥ 32 && c.toNat != 127)

/-- Behind a comment, if there is one. -/
def skipComment : List Char → List Char
  | '#' :: rest => rest.dropWhile isLineChar
  | chars => chars

def skipLineBreak? : List Char → Option (List Char)
  | '\n' :: rest => some rest
  | '\r' :: '\n' :: rest => some rest
  | _ => none

/-- Behind blanks, comments and line breaks. -/
def skipGap : Nat → List Char → List Char
  | 0, chars => chars
  | fuel + 1, chars =>
    match skipLineBreak? (skipComment (skipBlanks chars)) with
    | some rest => skipGap fuel rest
    | none => skipBlanks chars

def hexNumber? (chars : List Char) : Option Nat :=
  chars.foldl (fun n? c => do return 16 * (← n?) + (← hexValue? c)) (some 0)

/-- A character given by a fixed number of hexadecimal digits. -/
def codePoint (count : Nat) (chars : List Char) : Option (Char × List Char) := do
  let digits := chars.take count
  if digits.length < count then none
  else
    let n ← hexNumber? digits
    if n < 0xd800 || (0xe000 ≤ n && n < 0x110000) then
      some (Char.ofNat n, chars.drop count)
    else none

/-- What stands behind a backslash. -/
def escape : List Char → Option (Char × List Char)
  | 'b' :: rest => some ('\x08', rest)
  | 't' :: rest => some ('\t', rest)
  | 'n' :: rest => some ('\n', rest)
  | 'f' :: rest => some ('\x0c', rest)
  | 'r' :: rest => some ('\r', rest)
  | '"' :: rest => some ('"', rest)
  | '\\' :: rest => some ('\\', rest)
  | 'u' :: rest => codePoint 4 rest
  | 'U' :: rest => codePoint 8 rest
  | _ => none

/-- A string in double quotes, from behind the first one. -/
def basicString : Nat → List Char → Option (List Char × List Char)
  | 0, _ => none
  | _ + 1, '"' :: rest => some ([], rest)
  | fuel + 1, '\\' :: rest => do
    let (c, rest) ← escape rest
    let (text, rest) ← basicString fuel rest
    return (c :: text, rest)
  | fuel + 1, c :: rest => do
    if isLineChar c then
      let (text, rest) ← basicString fuel rest
      return (c :: text, rest)
    else none
  | _ + 1, [] => none

/-- A string in single quotes, from behind the first one. -/
def literalString (chars : List Char) : Option (List Char × List Char) :=
  let text := chars.takeWhile fun c => c != '\'' && isLineChar c
  match chars.drop text.length with
  | '\'' :: rest => some (text, rest)
  | _ => none

/-- The quotes that close a string of several lines: up to two more belong to the string. -/
def closingQuotes (quote : Char) (chars : List Char) : Option (List Char × List Char) :=
  let count := (chars.takeWhile (· == quote)).length
  if count < 3 then none
  else
    let kept := min (count - 3) 2
    some (List.replicate kept quote, chars.drop (kept + 3))

/-- Behind a backslash at the end of a line: blanks and line breaks up to the next text. -/
def skipFold : Nat → List Char → List Char
  | 0, chars => chars
  | fuel + 1, chars =>
    match skipLineBreak? (skipBlanks chars) with
    | some rest => skipFold fuel rest
    | none => skipBlanks chars

/-- A string of several lines, from behind the quotes that open it. -/
def longString (quote : Char) : Nat → List Char → Option (List Char × List Char)
  | 0, _ => none
  | _ + 1, [] => none
  | fuel + 1, c :: rest =>
    match closingQuotes quote (c :: rest) with
    | some closed => some closed
    | none =>
      match skipLineBreak? (c :: rest) with
      | some rest' => do
        let (text, left) ← longString quote fuel rest'
        return ('\n' :: text, left)
      | none =>
        if c == '\\' && quote == '"' then
          match skipLineBreak? (skipBlanks rest) with
          | some rest' => longString quote fuel (skipFold fuel rest')
          | none => do
            let (c, rest') ← escape rest
            let (text, left) ← longString quote fuel rest'
            return (c :: text, left)
        else if isLineChar c then do
          let (text, left) ← longString quote fuel rest
          return (c :: text, left)
        else none

/-- The line break directly behind the opening quotes does not count. -/
def skipFirstBreak (chars : List Char) : List Char := (skipLineBreak? chars).getD chars

def string (chars : List Char) : Option (String × List Char) :=
  (match chars with
  | '"' :: '"' :: '"' :: rest => longString '"' (rest.length + 1) (skipFirstBreak rest)
  | '\'' :: '\'' :: '\'' :: rest => longString '\'' (rest.length + 1) (skipFirstBreak rest)
  | '"' :: rest => basicString (rest.length + 1) rest
  | '\'' :: rest => literalString rest
  | _ => none).map fun (text, rest) => (String.ofList text, rest)

/-- The strings of a list, from behind the bracket; each but the last is followed by a comma. -/
def strings : Nat → List Char → Option (List String × List Char)
  | 0, _ => none
  | fuel + 1, chars =>
    match skipGap (chars.length + 1) chars with
    | ']' :: rest => some ([], rest)
    | chars => do
      let (text, rest) ← string chars
      match skipGap (rest.length + 1) rest with
      | ',' :: rest =>
        let (texts, left) ← strings fuel rest
        return (text :: texts, left)
      | ']' :: rest => return ([text], rest)
      | _ => none

def value (chars : List Char) : Option (SettingValue × List Char) :=
  match chars with
  | '[' :: rest => (strings (rest.length + 1) rest).map fun (texts, left) => (.texts texts, left)
  | 't' :: 'r' :: 'u' :: 'e' :: rest => some (.flag true, rest)
  | 'f' :: 'a' :: 'l' :: 's' :: 'e' :: rest => some (.flag false, rest)
  | _ => (string chars).map fun (text, left) => (.text text, left)

def isKeyChar (c : Char) : Bool := c.isAlphanum || c == '_' || c == '-'

def key (chars : List Char) : Option (String × List Char) :=
  match chars with
  | '"' :: rest =>
    (basicString (rest.length + 1) rest).map fun (text, left) => (String.ofList text, left)
  | '\'' :: rest => (literalString rest).map fun (text, left) => (String.ofList text, left)
  | _ =>
    let text := chars.takeWhile isKeyChar
    if text.isEmpty then none else some (String.ofList text, chars.drop text.length)

/-- Behind the end of a line; nothing but a comment may stand before it. -/
def lineEnd (chars : List Char) : Option (List Char) :=
  match skipComment (skipBlanks chars) with
  | [] => some []
  | rest => skipLineBreak? rest

def lines (layer : Layer) : Nat → List Char → Option Layer
  | 0, _ => none
  | fuel + 1, chars =>
    match skipGap (chars.length + 1) chars with
    | [] => some layer
    | '#' :: rest => if (rest.dropWhile isLineChar).isEmpty then some layer else none
    | chars => do
      let (name, rest) ← key chars
      match skipBlanks rest with
      | '=' :: rest =>
        let (value, rest) ← value (skipBlanks rest)
        let layer ← layer.set? name value
        lines layer fuel (← lineEnd rest)
      | _ => none

def skipMark : List Char → List Char
  | '\ufeff' :: rest => rest
  | chars => chars

end SettingsFile

/-- The layer that a settings file stands for. -/
def Layer.ofText? (text : String) : Option Layer :=
  let chars := SettingsFile.skipMark text.toList
  SettingsFile.lines .empty (chars.length + 1) chars

end ScopeHoist
