import ScopeHoist.Name.Legal

/-!
# Quoted text

How a string value is written as a string literal, and how the text of a template is written
without the escapes it does not need. A string takes double quotes unless it holds more of them
than of single ones. A `\u` escape of a surrogate, which a string value keeps as its text, is
written back as it is.
-/

set_option autoImplicit false

namespace ScopeHoist

def hexDigit (n : Nat) : Char := Char.ofNat (if n < 10 then 48 + n else 87 + n)

/-- Lower-case hexadecimal digits, at least one. -/
def hexText (n : Nat) : String := String.ofList (Nat.toDigits 16 n)

def hexValue? (c : Char) : Option Nat :=
  if c.isDigit then some (c.toNat - 48)
  else if 'a' ≤ c ∧ c ≤ 'f' then some (c.toNat - 87)
  else if 'A' ≤ c ∧ c ≤ 'F' then some (c.toNat - 55)
  else none

def hexByte (n : Nat) : List Char := ['\\', 'x', hexDigit (n / 16), hexDigit (n % 16)]

/-- Whether the characters behind a backslash are a `\u` escape of a surrogate, plain or in
braces; the braces need not be closed. -/
def isSurrogateEscape : List Char → Bool
  | 'u' :: rest =>
    let digits := if rest.head? == some '\x7b' then rest.drop 1 else rest
    match digits with
    | d :: a :: b :: c :: _ =>
      (d == 'd' || d == 'D') && (hexValue? a).any (8 ≤ ·) && (hexValue? b).isSome
        && (hexValue? c).isSome
    | _ => false
  | _ => false

/-- One character of a string literal; `rest` is what follows it. -/
def escapeChar (quote c : Char) (rest : List Char) : List Char :=
  if c == '\x00' then if rest.head?.any Char.isDigit then hexByte 0 else ['\\', '0']
  else if c == '\x08' then ['\\', 'b']
  else if c == '\x0c' then ['\\', 'f']
  else if c == '\n' then ['\\', 'n']
  else if c == '\r' then ['\\', 'r']
  else if c == '\x0b' then ['\\', 'v']
  else if c == '\t' then ['\t']
  else if c == '\\' then if isSurrogateEscape rest then ['\\'] else ['\\', '\\']
  else if c == quote then ['\\', c]
  else if c.toNat < 0x20 then hexByte c.toNat
  else if c.toNat == 0x2028 then "\\u2028".toList
  else if c.toNat == 0x2029 then "\\u2029".toList
  else if c.toNat == 0xfeff then "\\uFEFF".toList
  else [c]

def escapeChars (quote : Char) : List Char → List Char
  | [] => []
  | c :: rest => escapeChar quote c rest ++ escapeChars quote rest

def quoteFor (chars : List Char) : Char :=
  if chars.count '\'' < chars.count '"' then '\'' else '"'

/-- A string value as a string literal. -/
def quoted (value : String) : String :=
  let chars := value.toList
  let quote := quoteFor chars
  String.ofList (quote :: escapeChars quote chars ++ [quote])

/-- The two digits of a `\x` escape in a template, as they are written: a printable character as
itself, another one as an escape. -/
def templateByte (value : Nat) (next : Option Char) : List Char :=
  if value == 0 then
    if next.any (fun c => '1' ≤ c ∧ c ≤ '9') then hexByte 0 else ['\\', '0']
  else if value < 16 then hexByte value
  else if 32 ≤ value ∧ value ≤ 126 then [Char.ofNat value]
  else '\\' :: 'x' :: Nat.toDigits 16 value

/-- A character that a template holds unescaped. -/
def templateChar (c : Char) (rest : List Char) : List Char :=
  if c == '\x00' then
    if rest.head?.any (fun c => '1' ≤ c ∧ c ≤ '9') then hexByte 0 else ['\\', '0']
  else if c == '\x08' then ['\\', 'b']
  else if c == '\x0c' then ['\\', 'f']
  else if c == '\x0b' then ['\\', 'v']
  else if c.toNat == 0x2028 then "\\u2028".toList
  else if c.toNat == 0x2029 then "\\u2029".toList
  else if c.toNat == 0xfeff then "\\uFEFF".toList
  else [c]

/-- Escapes that a template keeps because the bare character would mean something else. -/
def keepsEscape (c : Char) : Bool :=
  "\\rvbfu\r\n\x60".toList.contains c || ('0' ≤ c ∧ c ≤ '7')

/-- The text of a template between two interpolations with its needless escapes undone. A
character directly behind a `\x` escape stays as it is; `dollar` says whether an unescaped dollar
sign stands somewhere before. -/
def templateChars (dollar : Bool) : List Char → List Char
  | [] => []
  | ['\\'] => ['\\']
  | '\\' :: 'x' :: a :: b :: rest =>
    match hexValue? a, hexValue? b with
    | some m, some n =>
      match rest with
      | [] => templateByte (16 * m + n) none
      | c :: rest' => templateByte (16 * m + n) (some c) ++ c :: templateChars dollar rest'
    | some m, none => templateByte m (some b) ++ b :: templateChars dollar rest
    | none, _ => templateByte 0 (some a) ++ a :: templateChars dollar (b :: rest)
  | '\\' :: c :: rest =>
    if c == 'n' then '\n' :: templateChars dollar rest
    else if c == 't' then '\t' :: templateChars dollar rest
    else if c.toNat == 0x2028 || c.toNat == 0x2029 then templateChars dollar rest
    else if keepsEscape c then '\\' :: c :: templateChars dollar rest
    else if c == '$' && rest.head? == some '\x7b' then '\\' :: '$' :: templateChars dollar rest
    else if c == '\x7b' && dollar then '\\' :: c :: templateChars false rest
    else templateChar c rest ++ templateChars (dollar || c == '$') rest
  | c :: rest => templateChar c rest ++ templateChars (dollar || c == '$') rest

def templateText (raw : String) : String := String.ofList (templateChars false raw.toList)

end ScopeHoist
