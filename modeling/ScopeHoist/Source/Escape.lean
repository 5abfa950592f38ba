import ScopeHoist.Source.Fault
import ScopeHoist.Text.Quoted

/-!
# Escapes

What the characters behind a backslash stand for. The escape of a surrogate stands for its own
text, because no character does.
-/

set_option autoImplicit false

namespace ScopeHoist

structure Escape where
  value : List Char
  /-- Characters read, the backslash left out. -/
  length : Nat
  isLegacy : Bool
  deriving DecidableEq, Repr

def Escape.char (c : Char) : Escape := ⟨[c], 1, false⟩

def hexNumber (digits : List Char) : Nat :=
  digits.foldl (fun n digit => 16 * n + (hexValue? digit).getD 0) 0

def isHexDigit (c : Char) : Bool := (hexValue? c).isSome

def isOctalDigit (c : Char) : Bool := '0' ≤ c && c ≤ '7'

def isSurrogate (code : Nat) : Bool := 0xd800 ≤ code && code ≤ 0xdfff

/-- The value of `\u` with the digits as they are written. -/
def codeValue (digits written : List Char) : List Char :=
  let code := hexNumber digits
  if isSurrogate code then '\\' :: 'u' :: written else [Char.ofNat code]

/-- The escape whose `u` stands in front of the characters. -/
def unicodeEscape : List Char → Except Fault Escape
  | '\x7b' :: rest =>
    let digits := rest.takeWhile isHexDigit
    let written := '\x7b' :: digits ++ ['\x7d']
    if digits.isEmpty || hexNumber digits > 0x10ffff then
      .error (.escapeSequence "1-6 hex characters in the range 0 to 10FFFF.")
    else if (rest.drop digits.length).head? != some '\x7d' then .error .unicodeEscape
    else .ok ⟨codeValue digits written, 1 + written.length, false⟩
  | rest =>
    let digits := rest.take 4
    if digits.length == 4 && digits.all isHexDigit then .ok ⟨codeValue digits digits, 5, false⟩
    else .error (.escapeSequence "4 hex characters")

/-- The escape in front of the characters behind a backslash. -/
def escapeAt : List Char → Except Fault Escape
  | [] => .error .stringEscape
  | '\r' :: '\n' :: _ => .ok ⟨[], 2, false⟩
  | 'x' :: rest =>
    let digits := rest.take 2
    if digits.length == 2 && digits.all isHexDigit then
      .ok ⟨[Char.ofNat (hexNumber digits)], 3, false⟩
    else .error (.escapeSequence "2 hex characters")
  | 'u' :: rest => unicodeEscape rest
  | c :: rest =>
    if c == '\r' || c == '\n' || c.toNat == 0x2028 || c.toNat == 0x2029 then .ok ⟨[], 1, false⟩
    else if c == 'n' then .ok (.char '\n')
    else if c == 'r' then .ok (.char '\r')
    else if c == 't' then .ok (.char '\t')
    else if c == 'b' then .ok (.char '\x08')
    else if c == 'v' then .ok (.char '\x0b')
    else if c == 'f' then .ok (.char '\x0c')
    else if c == '0' && !rest.head?.any isOctalDigit then .ok (.char '\x00')
    else if isOctalDigit c then .ok ⟨[c], 1, true⟩
    else .ok (.char c)

end ScopeHoist
