import ScopeHoist.Text.Quoted
import ScopeHoist.Text.Rounding

/-!
# Numbers

What a number literal says as a binary floating-point number of 53 bits, the fewest decimal digits
that read back to such a number, and the shortest ways to write it. All in whole numbers: a number
is `mantissa * 2 ^ exponent`.
-/

set_option autoImplicit false

namespace ScopeHoist

structure Binary where
  mantissa : Nat
  exponent : Int
  deriving DecidableEq, Repr

namespace Binary

def zero : Binary := ⟨0, -1074⟩

/-- The least number of more than 53 bits. -/
def mantissaBound : Nat := 9007199254740992

/-- Numerator and denominator. -/
def ratio (x : Binary) : Nat × Nat :=
  if x.exponent ≥ 0 then (x.mantissa * powerOfTwo x.exponent.toNat, 1)
  else (x.mantissa, powerOfTwo (-x.exponent).toNat)

/-- A ratio in units of `2 ^ exponent`, to the nearest whole number. -/
def scaled (num den : Nat) (exponent : Int) : Nat :=
  if exponent ≥ 0 then divideEven num (den * powerOfTwo exponent.toNat)
  else divideEven (num * powerOfTwo (-exponent).toNat) den

/-- Whether a ratio is less than `2 ^ exponent`. -/
def isBelow (num den : Nat) (exponent : Int) : Bool :=
  if exponent ≥ 0 then num < den * powerOfTwo exponent.toNat
  else num * powerOfTwo (-exponent).toNat < den

/-- The nearest number of 53 bits to a ratio; `none` when it is too large. -/
def nearest (num den : Nat) : Option Binary :=
  if num == 0 then some zero
  else
    -- the ratio lies within a factor of two of this power
    let power : Int := (Nat.log2 num : Int) - (Nat.log2 den : Int)
    let exponent : Int := if isBelow num den power then power - 53 else power - 52
    let exponent := if exponent < -1074 then -1074 else exponent
    let mantissa := scaled num den exponent
    let result : Binary :=
      if mantissa ≥ mantissaBound then ⟨mantissa / 2, exponent + 1⟩ else ⟨mantissa, exponent⟩
    if result.exponent > 971 then none else some result

/-- The nearest number to `mantissa * 10 ^ exponent`. -/
def ofDecimal (mantissa : Nat) (exponent : Int) : Option Binary :=
  if mantissa == 0 then some zero
  else if exponent > 400 then none
  else if exponent < -400 - (Nat.log2 mantissa : Int) then some zero
  else if exponent ≥ 0 then nearest (mantissa * powerOfTen exponent.toNat) 1
  else nearest mantissa (powerOfTen (-exponent).toNat)

/-- Reads digits one by one, rounding after each of them. -/
def ofDigits (base : Nat) (digits : List Nat) : Option Binary :=
  digits.foldl
    (fun total digit =>
      total.bind fun x =>
        let (num, den) := x.ratio
        nearest (num * base + digit * den) den)
    (some zero)

end Binary

/-- Digits and the place of the decimal point, counted from the first digit. -/
structure DecimalText where
  digits : List Nat
  point : Int
  deriving DecidableEq, Repr

/-- How many whole digits a ratio has; zero or less for one below one. -/
def decimalPoint (num den : Nat) : Int :=
  if num ≥ den then ((Nat.toDigits 10 (num / den)).length : Int)
  else
    let digits := (Nat.toDigits 10 (den / num)).length
    -- one power of ten more when the quotient is exactly a power of ten
    if powerOfTen (digits - 1) * num == den then 2 - (digits : Int) else 1 - (digits : Int)

/-- Whether a decimal lies in the interval that rounds to the number. -/
def readsBack (x : Binary) (num den : Nat) : Bool :=
  Binary.nearest num den == some x

/-- The number of `count` digits nearest to the number among those that read back to it. -/
def decimalOfLength (x : Binary) (count : Nat) : Option DecimalText :=
  let (num, den) := x.ratio
  let point := decimalPoint num den
  -- the unit of the last digit is `10 ^ place`
  let place : Int := point - count
  let unitNum := if place ≥ 0 then powerOfTen place.toNat else 1
  let unitDen := if place ≥ 0 then 1 else powerOfTen (-place).toNat
  let low := (num * unitDen) / (den * unitNum)
  let fits := fun k => k ≥ 1 && readsBack x (k * unitNum) unitDen
  let best := divideEven (num * unitDen) (den * unitNum)
  let other := if best == low then low + 1 else low
  let chosen := if fits best then some best else if fits other then some other else none
  chosen.map fun k =>
    let digits := (Nat.toDigits 10 k).map fun c => c.toNat - 48
    let point := place + (digits.length : Int)
    ⟨(digits.reverse.dropWhile (· == 0)).reverse, point⟩

/-- The fewest digits that read back to the number. -/
def shortestDigits (x : Binary) : DecimalText :=
  if x.mantissa == 0 then ⟨[0], 1⟩
  else
    match (List.range 17).findSome? fun n => decimalOfLength x (n + 1) with
    | some text => text
    | none => ⟨[0], 1⟩

def digitsText (digits : List Nat) : String := String.ofList (digits.map fun d => hexDigit d)

def zerosText (n : Nat) : String := String.ofList (List.replicate n '0')

/-- Without an exponent, with as many zeros as that takes. -/
def DecimalText.positional (text : DecimalText) : String :=
  let count : Int := text.digits.length
  if text.point ≤ 0 then "0." ++ zerosText (-text.point).toNat ++ digitsText text.digits
  else if text.point ≥ count then
    digitsText text.digits ++ zerosText (text.point - count).toNat
  else
    digitsText (text.digits.take text.point.toNat) ++ "."
      ++ digitsText (text.digits.drop text.point.toNat)

/-- The whole number that a number is, if it is one. -/
def Binary.whole? (x : Binary) : Option Nat :=
  let (num, den) := x.ratio
  if num % den == 0 then some (num / den) else none

/-- The largest whole number that is written in base sixteen; it does not fit into 64 bits, and is
written as the number before it. -/
def wordBound : Nat := 18446744073709551616

/-- A number in few characters: a whole number from ten million on in base sixteen, unless it ends
in three zeros, three or more trailing zeros as an exponent, and no zero in front of the point. -/
def shortNumber (x : Binary) : String :=
  match x.whole?.filter fun n => n ≥ 10000000 && n ≤ wordBound && n % 1000 != 0 with
  | some n => "0x" ++ hexText (if n == wordBound then n - 1 else n)
  | none =>
    let text := (shortestDigits x).positional
    match text.toList with
    | '0' :: '.' :: places =>
      let zeros := (places.takeWhile (· == '0')).length
      if zeros > 2 then
        String.ofList (places.drop zeros) ++ "e-" ++ toString places.length
      else String.ofList ('.' :: places)
    | _ =>
      let back := text.toList.reverse
      let zeros := (back.takeWhile (· == '0')).length
      if zeros ≥ 3 then
        String.ofList (back.drop zeros).reverse ++ "e" ++ toString zeros
      else text

def ofDigitsIn (base : Nat) (digits : List Nat) : Nat :=
  digits.foldl (fun n digit => base * n + digit) 0

def ofDecimalDigits : List Nat → Nat := ofDigitsIn 10

/-- The digits of a literal, separators left out. -/
def literalDigits (chars : List Char) : List Nat := chars.filterMap hexValue?

def literalExponent : List Char → Int
  | '-' :: digits => -(ofDecimalDigits (literalDigits digits) : Int)
  | digits => ofDecimalDigits (literalDigits digits)

/-- The value of a decimal literal. The exponent is applied to the rounded number in front of it. -/
def decimalLiteral (chars : List Char) : Option Binary :=
  let front := chars.takeWhile fun c => c != 'e' && c != 'E'
  let exponent := (chars.drop front.length).drop 1
  let whole := front.takeWhile (· != '.')
  let places := literalDigits ((front.drop whole.length).drop 1)
  let value :=
    if whole.length == front.length then Binary.ofDigits 10 (literalDigits whole)
    else
      Binary.ofDecimal (ofDecimalDigits (literalDigits whole ++ places)) (-(places.length : Int))
  if exponent.isEmpty then value
  else
    value.bind fun x =>
      let text := shortestDigits x
      Binary.ofDecimal (ofDecimalDigits text.digits)
        (text.point - (text.digits.length : Int) + literalExponent exponent)

/-- The value of a number literal; `none` for one that is too large to be a number. -/
def numberLiteral (raw : String) : Option Binary :=
  match raw.toList with
  | '0' :: c :: rest =>
    if c == 'x' || c == 'X' then Binary.ofDigits 16 (literalDigits rest)
    else if c == 'o' || c == 'O' then Binary.ofDigits 8 (literalDigits rest)
    else if c == 'b' || c == 'B' then Binary.ofDigits 2 (literalDigits rest)
    else decimalLiteral ('0' :: c :: rest)
  | chars => decimalLiteral chars

/-- A number literal in few characters; one too large to be a number stays as it is. -/
def shortLiteral (raw : String) : String := ((numberLiteral raw).map shortNumber).getD raw

/-- The value of a literal of a whole number of any size, which ends in `n`. -/
def bigintLiteral (raw : String) : Nat :=
  match raw.toList.dropLast with
  | '0' :: c :: rest =>
    if c == 'x' || c == 'X' then ofDigitsIn 16 (literalDigits rest)
    else if c == 'o' || c == 'O' then ofDigitsIn 8 (literalDigits rest)
    else if c == 'b' || c == 'B' then ofDigitsIn 2 (literalDigits rest)
    else ofDigitsIn 10 (literalDigits ('0' :: c :: rest))
  | chars => ofDigitsIn 10 (literalDigits chars)

def shortBigint (raw : String) : String :=
  let value := bigintLiteral raw
  (if value ≥ 10000000000000000 then "0x" ++ hexText value else toString value) ++ "n"

end ScopeHoist
