import ImportCensus.Number.Binary64
import ImportCensus.Text.Blank

namespace ImportCensus
namespace Number

/-!
# Numerals

Numbers as people write them: with white space around them, a sign in front, and
single underscores between the digits of an integer.  Decimal digits may be of any
script; digits above nine are letters.
-/

/-- The value of a digit in some base. -/
def digitIn? (base : Nat) (c : Char) : Option Nat :=
  let value? :=
    if 'a' ≤ c && c ≤ 'z' then some (c.toNat - 'a'.toNat + 10)
    else if 'A' ≤ c && c ≤ 'Z' then some (c.toNat - 'A'.toNat + 10)
    else Text.decimalValue? c
  value?.filter fun value => value < base

/-- The number that digits spell behind those that have been read.  An underscore
has to stand between two digits. -/
def digitsFrom (base value : Nat) (afterDigit : Bool) : List Char -> Option Nat
  | [] => if afterDigit then some value else none
  | c :: rest =>
    if c = '_' then if afterDigit then digitsFrom base value false rest else none
    else match digitIn? base c with
      | some digit => digitsFrom base (value * base + digit) true rest
      | none => none

/-- The natural number that a text of digits spells. -/
def natural? (base : Nat) (text : List Char) : Option Nat := digitsFrom base 0 false text

/-- A sign in front of a text, and the text without it. -/
def splitSign : List Char -> Bool × List Char
  | '-' :: rest => (true, rest)
  | '+' :: rest => (false, rest)
  | text => (false, text)

/-- The integer that a text spells. -/
def integer? (base : Nat) (text : List Char) : Option Int :=
  let (negative, digits) := splitSign (Text.trim text)
  (natural? base digits).map fun value => if negative then -(value : Int) else value

/-- The longest decimal numeral of an integer that is read, in digits. -/
def mostDigits : Nat := 4300

/-- How many decimal digits are in front of a text, behind white space and a sign. -/
def digitCountIn (text : List Char) : Nat :=
  ((splitSign (Text.trim text)).2.takeWhile fun c => (digitIn? 10 c).isSome).length

/-- Digits in front of a text, and what follows them. -/
def spanDigits (text : List Char) : List Char × List Char :=
  (text.takeWhile Char.isDigit, text.dropWhile Char.isDigit)

/-- The power of ten that the end of a decimal numeral spells. -/
def exponent? : List Char -> Option Int
  | [] => some 0
  | c :: rest =>
    if c = 'e' || c = 'E' then
      let (negative, digits) := splitSign rest
      if digits.all Char.isDigit then
        (natural? 10 digits).map fun value => if negative then -(value : Int) else value
      else none
    else none

/-- The number that a decimal numeral without a sign spells. -/
def decimal? (negative : Bool) (text : List Char) : Option Binary64 :=
  let (whole, rest) := spanDigits text
  let (fraction, rest) := match rest with
    | '.' :: behind => spanDigits behind
    | other => ([], other)
  if whole.isEmpty && fraction.isEmpty then none
  else match exponent? rest, natural? 10 (whole ++ fraction) with
    | some power, some digits => some (.ofDecimal negative digits (power - fraction.length))
    | _, _ => none

/-- The binary number that a text spells. -/
def binary? (text : List Char) : Option Binary64 :=
  let (negative, rest) := splitSign (Text.trim text)
  let word := String.ofList (rest.map Char.toLower)
  if word = "inf" || word = "infinity" then some (.infinite negative)
  else if word = "nan" then some .nan
  else decimal? negative rest

end Number
end ImportCensus
