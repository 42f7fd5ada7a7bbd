import ImportCensus.Number.Binary64

namespace ImportCensus
namespace Number

/-!
# Decimal texts of binary numbers

Two ways to write a binary number in decimal: with the fewest digits that read
back as the same number, and with a fixed number of places.  Both work on the
exact value; nothing is rounded twice.
-/

/-- Digits and the power of ten that scales them. -/
structure Decimal where
  digits : Nat
  power : Int
  deriving DecidableEq, Repr

/-- The number of decimal digits of a positive number. -/
def digitCount (n : Nat) : Nat := (Nat.toDigits 10 n).length

/-- The power of ten just above a positive quotient. -/
def magnitude (num den : Nat) : Int :=
  if den ≤ num then digitCount (num / den)
  else
    let size := digitCount (den / num)
    if num * Nat.pow 10 (size - 1) = den then 2 - (size : Int) else 1 - (size : Int)

/-- The two neighbours of a positive quotient among the multiples of a power of ten. -/
def neighbours (num den : Nat) (power : Int) : Nat × Nat :=
  let (num, den) :=
    if 0 ≤ power then (num, den * Nat.pow 10 power.toNat) else (num * Nat.pow 10 (-power).toNat, den)
  (num / den, roundDiv num den)

/-- The decimal with so many digits, nearest to a quotient, that reads back as a
number, if one does. -/
def readingBack? (x : Binary64) (num den : Nat) (count : Nat) : Option Decimal :=
  let power := magnitude num den - count
  let (below, nearest) := neighbours num den power
  let other := if nearest = below then below + 1 else below
  let reads (digits : Nat) : Bool := decide (Binary64.ofDecimal false digits power = x)
  if reads nearest then some ⟨nearest, power⟩
  else if reads other then some ⟨other, power⟩
  else none

/-- The shortest decimal that reads back as a positive finite number. -/
def shortest (significand : Nat) (exponent : Int) : Decimal :=
  let exact := Quotient.shift ⟨false, significand, 1⟩ exponent
  let x := Binary64.finite false significand exponent
  match (List.range 17).findSome? fun count => readingBack? x exact.num exact.den (count + 1) with
  | some decimal => decimal
  | none => ⟨0, 0⟩

/-- The digits of a number without zeros at the end. -/
def trimZeros (digits : List Char) : List Char :=
  (digits.reverse.dropWhile fun c => c == '0').reverse

/-- Digits with the point behind the given number of them. -/
def pointed (digits : List Char) (point : Int) : List Char :=
  if point ≤ 0 then '0' :: '.' :: (List.replicate (-point).toNat '0' ++ digits)
  else
    let whole := digits.take point.toNat
    let padded := whole ++ List.replicate (point.toNat - digits.length) '0'
    let fraction := digits.drop point.toNat
    padded ++ '.' :: (if fraction.isEmpty then ['0'] else fraction)

/-- Digits in scientific notation; the exponent has a sign and two digits at least. -/
def scientific (digits : List Char) (point : Int) : List Char :=
  let exponent := point - 1
  let size := Nat.toDigits 10 exponent.natAbs
  let padded := if size.length < 2 then '0' :: size else size
  let fraction := digits.drop 1
  digits.take 1 ++ (if fraction.isEmpty then [] else '.' :: fraction) ++
    'e' :: (if exponent < 0 then '-' else '+') :: padded

/-- The shortest text that reads back: positional from `1e-4` to below `1e16`,
and then always with a point; scientific elsewhere. -/
def shortestChars : Binary64 -> List Char
  | .nan => ['n', 'a', 'n']
  | .infinite negative => (if negative then ['-'] else []) ++ ['i', 'n', 'f']
  | .finite negative significand exponent =>
    let sign := if negative then ['-'] else []
    if significand = 0 then sign ++ ['0', '.', '0']
    else
      let decimal := shortest significand exponent
      let all := Nat.toDigits 10 decimal.digits
      let point : Int := decimal.power + all.length
      let digits := trimZeros all
      sign ++ if -4 < point && point ≤ 16 then pointed digits point else scientific digits point

def shortestText (x : Binary64) : String := String.ofList (shortestChars x)

/-- A natural number as a fixed-point text: the last so many digits stand
behind the point. -/
def fixedChars (places scaled : Nat) : List Char :=
  let digits := Nat.toDigits 10 scaled
  let padded := List.replicate (places + 1 - digits.length) '0' ++ digits
  padded.take (padded.length - places) ++ '.' :: padded.drop (padded.length - places)

/-- A number with a fixed number of places behind the point; a tie goes to the
even digit. -/
def fixedText (places : Nat) (x : Binary64) : String :=
  match x with
  | .finite negative significand exponent =>
    let exact := Quotient.shift ⟨false, significand, 1⟩ exponent
    let scaled := roundDiv (exact.num * Nat.pow 10 places) exact.den
    String.ofList ((if negative then ['-'] else []) ++ fixedChars places scaled)
  | other => shortestText other

/-- The number nearest to a number's value at a fixed number of places. -/
def roundTo (places : Nat) (x : Binary64) : Binary64 :=
  match x with
  | .finite negative significand exponent =>
    let exact := Quotient.shift ⟨false, significand, 1⟩ exponent
    .ofQuotient ⟨negative, roundDiv (exact.num * Nat.pow 10 places) exact.den, Nat.pow 10 places⟩
  | other => other

end Number
end ImportCensus
