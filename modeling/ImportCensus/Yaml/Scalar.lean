import ImportCensus.Config.Datum
import ImportCensus.Number.Numeral
import ImportCensus.Yaml.Fault
import ImportCensus.Yaml.Implicit

namespace ImportCensus
namespace Yaml

/-!
# Values of scalars

The value that the text of a scalar has in each of the standard types.
-/

open Config (Datum Date DateTime Zone)

/-- A text without underscores. -/
def dropUnderscores (text : List Char) : List Char := text.filter fun c => c != '_'

/-- The parts of a text between colons. -/
def splitColons : List Char -> List (List Char)
  | [] => [[]]
  | c :: rest =>
    if c = ':' then [] :: splitColons rest
    else match splitColons rest with
      | first :: others => (c :: first) :: others
      | [] => [[c]]

/-- The integer that digits in some base spell.  Only in base ten their number is limited. -/
def integerIn (base : Nat) (digits : List Char) : Except Fault Int :=
  if base = 10 && Number.mostDigits < Number.digitCountIn digits then
    .error (.value (.manyDigits (Number.digitCountIn digits)))
  else match Number.integer? base digits with
  | some value => .ok value
  | none => .error (.value (.integer base (String.ofList digits)))

/-- The magnitude of an integer scalar.  A zero in front means octal digits in the
older version only, as colons between parts that count sixty each. -/
def magnitude (isOld : Bool) (unsigned : List Char) : Except Fault Int :=
  match unsigned with
  | ['0'] => .ok 0
  | '0' :: 'b' :: digits => integerIn 2 digits
  | '0' :: 'x' :: digits => integerIn 16 digits
  | '0' :: 'o' :: digits => integerIn 8 digits
  | '0' :: _ => integerIn (if isOld then 8 else 10) unsigned
  | [] => if isOld then .error (.value .noNumeral) else integerIn 10 []
  | _ =>
    if isOld && unsigned.contains ':' then
      (splitColons unsigned).foldlM (fun value part => do
        return value * 60 + (← integerIn 10 part)) 0
    else integerIn 10 unsigned

/-- The value of an integer scalar. -/
def integerValue (isOld : Bool) (text : List Char) : Except Fault Int := do
  let plain := dropUnderscores text
  if plain.isEmpty then .error (.value .noNumeral)
  let value ← magnitude isOld (dropSign plain)
  return if plain.head? = some '-' then -value else value

/-- A binary number with its sign turned around. -/
def negated : Number.Binary64 -> Number.Binary64
  | .finite negative significand exponent => .finite (!negative) significand exponent
  | .infinite negative => .infinite (!negative)
  | .nan => .nan

/-- The number that a text spells. -/
def numberIn (text : List Char) : Except Fault Number.Binary64 :=
  match Number.binary? text with
  | some x => .ok x
  | none => .error (.value (.number (String.ofList text)))

/-- The sum of parts, last one first, each of which counts sixty times what the one
behind it does. -/
def sumSixties (unit : Nat) (sum : Number.Binary64) :
    List Number.Binary64 -> Except Fault Number.Binary64
  | [] => .ok sum
  | part :: rest =>
    match Number.Binary64.ofInt unit with
    | .infinite _ => .error (.value .overflow)
    | weight => sumSixties (unit * 60) (sum.add (part.mul weight)) rest

/-- The magnitude of a floating-point scalar. -/
def realMagnitude (isOld : Bool) (unsigned : List Char) : Except Fault Number.Binary64 :=
  if unsigned = ".inf".toList then .ok (.infinite false)
  else if unsigned = ".nan".toList then .ok .nan
  else if isOld && unsigned.contains ':' then do
    let parts ← (splitColons unsigned).mapM numberIn
    sumSixties 1 (.zero false) parts.reverse
  else if isOld && 1 < unsigned.count 'e' then .error (.value .repeatedExponent)
  else numberIn unsigned

/-- The value of a floating-point scalar. -/
def floatValue (isOld : Bool) (text : List Char) : Except Fault Number.Binary64 := do
  let plain := (dropUnderscores text).map Char.toLower
  if plain.isEmpty then .error (.value .noNumeral)
  let value ← realMagnitude isOld (dropSign plain)
  return if plain.head? = some '-' then negated value else value

/-- The value of a truth scalar. -/
def booleanValue (text : String) : Except Fault Bool :=
  let word := text.map Char.toLower
  if ["yes", "y", "true", "on"].contains word then .ok true
  else if ["no", "n", "false", "off"].contains word then .ok false
  else .error (.value (.noTruth word))

/-! ## Dates and times -/

/-- The number that some digits spell. -/
def numberOf (digits : List Char) : Nat :=
  digits.foldl (fun value c => value * 10 + (c.toNat - '0'.toNat)) 0

def isLeapYear (year : Nat) : Bool :=
  year % 4 == 0 && (year % 100 != 0 || year % 400 == 0)

def daysInMonth (year month : Nat) : Nat :=
  if month = 2 then if isLeapYear year then 29 else 28
  else if month = 4 || month = 6 || month = 9 || month = 11 then 30
  else 31

def outOfRange {α : Type} (what : String) : Except Fault α := .error (.value (.outOfRange what))

/-- A date, if the calendar has it. -/
def dateValue (stamp : Timestamp) : Except Fault Date :=
  let year := numberOf stamp.year
  let month := numberOf stamp.month
  let day := numberOf stamp.day
  if year = 0 then outOfRange "year 0 is out of range"
  else if month = 0 || 12 < month then outOfRange "month must be in 1..12"
  else if day = 0 || daysInMonth year month < day then outOfRange "day is out of range for month"
  else .ok ⟨year, month, day⟩

/-- The microseconds of a fraction of a second, to the nearest one. -/
def microseconds (fraction : List Char) : Nat :=
  let digits := fraction.take 6
  let value := numberOf (digits ++ List.replicate (6 - digits.length) '0')
  let isUp := (fraction[6]?).any fun c => '5' ≤ c
  (if isUp then value + 1 else value) % 1000000

/-- The minutes of a zone's offset. -/
def zoneMinutes : List Char -> Int
  | sign :: rest =>
    let hour := rest.takeWhile Char.isDigit
    let minute := (rest.dropWhile Char.isDigit).drop 1
    let size : Int := numberOf hour * 60 + numberOf minute
    if sign = '-' then -size else if sign = '+' then size else 0
  | [] => 0

/-- A time zone, less than a day away from the universal time. -/
def zoneValue (zone : List Char) : Except Fault (Option Zone) :=
  if zone.isEmpty then .ok none
  else
    let minutes := zoneMinutes zone
    if 24 * 60 ≤ minutes.natAbs then
      outOfRange ("offset must be a timedelta strictly between -timedelta(hours=24) and " ++
        "timedelta(hours=24), not " ++ String.ofList (Config.durationChars minutes) ++ ".")
    else .ok (some ⟨minutes, String.ofList zone⟩)

/-- The value of a date or time. -/
def timestampValue (stamp : Timestamp) : Except Fault Datum := do
  if stamp.hour.isEmpty then return .date (← dateValue stamp)
  else
    let zone ← zoneValue stamp.zone
    let date ← dateValue stamp
    let hour := numberOf stamp.hour
    let minute := numberOf stamp.minute
    let second := numberOf stamp.second
    if 23 < hour then outOfRange "hour must be in 0..23"
    else if 59 < minute then outOfRange "minute must be in 0..59"
    else if 59 < second then outOfRange "second must be in 0..59"
    else return .dateTime ⟨date, hour, minute, second, microseconds stamp.fraction, zone⟩

/-! ## Bytes -/

/-- The value of a character that stands for six bits. -/
def sextet? (c : Char) : Option Nat :=
  if 'A' ≤ c && c ≤ 'Z' then some (c.toNat - 'A'.toNat)
  else if 'a' ≤ c && c ≤ 'z' then some (c.toNat - 'a'.toNat + 26)
  else if c.isDigit then some (c.toNat - '0'.toNat + 52)
  else if c = '+' then some 62
  else if c = '/' then some 63
  else none

/-- The values of the six-bit characters up to enough padding, all else skipped;
also whether the padding was enough. -/
def sextets (done : List Nat) (padding : Nat) : List Char -> List Nat × Bool
  | [] => (done.reverse, false)
  | c :: rest =>
    if c = '=' then
      if 2 ≤ done.length % 4 && 4 ≤ done.length % 4 + padding + 1 then (done.reverse, true)
      else sextets done (if 2 ≤ done.length % 4 then padding + 1 else padding) rest
    else match sextet? c with
      | some value => sextets (value :: done) 0 rest
      | none => sextets done padding rest

/-- The bytes of six-bit values, four of which make three bytes. -/
def bytesOfSextets : List Nat -> List Nat
  | a :: b :: c :: d :: rest =>
    (a * 4 + b / 16) :: (b % 16 * 16 + c / 4) :: (c % 4 * 64 + d) :: bytesOfSextets rest
  | [a, b, c] => [a * 4 + b / 16, b % 16 * 16 + c / 4]
  | [a, b] => [a * 4 + b / 16]
  | _ => []

/-- The bytes that a text stands for. -/
def binaryValue (text : List Char) (start : Mark) : Except Fault (List Nat) :=
  let (values, isPadded) := sextets [] 0 text
  let left := values.length % 4
  let failed (reason : String) : Except Fault (List Nat) :=
    .error (.alone (.noBinary ("failed to decode base64 data: " ++ reason)) start)
  if left = 1 then
    failed ("Invalid base64-encoded string: number of data characters (" ++
      toString values.length ++ ") cannot be 1 more than a multiple of 4")
  else if left ≠ 0 && !isPadded then failed "Incorrect padding"
  else .ok (bytesOfSextets values)

/-- The value of a scalar of a standard type, if scalars have such values. -/
def scalarValue? (isOld : Bool) (type : StandardType) (text : String) (start : Mark) :
    Option (Except Fault Datum) :=
  match type with
  | .null => some (.ok .null)
  | .boolean => some ((booleanValue text).map Datum.boolean)
  | .integer => some ((integerValue isOld text.toList).map Datum.integer)
  | .float => some ((floatValue isOld text.toList).map Datum.float)
  | .text => some (.ok (.text text))
  | .binary => some ((binaryValue text.toList start).map Datum.bytes)
  | .timestamp => some (match timestamp? true text.toList with
    | some stamp => timestampValue stamp
    | none => .error (.alone (.noTimestamp text) start))
  | _ => none

end Yaml
end ImportCensus
