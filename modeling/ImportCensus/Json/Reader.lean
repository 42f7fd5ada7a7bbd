import ImportCensus.Json.Value

namespace ImportCensus
namespace Json

/-!
# Reading JSON texts

A reader for the grammar of RFC 8259.  White space is allowed around every
token.  A number without a fraction and an exponent is an integer.  Characters
beyond the basic plane may be written as two escapes; an escape that is half of
such a pair reads as the replacement character.  The reader takes fuel: every
value inside another begins behind a character, so the length of the text is
enough.
-/

def isBlank (c : Char) : Bool := c == ' ' || c == '\t' || c == '\n' || c == '\r'

def skip (text : List Char) : List Char := text.dropWhile isBlank

def hexValue? (c : Char) : Option Nat :=
  if '0' ≤ c && c ≤ '9' then some (c.toNat - '0'.toNat)
  else if 'a' ≤ c && c ≤ 'f' then some (c.toNat - 'a'.toNat + 10)
  else if 'A' ≤ c && c ≤ 'F' then some (c.toNat - 'A'.toNat + 10)
  else none

/-- Four hexadecimal digits, and what follows them. -/
def hex4? : List Char -> Option (Nat × List Char)
  | a :: b :: c :: d :: rest => do
    let a ← hexValue? a
    let b ← hexValue? b
    let c ← hexValue? c
    let d ← hexValue? d
    return (a * 4096 + b * 256 + c * 16 + d, rest)
  | _ => none

def isHighSurrogate (code : Nat) : Bool := 0xd800 ≤ code && code < 0xdc00

def isLowSurrogate (code : Nat) : Bool := 0xdc00 ≤ code && code < 0xe000

/-- The character of a numeric escape, behind its letter. -/
def numericEscape? (text : List Char) : Option (Char × List Char) := do
  let (first, rest) ← hex4? text
  if isHighSurrogate first then
    match rest with
    | '\\' :: 'u' :: behind =>
      match hex4? behind with
      | some (second, rest') =>
        if isLowSurrogate second then
          return (Char.ofNat (0x10000 + (first - 0xd800) * 0x400 + (second - 0xdc00)), rest')
        else return ('\ufffd', rest)
      | none => none
    | _ => return ('\ufffd', rest)
  else if isLowSurrogate first then return ('\ufffd', rest)
  else return (Char.ofNat first, rest)

/-- The character of a short escape. -/
def shortEscape? (c : Char) : Option Char :=
  if c = '"' then some '"'
  else if c = '\\' then some '\\'
  else if c = '/' then some '/'
  else if c = 'b' then some '\x08'
  else if c = 'f' then some '\x0c'
  else if c = 'n' then some '\n'
  else if c = 'r' then some '\r'
  else if c = 't' then some '\t'
  else none

/-- The rest of a string behind its opening quote, given what has been read of
it, last character first. -/
def readString (done : List Char) : Nat -> List Char -> Option (List Char × List Char)
  | 0, _ => none
  | _, [] => none
  | limit + 1, c :: rest =>
    if c = '"' then some (done.reverse, rest)
    else if c = '\\' then
      match rest with
      | 'u' :: digits =>
        match numericEscape? digits with
        | some (decoded, behind) => readString (decoded :: done) limit behind
        | none => none
      | letter :: behind =>
        match shortEscape? letter with
        | some decoded => readString (decoded :: done) limit behind
        | none => none
      | [] => none
    else if c.toNat < 32 then none
    else readString (c :: done) limit rest

/-- The value of decimal digits. -/
def digitsValue (digits : List Char) : Nat :=
  digits.foldl (fun value c => 10 * value + (c.toNat - '0'.toNat)) 0

/-- An exponent, if one follows. -/
def readExponent (text : List Char) : Option (Option Int × List Char) :=
  match text with
  | e :: rest =>
    if e = 'e' || e = 'E' then
      let (negative, behind) := match rest with
        | '-' :: behind => (true, behind)
        | '+' :: behind => (false, behind)
        | _ => (false, rest)
      let digits := behind.takeWhile Char.isDigit
      if digits.isEmpty then none
      else
        let size : Int := digitsValue digits
        some (some (if negative then -size else size), behind.drop digits.length)
    else some (none, text)
  | [] => some (none, [])

/-- A fraction, if one follows. -/
def readFraction (text : List Char) : Option (List Char × List Char) :=
  match text with
  | '.' :: rest =>
    let digits := rest.takeWhile Char.isDigit
    if digits.isEmpty then none else some (digits, rest.drop digits.length)
  | _ => some ([], text)

/-- A number. -/
def readNumber (text : List Char) : Option (Value × List Char) := do
  let (negative, behind) := match text with
    | '-' :: rest => (true, rest)
    | _ => (false, text)
  let whole := behind.takeWhile Char.isDigit
  if whole.isEmpty || (whole.head? == some '0' && 1 < whole.length) then none
  else
    let (fraction, behind) ← readFraction (behind.drop whole.length)
    let (power, behind) ← readExponent behind
    if fraction.isEmpty && power.isNone then
      let size : Int := digitsValue whole
      return (.integer (if negative then -size else size), behind)
    else
      let digits := digitsValue (whole ++ fraction)
      let power := power.getD 0 - fraction.length
      return (.number (.ofDecimal negative digits power), behind)

/-- What follows a word, if the text begins with it. -/
def behindWord? (word : List Char) (text : List Char) : Option (List Char) :=
  if word.isPrefixOf text then some (text.drop word.length) else none

mutual

/-- A value at the beginning of a text, and what follows it. -/
def readValue : Nat -> List Char -> Option (Value × List Char)
  | 0, _ => none
  | limit + 1, text =>
    match skip text with
    | [] => none
    | c :: rest =>
      if c = '"' then do
        let (value, behind) ← readString [] (rest.length + 1) rest
        return (.string (String.ofList value), behind)
      else if c = '[' then
        match skip rest with
        | ']' :: behind => some (.array [], behind)
        | _ => do
          let (values, behind) ← readElements limit rest
          return (.array values, behind)
      else if c = '\x7b' then
        match skip rest with
        | '\x7d' :: behind => some (.object [], behind)
        | _ => do
          let (members, behind) ← readMembers limit rest
          return (.object members, behind)
      else if c = 'n' then (behindWord? ['u', 'l', 'l'] rest).map fun behind => (.null, behind)
      else if c = 't' then
        (behindWord? ['r', 'u', 'e'] rest).map fun behind => (.boolean true, behind)
      else if c = 'f' then
        (behindWord? ['a', 'l', 's', 'e'] rest).map fun behind => (.boolean false, behind)
      else readNumber (c :: rest)
termination_by structural limit => limit

/-- Elements up to the bracket that closes them. -/
def readElements : Nat -> List Char -> Option (List Value × List Char)
  | 0, _ => none
  | limit + 1, text => do
    let (first, behind) ← readValue limit text
    match skip behind with
    | ',' :: rest =>
      let (others, behind) ← readElements limit rest
      return (first :: others, behind)
    | ']' :: rest => return ([first], rest)
    | _ => none
termination_by structural limit => limit

/-- Members up to the brace that closes them. -/
def readMembers : Nat -> List Char -> Option (List (String × Value) × List Char)
  | 0, _ => none
  | limit + 1, text => do
    match skip text with
    | '"' :: rest =>
      let (name, behind) ← readString [] (rest.length + 1) rest
      match skip behind with
      | ':' :: behind =>
        let (value, behind) ← readValue limit behind
        match skip behind with
        | ',' :: rest =>
          let (others, behind) ← readMembers limit rest
          return ((String.ofList name, value) :: others, behind)
        | '\x7d' :: rest => return ([(String.ofList name, value)], rest)
        | _ => none
      | _ => none
    | _ => none
termination_by structural limit => limit

end

/-- The value of a whole text. -/
def read (text : List Char) : Option Value := do
  let (value, behind) ← readValue (text.length + 1) text
  if (skip behind).isEmpty then return value else none

end Json
end ImportCensus
