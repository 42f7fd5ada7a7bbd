import ImportCensus.Limits
import ImportCensus.Number.Decimal

namespace ImportCensus
namespace Json

/-!
# JSON values and their text

A value keeps the order of an object's members, and keeps integers of any size
apart from binary numbers.  The text stands on one line: members and elements are
separated by a comma and a blank, names and values by a colon and a blank, and
strings hold every character from the space upwards as it is, but for the quote
and the backslash.
-/

inductive Value where
  | null
  | boolean (value : Bool)
  | integer (value : Int)
  | number (value : Number.Binary64)
  | string (value : String)
  | array (elements : List Value)
  | object (members : List (String × Value))
  deriving Repr, Inhabited

namespace Value

/-- The value of the first member of a name. -/
def get? (name : String) : Value -> Option Value
  | .object members => (members.find? fun member => member.1 == name).map Prod.snd
  | _ => none

end Value

/-- A hexadecimal digit. -/
def hexDigit (n : Nat) : Char :=
  if n < 10 then Char.ofNat ('0'.toNat + n) else Char.ofNat ('a'.toNat + n - 10)

/-- How a character is written inside a string. -/
def escapeChar (c : Char) : List Char :=
  if c = '"' then ['\\', '"']
  else if c = '\\' then ['\\', '\\']
  else if c = '\n' then ['\\', 'n']
  else if c = '\r' then ['\\', 'r']
  else if c = '\t' then ['\\', 't']
  else if c = '\x08' then ['\\', 'b']
  else if c = '\x0c' then ['\\', 'f']
  else if c.toNat < 32 then
    ['\\', 'u', '0', '0', hexDigit (c.toNat / 16), hexDigit (c.toNat % 16)]
  else [c]

/-- A string with its quotes. -/
def quote (text : List Char) : List Char :=
  '"' :: (text.flatMap escapeChar ++ ['"'])

/-- An integer in decimal digits. -/
def integerChars (value : Int) : List Char :=
  (if value < 0 then ['-'] else []) ++ Nat.toDigits 10 value.natAbs

/-- A binary number; the values that are no numbers have names of their own. -/
def numberChars : Number.Binary64 -> List Char
  | .nan => "NaN".toList
  | .infinite negative => (if negative then "-Infinity" else "Infinity").toList
  | finite => Number.shortestChars finite

mutual

/-- The text of a value. -/
def write : Value -> List Char
  | .null => ['n', 'u', 'l', 'l']
  | .boolean true => ['t', 'r', 'u', 'e']
  | .boolean false => ['f', 'a', 'l', 's', 'e']
  | .integer value => integerChars value
  | .number value => numberChars value
  | .string value => quote value.toList
  | .array elements => '[' :: (writeElements elements ++ [']'])
  | .object members => '\x7b' :: (writeMembers members ++ ['\x7d'])

def writeElements : List Value -> List Char
  | [] => []
  | [value] => write value
  | value :: rest => write value ++ ',' :: ' ' :: writeElements rest

def writeMembers : List (String × Value) -> List Char
  | [] => []
  | [(name, value)] => quote name.toList ++ ':' :: ' ' :: write value
  | (name, value) :: rest =>
    quote name.toList ++ ':' :: ' ' :: (write value ++ ',' :: ' ' :: writeMembers rest)

end

/-- The text of a value on one line. -/
def Value.text (value : Value) : String := String.ofList (write value)

mutual

/-- What of a value the limits bear on. -/
def Value.outline : Value -> Outline
  | .integer value => .integer value
  | .array elements => .level (outlines elements)
  | .object members => .level (outlinesOfMembers members)
  | _ => .plain

def outlines : List Value -> List Outline
  | [] => []
  | value :: rest => value.outline :: outlines rest

def outlinesOfMembers : List (String × Value) -> List Outline
  | [] => []
  | (_, value) :: rest => value.outline :: outlinesOfMembers rest

end

/-- What the stack is needed for. -/
def encoding : String := " while encoding a JSON object"

/-- Write a value on one line, if the limits allow it. -/
def dumps (limits : Limits) (value : Value) : Except Excess String :=
  limits.tell encoding [value.outline] value.text

end Json
end ImportCensus
