namespace ImportCensus
namespace Yaml

/-!
# Implicit types

A plain scalar without a tag has the type that its spelling suggests: a truth
value, a floating-point or integer number, nothing, a date or time, or one of the
two marks that have a meaning as keys.  All other scalars are texts.  The older
version of the format knows more spellings.
-/

/-- The beginning of all standard tags. -/
def standardTag : String := "tag:yaml.org,2002:"

/-- The types of scalars and collections that have standard tags. -/
inductive StandardType where
  | null
  | boolean
  | integer
  | float
  | text
  | binary
  | timestamp
  | merge
  | value
  | sequence
  | mapping
  | set
  | orderedMapping
  | pairs
  deriving DecidableEq, Repr

namespace StandardType

def shortName : StandardType -> String
  | .null => "null"
  | .boolean => "bool"
  | .integer => "int"
  | .float => "float"
  | .text => "str"
  | .binary => "binary"
  | .timestamp => "timestamp"
  | .merge => "merge"
  | .value => "value"
  | .sequence => "seq"
  | .mapping => "map"
  | .set => "set"
  | .orderedMapping => "omap"
  | .pairs => "pairs"

def all : List StandardType :=
  [.null, .boolean, .integer, .float, .text, .binary, .timestamp, .merge, .value, .sequence,
   .mapping, .set, .orderedMapping, .pairs]

end StandardType

/-- The tag of a node: a standard one, or any other. -/
inductive Tag where
  | standard (type : StandardType)
  | other (address : String)
  deriving DecidableEq, Repr

namespace Tag

def address : Tag -> String
  | .standard type => standardTag ++ type.shortName
  | .other address => address

/-- The tag of an address. -/
def ofAddress (address : String) : Tag :=
  match StandardType.all.find? fun type => standardTag ++ type.shortName == address with
  | some type => .standard type
  | none => .other address

end Tag

/-! ## Spellings -/

def isNumberChar (c : Char) : Bool := c.isDigit || c == '_'

/-- A text without the sign in front of it. -/
def dropSign : List Char -> List Char
  | '-' :: rest => rest
  | '+' :: rest => rest
  | text => text

/-- Whether a text is the exponent of a number; the sign may be required. -/
def isExponent (needsSign : Bool) : List Char -> Bool
  | e :: rest =>
    (e == 'e' || e == 'E') &&
      match rest with
      | '-' :: digits | '+' :: digits => !digits.isEmpty && digits.all Char.isDigit
      | digits => !needsSign && !digits.isEmpty && digits.all Char.isDigit
  | [] => false

/-- Whether a text is a colon and a number below sixty, over and over again; what
is behind these is tested as well. -/
def isSexagesimal (isRest : List Char -> Bool) (limit : Nat) (text : List Char) : Bool :=
  match limit, text with
  | limit + 1, ':' :: a :: b :: rest =>
    if b.isDigit then '0' ≤ a && a ≤ '5' && (isRest rest || isSexagesimal isRest limit rest)
    else a.isDigit && (isRest (b :: rest) || isSexagesimal isRest limit (b :: rest))
  | _, [':', a] => a.isDigit && isRest []
  | _, _ => false

def isBoolean (isOld : Bool) (text : String) : Bool :=
  ["true", "True", "TRUE", "false", "False", "FALSE"].contains text ||
    (isOld && ["y", "Y", "yes", "Yes", "YES", "n", "N", "no", "No", "NO", "on", "On", "ON",
      "off", "Off", "OFF"].contains text)

/-- Whether digits with a point or an exponent behind them are all of a text. -/
def isPointed (text : List Char) : Bool :=
  let whole := text.takeWhile isNumberChar
  match text.dropWhile isNumberChar with
  | '.' :: rest =>
    let behind := rest.dropWhile isNumberChar
    (whole.head?.any Char.isDigit) && (behind.isEmpty || isExponent false behind)
  | rest => (whole.head?.any Char.isDigit) && isExponent false rest

/-- Whether a text is a point with digits behind it. -/
def isFraction : List Char -> Bool
  | '.' :: rest =>
    let behind := rest.dropWhile isNumberChar
    (rest.head?.any isNumberChar) && (behind.isEmpty || isExponent true behind)
  | _ => false

def isFloat (isOld : Bool) (text : List Char) : Bool :=
  let unsigned := dropSign text
  let isRest : List Char -> Bool
    | '.' :: rest => rest.all isNumberChar
    | _ => false
  isPointed unsigned || isFraction (if isOld then text else unsigned) ||
    [".inf", ".Inf", ".INF"].contains (String.ofList unsigned) ||
    [".nan", ".NaN", ".NAN"].contains (String.ofList text) ||
    (isOld && (unsigned.head?.any Char.isDigit) &&
      isSexagesimal isRest text.length (unsigned.dropWhile isNumberChar))

def isOctalChar (c : Char) : Bool := ('0' ≤ c && c ≤ '7') || c == '_'

def isHexChar (c : Char) : Bool :=
  isNumberChar c || ('a' ≤ c && c ≤ 'f') || ('A' ≤ c && c ≤ 'F')

/-- Whether a text is not empty and all of a class. -/
def isRun (isMember : Char -> Bool) (text : List Char) : Bool := !text.isEmpty && text.all isMember

def isInteger (isOld : Bool) (text : List Char) : Bool :=
  let unsigned := dropSign text
  (text.head?.any fun c => c.isDigit || c == '+' || c == '-') &&
    match unsigned with
    | '0' :: 'b' :: digits => isRun (fun c => c == '0' || c == '1' || c == '_') digits
    | '0' :: 'x' :: digits => isRun isHexChar digits
    | '0' :: 'o' :: digits => !isOld && isRun isOctalChar digits
    | _ =>
      if isOld then
        isRun isOctalChar unsigned || unsigned == ['0'] ||
          (unsigned.head?.any fun c => '1' ≤ c && c ≤ '9') &&
            (unsigned.all isNumberChar ||
              isSexagesimal List.isEmpty text.length (unsigned.dropWhile isNumberChar))
      else isRun isNumberChar unsigned

def isNull (text : String) : Bool := ["", "~", "null", "Null", "NULL"].contains text

/-! ## Dates and times -/

/-- The parts of a date, with the time and zone if there are any. -/
structure Timestamp where
  year : List Char
  month : List Char
  day : List Char
  hour : List Char
  minute : List Char
  second : List Char
  fraction : List Char
  zone : List Char
  deriving DecidableEq, Repr

/-- One or two digits in front of a text, and what follows them. -/
def oneOrTwo? : List Char -> Option (List Char × List Char)
  | a :: b :: rest =>
    if !a.isDigit then none
    else if b.isDigit then some ([a, b], rest)
    else some ([a], b :: rest)
  | [a] => if a.isDigit then some ([a], []) else none
  | [] => none

/-- So many digits in front of a text, and what follows them. -/
def digits? (count : Nat) (text : List Char) : Option (List Char × List Char) :=
  let found := text.take count
  if found.length = count && found.all Char.isDigit then some (found, text.drop count) else none

/-- A character in front of a text, and what follows it. -/
def mark? (c : Char) : List Char -> Option (List Char)
  | first :: rest => if first = c then some rest else none
  | [] => none

def isSpace (c : Char) : Bool := c == ' ' || c == '\t'

/-- Whether a text is a zone: the letter of the universal time, or an offset. -/
def isZone : List Char -> Bool
  | ['Z'] => true
  | sign :: rest =>
    (sign == '+' || sign == '-') &&
      match oneOrTwo? rest with
      | some (_, []) => true
      | some (_, ':' :: minutes) => (digits? 2 minutes).any fun found => found.2.isEmpty
      | _ => false
  | [] => false

/-- The time of day in a text, with the date that stands before it. -/
def timeBehind? (year month day text : List Char) : Option Timestamp := do
  let rest ← match text with
    | 'T' :: rest | 't' :: rest => some rest
    | _ => if text.head?.any isSpace then some (text.dropWhile isSpace) else none
  let (hour, rest) ← oneOrTwo? rest
  let (minute, rest) ← digits? 2 (← mark? ':' rest)
  let (second, rest) ← digits? 2 (← mark? ':' rest)
  let (fraction, rest) := match rest with
    | '.' :: behind => (behind.takeWhile Char.isDigit, behind.dropWhile Char.isDigit)
    | _ => ([], rest)
  let zone := rest.dropWhile isSpace
  if rest.isEmpty || isZone zone then
    some ⟨year, month, day, hour, minute, second, fraction, zone⟩
  else none

/-- The date or time that a text spells.  A date alone has its month and day in
two digits, unless short ones are accepted. -/
def timestamp? (acceptsShort : Bool) (text : List Char) : Option Timestamp := do
  let (year, rest) ← digits? 4 text
  let (month, rest) ← oneOrTwo? (← mark? '-' rest)
  let (day, rest) ← oneOrTwo? (← mark? '-' rest)
  if rest.isEmpty then
    if acceptsShort || (month.length = 2 && day.length = 2) then
      some ⟨year, month, day, [], [], [], [], []⟩
    else none
  else timeBehind? year month day rest

/-- The type that the spelling of a plain scalar suggests. -/
def implicitType (isOld : Bool) (text : String) : StandardType :=
  if isBoolean isOld text then .boolean
  else if isFloat isOld text.toList then .float
  else if isInteger isOld text.toList then .integer
  else if text = "<<" then .merge
  else if isNull text then .null
  else if (timestamp? false text.toList).isSome then .timestamp
  else if text = "=" then .value
  else .text

end Yaml
end ImportCensus
