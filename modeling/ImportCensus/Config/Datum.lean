import ImportCensus.Json.Value
import ImportCensus.Text.Quoted

namespace ImportCensus
namespace Config

/-!
# Configuration data

What a configuration document denotes, before any schema is applied: scalars of
several types, sequences, and mappings whose keys may be anything that is no
sequence or mapping.  `Datum.shown` writes a datum the way messages quote it, as far as the limits
allow it (`Datum.outline`).
-/

/-- A date of the calendar. -/
structure Date where
  year : Nat
  month : Nat
  day : Nat
  deriving DecidableEq, Repr

/-- A time zone: its offset from UTC in minutes, and its name. -/
structure Zone where
  minutes : Int
  name : String
  deriving DecidableEq, Repr

/-- A date with a time of day, and perhaps a time zone. -/
structure DateTime where
  date : Date
  hour : Nat
  minute : Nat
  second : Nat
  microsecond : Nat
  zone : Option Zone
  deriving DecidableEq, Repr

inductive Datum where
  | null
  | boolean (value : Bool)
  | integer (value : Int)
  | float (value : Number.Binary64)
  | text (value : String)
  | bytes (value : List Nat)
  | date (value : Date)
  | dateTime (value : DateTime)
  | list (items : List Datum)
  | tuple (items : List Datum)
  | set (items : List Datum)
  | mapping (entries : List (Datum × Datum))
  deriving Repr, Inhabited

/-- A byte string in quotes. -/
def quotedBytes (bytes : List Nat) : List Char :=
  let marks := bytes.map Char.ofNat
  let mark := Text.quoteMark marks
  'b' :: mark :: (marks.flatMap (fun c =>
    if c.toNat < 127 then Text.quotedChar mark c
    else '\\' :: 'x' :: Text.hexChars 2 c.toNat) ++ [mark])

/-- Texts with a separator between them. -/
def joined (separator : List Char) : List (List Char) -> List Char
  | [] => []
  | [text] => text
  | text :: rest => text ++ separator ++ joined separator rest

def natChars (n : Nat) : List Char := Nat.toDigits 10 n

def commaBlank : List Char := [',', ' ']

/-- A duration as it is shown: its days, if any, and its seconds. -/
def durationChars (minutes : Int) : List Char :=
  let days := minutes / (24 * 60)
  let seconds := (minutes % (24 * 60)) * 60
  let parts :=
    (if days = 0 then [] else ["days=".toList ++ Json.integerChars days]) ++
    (if seconds = 0 then [] else ["seconds=".toList ++ Json.integerChars seconds])
  let body := if parts.isEmpty then ['0'] else joined commaBlank parts
  "datetime.timedelta(".toList ++ body ++ [')']

def dateChars (date : Date) : List Char :=
  "datetime.date(".toList ++
    joined commaBlank [natChars date.year, natChars date.month, natChars date.day] ++ [')']

def dateTimeChars (value : DateTime) : List Char :=
  let fraction := if value.microsecond = 0 then [] else [natChars value.microsecond]
  let second := if value.second = 0 && value.microsecond = 0 then [] else [natChars value.second]
  let zone := match value.zone with
    | none => []
    | some zone =>
      ["tzinfo=datetime.timezone(".toList ++ durationChars zone.minutes ++ commaBlank ++
        Text.quotedChars zone.name.toList ++ [')']]
  "datetime.datetime(".toList ++
    joined commaBlank ([natChars value.date.year, natChars value.date.month,
      natChars value.date.day, natChars value.hour, natChars value.minute] ++ second ++
      fraction ++ zone) ++ [')']

namespace Datum

mutual

/-- A datum as messages quote it. -/
def shownChars : Datum -> List Char
  | .null => "None".toList
  | .boolean true => "True".toList
  | .boolean false => "False".toList
  | .integer value => Json.integerChars value
  | .float value => Number.shortestChars value
  | .text value => Text.quotedChars value.toList
  | .bytes value => quotedBytes value
  | .date value => dateChars value
  | .dateTime value => dateTimeChars value
  | .list items => '[' :: (shownItems items ++ [']'])
  | .tuple [item] => '(' :: (shownChars item ++ [',', ')'])
  | .tuple items => '(' :: (shownItems items ++ [')'])
  | .set [] => "set()".toList
  | .set items => '\x7b' :: (shownItems items ++ ['\x7d'])
  | .mapping entries => '\x7b' :: (shownEntries entries ++ ['\x7d'])

def shownItems : List Datum -> List Char
  | [] => []
  | [item] => shownChars item
  | item :: rest => shownChars item ++ commaBlank ++ shownItems rest

def shownEntries : List (Datum × Datum) -> List Char
  | [] => []
  | [(key, value)] => shownChars key ++ ':' :: ' ' :: shownChars value
  | (key, value) :: rest =>
    shownChars key ++ ':' :: ' ' :: (shownChars value ++ commaBlank ++ shownEntries rest)

end

def shown (datum : Datum) : String := String.ofList datum.shownChars

/-- A number in at least so many digits. -/
def padded (width n : Nat) : List Char :=
  let digits := natChars n
  List.replicate (width - digits.length) '0' ++ digits

def plainDate (date : Date) : List Char :=
  padded 4 date.year ++ '-' :: padded 2 date.month ++ '-' :: padded 2 date.day

/-- A date with its time, in digits. -/
def plainDateTime (value : DateTime) : List Char :=
  let fraction := if value.microsecond = 0 then [] else '.' :: padded 6 value.microsecond
  let zone := match value.zone with
    | none => []
    | some zone =>
      (if zone.minutes < 0 then '-' else '+') :: padded 2 (zone.minutes.natAbs / 60) ++
        ':' :: padded 2 (zone.minutes.natAbs % 60)
  plainDate value.date ++ ' ' :: padded 2 value.hour ++ ':' :: padded 2 value.minute ++
    ':' :: padded 2 value.second ++ fraction ++ zone

/-- A datum as the name of a key: texts and dates without quotes. -/
def keyText : Datum -> String
  | .text value => value
  | .date value => String.ofList (plainDate value)
  | .dateTime value => String.ofList (plainDateTime value)
  | other => other.shown

mutual

/-- What of a datum the limits bear on where messages quote it.  Whatever is quoted has a level of
its own, and the items of a set are quoted as those of a list. -/
def outline : Datum -> Outline
  | .integer value => .level [.integer value]
  | .list items | .tuple items => .level (outlines items)
  | .set [] => .level []
  | .set items => .level [.level (outlines items)]
  | .mapping entries => .level (outlinesOfEntries entries)
  | _ => .level []

def outlines : List Datum -> List Outline
  | [] => []
  | item :: rest => outline item :: outlines rest

def outlinesOfEntries : List (Datum × Datum) -> List Outline
  | [] => []
  | (key, value) :: rest => outline key :: outline value :: outlinesOfEntries rest

end

/-- What of a datum the limits bear on where it is the name of a key. -/
def keyOutline : Datum -> Outline
  | .text _ | .date _ | .dateTime _ => .plain
  | other => other.outline

mutual

/-- The datum that a JSON value denotes. -/
def ofJson : Json.Value -> Datum
  | .null => .null
  | .boolean value => .boolean value
  | .integer value => .integer value
  | .number value => .float value
  | .string value => .text value
  | .array elements => .list (ofJsonAll elements)
  | .object members => .mapping (ofMembers members)

def ofJsonAll : List Json.Value -> List Datum
  | [] => []
  | value :: rest => ofJson value :: ofJsonAll rest

def ofMembers : List (String × Json.Value) -> List (Datum × Datum)
  | [] => []
  | (name, value) :: rest => (.text name, ofJson value) :: ofMembers rest

end

/-- The value of a text key in a list of entries. -/
def lookup? (name : String) : List (Datum × Datum) -> Option Datum
  | [] => none
  | (.text key, value) :: rest => if key = name then some value else lookup? name rest
  | _ :: rest => lookup? name rest

end Datum

end Config
end ImportCensus
