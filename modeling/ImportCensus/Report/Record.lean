import ImportCensus.Census.Result
import ImportCensus.Json.Value
import ImportCensus.Text.Blank

namespace ImportCensus
namespace Report

/-!
# The report as a record

A record is what a report holds when it is written as JSON: the version, two
counts, the packages in order and the elapsed seconds, rounded to six places.
Counts are accepted in several forms, as long as they are natural numbers; every
field that is not acceptable is reported.
-/

/-- The version of the program. -/
def version : String := "0.3.0"

/-- The fields of a record that are checked. -/
inductive Field where
  | fileCount
  | failedFiles
  | elapsed
  deriving DecidableEq, Repr

/-- Why a field is not acceptable. -/
inductive FieldFault where
  | noInteger
  | unreadableText
  | textTooLong
  | fraction
  | notFinite
  | negative
  deriving DecidableEq, Repr

def FieldFault.message : FieldFault -> String
  | .noInteger => "Input should be a valid integer"
  | .unreadableText => "Input should be a valid integer, unable to parse string as an integer"
  | .textTooLong => "Unable to parse input string as an integer, exceeded maximum size"
  | .fraction => "Input should be a valid integer, got a number with a fractional part"
  | .notFinite => "Input should be a finite number"
  | .negative => "Input should be greater than or equal to 0"

/-- White space around the text of a count. -/
def isPadding (c : Char) : Bool :=
  Text.isWhite c && !(28 ≤ c.toNat && c.toNat ≤ 31)

def trimPadding (text : List Char) : List Char :=
  ((text.dropWhile isPadding).reverse.dropWhile isPadding).reverse

/-- The text of a count from its first digit that is no zero, or from the last
zero before a point or at the end; none if it does not begin like a number. -/
def dropZeros? : List Char -> Option (List Char)
  | [] => none
  | first :: rest =>
    if first == '0' then go first rest
    else if first.isDigit || first == '-' then some (first :: rest)
    else none
where
  go (last : Char) : List Char -> Option (List Char)
    | [] => some [last]
    | c :: rest =>
      if c == '0' || c == '_' then go c rest
      else if c.isDigit then some (c :: rest)
      else if c == '.' then some (last :: c :: rest)
      else none

/-- The text without a point that only zeros follow. -/
def dropFraction (text : List Char) : List Char :=
  let fraction := (text.dropWhile fun c => c != '.').drop 1
  if fraction.all fun c => c == '0' then text.takeWhile fun c => c != '.' else text

/-- Whether two underscores stand side by side. -/
def hasDouble : List Char -> Bool
  | '_' :: '_' :: _ => true
  | _ :: rest => hasDouble rest
  | [] => false

/-- The text without the underscores between its digits. -/
def dropUnderscores (text : List Char) : List Char :=
  if text.head? == some '_' || text.getLast? == some '_' || hasDouble text then text
  else text.filter fun c => c != '_'

/-- The number that digits spell. -/
def natOfDigits? (digits : List Char) : Option Nat :=
  if digits.isEmpty then none
  else digits.foldlM (fun value c =>
    if c.isDigit then some (value * 10 + (c.toNat - '0'.toNat)) else none) 0

/-- The longest text of a count. -/
def longestCount : Nat := 4300

/-- The integer that a text spells. -/
def integerOfText (text : List Char) : Except FieldFault Int :=
  let trimmed := trimPadding text
  let unsigned := match trimmed with
    | '+' :: '-' :: _ => []
    | '+' :: rest => rest
    | other => other
  match dropZeros? unsigned with
  | none => .error .unreadableText
  | some digits =>
    let digits := dropUnderscores (dropFraction digits)
    if longestCount < digits.length then .error .textTooLong
    else match digits with
      | '-' :: magnitude =>
        match natOfDigits? magnitude with
        | some value => .ok (-(value : Int))
        | none => .error .unreadableText
      | magnitude =>
        match natOfDigits? magnitude with
        | some value => .ok value
        | none => .error .unreadableText

/-- The integer that a binary number is. -/
def integerOfNumber (x : Number.Binary64) : Except FieldFault Int :=
  match x with
  | .nan | .infinite _ => .error .notFinite
  | .finite negative significand exponent =>
    let value := Number.Quotient.shift ⟨negative, significand, 1⟩ exponent
    if value.num % value.den ≠ 0 then .error .fraction
    else
      let magnitude := value.num / value.den
      if Nat.pow 2 63 ≤ magnitude then .error .textTooLong
      else .ok (if negative then -(magnitude : Int) else magnitude)

/-- The count that a value is. -/
def countOf (value : Json.Value) : Except FieldFault Nat := do
  let count ← match value with
    | .boolean flag => .ok (if flag then 1 else 0)
    | .integer count => .ok count
    | .number x => integerOfNumber x
    | .string text => integerOfText text.toList
    | _ => .error .noInteger
  if 0 ≤ count then .ok count.toNat else .error .negative

/-- The places that elapsed seconds are rounded to. -/
def elapsedPlaces : Nat := 6

/-- Elapsed seconds as a record keeps them. -/
def elapsedOf (seconds : Number.Binary64) : Except FieldFault Number.Binary64 :=
  let rounded := Number.roundTo elapsedPlaces seconds
  if rounded.atLeast ⟨false, 0, 1⟩ then .ok rounded else .error .negative

structure Record where
  fileCount : Nat
  failedFiles : Nat
  packages : Census.PackageSet
  elapsed : Number.Binary64

namespace Record

/-- The record of a result. -/
def ofResult (result : Census.Result) (elapsed : Number.Binary64) : Record :=
  ⟨result.fileCount, result.failedFiles, result.packages, Number.roundTo elapsedPlaces elapsed⟩

/-- The fault of a field, if it has one. -/
def faultOf {α : Type} (field : Field) : Except FieldFault α -> List (Field × FieldFault)
  | .ok _ => []
  | .error fault => [(field, fault)]

/-- The record of some values, or the faults of all fields. -/
def ofValues (fileCount failedFiles : Json.Value) (packages : Census.PackageSet)
    (elapsed : Number.Binary64) : Except (List (Field × FieldFault)) Record :=
  match countOf fileCount, countOf failedFiles, elapsedOf elapsed with
  | .ok fileCount, .ok failedFiles, .ok elapsed =>
    .ok ⟨fileCount, failedFiles, packages, elapsed⟩
  | fileCount, failedFiles, elapsed =>
    .error (faultOf .fileCount fileCount ++ faultOf .failedFiles failedFiles ++
      faultOf .elapsed elapsed)

/-- The members of a record in JSON, given the value of the elapsed time. -/
def members (record : Record) (elapsed : Json.Value) : List (String × Json.Value) :=
  [("version", .string version), ("fileCount", .integer record.fileCount),
    ("failedFiles", .integer record.failedFiles),
    ("packages", .array (record.packages.members.map Json.Value.string)), ("elapsed", elapsed)]

/-- A record in JSON. -/
def toJson (record : Record) : Json.Value :=
  .object (record.members (.number record.elapsed))

end Record

end Report
end ImportCensus
