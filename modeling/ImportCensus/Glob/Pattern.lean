import ImportCensus.Text.Quoted

namespace ImportCensus
namespace Glob

/-!
# Path patterns

A pattern is a row of segments between slashes.  Within a segment a star stands
for any run of characters but slashes, a question mark for one of them, and
brackets for one character of a set.  A segment of two stars stands for any
number of directories.  A pattern with a single segment matches at any depth, one
with more, or with a slash in front, from the root on, and one with a slash at the
end matches only what lies in a directory.  An exclamation mark in front turns a
pattern's verdict around.
-/

/-- One wildcard or character of a segment. -/
inductive Piece where
  | char (c : Char)
  /-- Any character but a slash. -/
  | one
  /-- Any run of characters without a slash. -/
  | many
  /-- A character inside, or outside, a set of ranges. -/
  | set (negated : Bool) (ranges : List (Char × Char))
  deriving DecidableEq, Repr

inductive Segment where
  /-- Any number of directories. -/
  | anyDepth
  | glob (pieces : List Piece)
  deriving DecidableEq, Repr

/-- What a pattern matches. -/
inductive Shape where
  | nothing
  /-- Every path that is not empty. -/
  | everything
  /-- Every path with a slash in it. -/
  | nested
  | path (segments : List Segment)
  deriving DecidableEq, Repr

structure Pattern where
  negated : Bool
  shape : Shape
  deriving DecidableEq, Repr

/-- Why a line is no pattern. -/
inductive PatternError where
  /-- The pattern is empty behind its mark, or ends with a lone backslash. -/
  | malformed (pattern : String)
  /-- A set holds a range whose end lies before its beginning. -/
  | reversedRange
  deriving DecidableEq, Repr

def PatternError.message : PatternError -> String
  | .malformed pattern => "Invalid git pattern: " ++ Text.quoted pattern
  | .reversedRange => "bad character range"

/-- How the pieces of a segment can fail. -/
inductive PieceFault where
  /-- A backslash with nothing behind it. -/
  | loneBackslash
  /-- A bracket that is never closed. -/
  | unclosed
  deriving DecidableEq, Repr

/-- The ranges of a set's text.  A hyphen between two characters makes a range. -/
def setRanges : List Char -> List (Char × Char)
  | low :: '-' :: high :: rest => (low, high) :: setRanges rest
  | c :: rest => (c, c) :: setRanges rest
  | [] => []

/-- Whether a set holds a range whose end lies before its beginning. -/
def Piece.isReversed : Piece -> Bool
  | .set _ ranges => ranges.any fun range => decide (range.2 < range.1)
  | _ => false

def Segment.isReversed : Segment -> Bool
  | .glob pieces => pieces.any Piece.isReversed
  | .anyDepth => false

def Shape.isReversed : Shape -> Bool
  | .path segments => segments.any Segment.isReversed
  | _ => false

/-- The mark that negates a set. -/
def isNegation (c : Char) : Bool := c == '!' || c == '^'

/-- Split a set's text behind its opening bracket: whether it is negated, what
stands before the closing bracket, and how many characters the whole takes.  A
closing bracket in front stands for itself. -/
def splitSet? (text : List Char) : Option (Bool × List Char × Nat) :=
  let negated := text.head?.any isNegation
  let body := if negated then text.drop 1 else text
  let first := if body.head? = some ']' then [']'] else []
  let more := (body.drop first.length).takeWhile fun c => c != ']'
  let inner := first ++ more
  if inner.length < body.length then
    some (negated, inner, inner.length + 1 + if negated then 1 else 0)
  else none

/-- The pieces of a segment. -/
def pieces : List Char -> Except PieceFault (List Piece)
  | [] => .ok []
  | c :: rest =>
    if c = '\\' then
      match rest with
      | [] => .error .loneBackslash
      | d :: behind => (pieces behind).map fun others => .char d :: others
    else if c = '[' then
      match splitSet? rest with
      | none => .error .unclosed
      | some (negated, inner, size) =>
        (pieces (rest.drop size)).map fun others => .set negated (setRanges inner) :: others
    else
      let piece := if c = '*' then .many else if c = '?' then .one else .char c
      (pieces rest).map fun others => piece :: others
termination_by text => text.length
decreasing_by all_goals simp_all; try omega

/-- The parts of a text between slashes. -/
def splitSlash : List Char -> List (List Char)
  | [] => [[]]
  | c :: rest =>
    if c = '/' then [] :: splitSlash rest
    else match splitSlash rest with
      | first :: others => (c :: first) :: others
      | [] => [[c]]

def doubleStar : List Char := ['*', '*']

/-- Runs of double stars count as one. -/
def collapse : List (List Char) -> List (List Char)
  | first :: second :: rest =>
    if first = doubleStar && second = doubleStar then collapse (second :: rest)
    else first :: collapse (second :: rest)
  | parts => parts

/-- The parts of a pattern, relative to the root: a single part is sought at any
depth, and an empty last part stands for all that lies below. -/
def normalParts (parts : List (List Char)) : List (List Char) :=
  let anchored := match parts with
    | [] :: rest => rest
    | [only] => if only = doubleStar then [only] else [doubleStar, only]
    | [only, []] => if only = doubleStar then parts else doubleStar :: parts
    | _ => parts
  let closed := match anchored.getLast? with
    | some [] => anchored.dropLast ++ [doubleStar]
    | _ => anchored
  collapse closed

/-- The segment of a part. -/
def segment (part : List Char) : Except PieceFault Segment :=
  if part = doubleStar then .ok .anyDepth else (pieces part).map .glob

/-- The shape of a pattern's text behind its negation mark, if it has one. -/
def shape? (text : List Char) : Except PieceFault (Option Shape) :=
  let parts := splitSlash text
  let inside := parts.getLast? == some []
  match normalParts parts with
  | [] => .ok none
  | [single] =>
    if single = doubleStar then .ok (some (if inside then .nested else .everything))
    else (segment single).map fun first => some (.path [first])
  | normal =>
    if normal = [doubleStar, ['*']] then .ok (some .everything)
    else if normal = [doubleStar, ['*'], doubleStar] then
      .ok (some (if inside then .nested else .everything))
    else (normal.mapM segment).map fun segments => some (.path segments)

/-- Read a line, without white space around it, as a pattern.  A bracket that is
never closed makes a pattern that matches nothing, and so does a slash alone. -/
def Pattern.read (line : List Char) : Except PatternError Pattern :=
  let negated := line.head? = some '!'
  let text := if negated then line.drop 1 else line
  if line = ['/'] then .ok ⟨false, .nothing⟩
  else match shape? text with
    | .ok (some shape) => if shape.isReversed then .error .reversedRange else .ok ⟨negated, shape⟩
    | .ok none => .error (.malformed (String.ofList line))
    | .error .loneBackslash => .error (.malformed (String.ofList line))
    | .error .unclosed => .ok ⟨negated, .nothing⟩

end Glob
end ImportCensus
