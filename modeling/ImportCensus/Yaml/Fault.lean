import ImportCensus.Config.Datum
import ImportCensus.Number.Numeral
import ImportCensus.Text.Quoted
import ImportCensus.Yaml.Cursor

namespace ImportCensus
namespace Yaml

/-!
# Faults of documents

What can be wrong with a document.  A fault tells what was being read and where
that began, what the problem is and where it is, and shows the lines of both
places with a caret.
-/

/-- What is being read when a fault is found. -/
inductive Activity where
  | nextToken
  | simpleKey
  | directive
  | alias
  | anchor
  | tag
  | tagPart (partName : String)
  | tagAddress (partName : String)
  | blockScalar
  | unevenBlockScalar
  | quotedScalar
  | doubleQuoted
  | blockNode
  | flowNode
  | taggedNode
  | blockSequence
  | blockMapping
  | flowSequence
  | flowMapping
  | singleDocument
  | mapping
  | orderedMapping
  | pairs
  deriving DecidableEq, Repr

def Activity.text : Activity -> String
  | .nextToken => "while scanning for the next token"
  | .simpleKey => "while scanning a simple key"
  | .directive => "while scanning a directive"
  | .alias => "while scanning an alias"
  | .anchor => "while scanning an anchor"
  | .tag => "while scanning a tag"
  | .tagPart partName => "while scanning an " ++ partName
  | .tagAddress partName => "while parsing an " ++ partName
  | .blockScalar => "while scanning a block scalar"
  | .unevenBlockScalar => "more indented follow up line than first in a block scalar"
  | .quotedScalar => "while scanning a quoted scalar"
  | .doubleQuoted => "while scanning a double-quoted scalar"
  | .blockNode => "while parsing a block node"
  | .flowNode => "while parsing a flow node"
  | .taggedNode => "while parsing a node"
  | .blockSequence => "while parsing a block collection"
  | .blockMapping => "while parsing a block mapping"
  | .flowSequence => "while parsing a flow sequence"
  | .flowMapping => "while parsing a flow mapping"
  | .singleDocument => "expected a single document in the stream"
  | .mapping => "while constructing a mapping"
  | .orderedMapping => "while constructing an ordered map"
  | .pairs => "while constructing pairs"

/-- What is wrong. -/
inductive Problem where
  | cannotStart (found : Char)
  | notAllowed (what : String)
  | noColon
  /-- One character was expected and another one found. -/
  | expected (what : String) (found : Char)
  | noIndentation
  | endOfText
  | documentEdge
  | unknownEscape (found : Char)
  | badBytes (reason : String)
  | noContent (found : String)
  | unexpected (what : String) (found : String)
  | noDocumentStart (found : String)
  | behindDocumentEnd (found : String)
  | repeatedVersion
  | foreignVersion
  | repeatedHandle (handle : String)
  | undefinedHandle (handle : String)
  | undefinedAlias (name : String)
  | anotherDocument
  | unknownTag (tag : String)
  | repeatedKey (key value first : Config.Datum)
  | repeatedMerge (key : String)
  | unhashableKey
  /-- A node of one kind was expected and one of another kind found. -/
  | wrongNode (what found : String)
  | noTimestamp (text : String)
  | noBinary (reason : String)
  deriving Repr

/-- A character in quotes. -/
def quotedCharacter (c : Char) : String := String.ofList (Text.quotedChars [c])

def Problem.text : Problem -> String
  | .cannotStart found =>
    "found character " ++ quotedCharacter found ++ " that cannot start any token"
  | .notAllowed what => what ++ " are not allowed here"
  | .noColon => "could not find expected ':'"
  | .expected what found => "expected " ++ what ++ ", but found " ++ quotedCharacter found
  | .noIndentation => "expected indentation indicator in the range 1-9, but found 0"
  | .endOfText => "found unexpected end of stream"
  | .documentEdge => "found unexpected document separator"
  | .unknownEscape found => "found unknown escape character " ++ quotedCharacter found
  | .badBytes reason => reason
  | .noContent found => "expected the node content, but found " ++ Text.quoted found
  | .unexpected what found => "expected " ++ what ++ Text.quoted found
  | .noDocumentStart found =>
    "expected '<document start>', but found (" ++ Text.quoted found ++ ",)"
  | .behindDocumentEnd found =>
    "found non-comment content after document end marker, (" ++ Text.quoted found ++ ",)"
  | .repeatedVersion => "found duplicate YAML directive"
  | .foreignVersion => "found incompatible YAML document (version 1.* is required)"
  | .repeatedHandle handle => "duplicate tag handle " ++ Text.quoted handle
  | .undefinedHandle handle => "found undefined tag handle " ++ Text.quoted handle
  | .undefinedAlias name => "found undefined alias " ++ Text.quoted name
  | .anotherDocument => "but found another document"
  | .unknownTag tag => "could not determine a constructor for the tag " ++ Text.quoted tag
  | .repeatedKey key value first =>
    "found duplicate key \"" ++ key.keyText ++ "\" with value \"" ++ value.keyText ++
      "\" (original value: \"" ++ first.keyText ++ "\")"
  | .repeatedMerge key => "found duplicate key \"" ++ key ++ "\""
  | .unhashableKey => "found unhashable key"
  | .wrongNode what found => "expected " ++ what ++ ", but found " ++ found
  | .noTimestamp text => "failed to construct timestamp from \"" ++ text ++ "\""
  | .noBinary reason => reason

/-- What of the data in a problem the limits bear on. -/
def Problem.shows : Problem -> List Outline
  | .repeatedKey key value first => [key.keyOutline, value.keyOutline, first.keyOutline]
  | _ => []

/-- Where to read more about repeated keys. -/
def keysNote (indent : String) : String :=
  "\nTo suppress this check see:\n" ++ indent ++
    "https://yaml.dev/doc/ruamel.yaml/api/#Duplicate_keys\n"

/-- What is said behind some problems. -/
def Problem.note? : Problem -> Option String
  | .repeatedKey _ _ _ => some (keysNote "    ")
  | .repeatedMerge _ => some (keysNote "   ")
  | _ => none

/-- Why a value cannot be made.  None of these faults has a place in the document. -/
inductive ValueFault where
  /-- A text spells no integer in some base. -/
  | integer (base : Nat) (text : String)
  /-- A text spells no number. -/
  | number (text : String)
  /-- A number has more than one exponent. -/
  | repeatedExponent
  /-- A number counts sixties up to a power that no binary number reaches. -/
  | overflow
  /-- A numeral has no characters at all. -/
  | noNumeral
  /-- An integer has too many digits. -/
  | manyDigits (count : Nat)
  /-- A word is no truth value. -/
  | noTruth (word : String)
  /-- The calendar or the clock does not have a value. -/
  | outOfRange (what : String)
  /-- The code of an escape is beyond all characters. -/
  | noCharacter (code : Nat)
  /-- Something of a type that cannot be looked up stands in a key. -/
  | unhashable (typeName : String)
  /-- An ordered mapping has an entry twice. -/
  | repeatedEntry
  deriving DecidableEq, Repr

/-- The longest quoted text in the message of an integer, in characters. -/
def longestQuote : Nat := 200

def ValueFault.message : ValueFault -> String
  | .integer base text =>
    "invalid literal for int() with base " ++ toString base ++ ": " ++
      String.ofList ((Text.quotedChars text.toList).take longestQuote)
  | .number text => "could not convert string to float: " ++ Text.quoted text
  | .repeatedExponent => "too many values to unpack (expected 2)"
  | .overflow => "int too large to convert to float"
  | .noNumeral => "string index out of range"
  | .manyDigits count =>
    "Exceeds the limit (" ++ toString Number.mostDigits ++
      " digits) for integer string conversion: value has " ++ toString count ++
      " digits; use sys.set_int_max_str_digits() to increase the limit"
  | .noTruth word => Text.quoted word
  | .outOfRange what => what
  | .noCharacter code =>
    if code < 0x80000000 then "chr() arg not in range(0x110000)"
    else "Python int too large to convert to C int"
  | .unhashable typeName => "unhashable type: " ++ Text.quoted typeName
  | .repeatedEntry => ""

inductive Fault where
  /-- A character that no document may hold, and its index. -/
  | character (code : Nat) (index : Nat)
  | marked (activity : Option (Activity × Option Mark)) (problem : Option (Problem × Mark))
  | value (fault : ValueFault)
  deriving Repr

namespace Fault

/-- What of the data in a fault the limits bear on. -/
def shows : Fault -> List Outline
  | .marked _ (some (problem, _)) => problem.shows
  | _ => []

/-- A problem at a place, in something that began at another place. -/
def inside (activity : Activity) (start : Mark) (problem : Problem) (place : Mark) : Fault :=
  .marked (some (activity, some start)) (some (problem, place))

/-- A problem at a place. -/
def alone (problem : Problem) (place : Mark) : Fault := .marked none (some (problem, place))

end Fault

/-- The name of a document that is given as a text. -/
def documentName : String := "<unicode string>"

/-- How far a shown line reaches to each side. -/
def snippetReach : Nat := 37

/-- How much is cut from a shown line that reaches too far. -/
def snippetCut : Nat := 5

/-- What is shown for the part of a line that is cut. -/
def ellipsis : List Char := " ... ".toList

/-- A side of a shown line, nearest character first, and whether it was cut. -/
def snippetSide (side : List Char) : List Char × Bool :=
  let line := side.takeWhile fun c => !(c == endMark || isBreak c)
  if snippetReach ≤ line.length then (line.take (snippetReach - snippetCut), true)
  else (line, false)

/-- The line around a place, with a caret below it. -/
def snippet (text : List Char) (mark : Mark) : String :=
  let (before, cutBefore) := snippetSide (text.take mark.index).reverse
  let (behind, cutBehind) := snippetSide (text.drop mark.index)
  let head := if cutBefore then ellipsis else []
  let tail := if cutBehind then ellipsis else []
  let indent := List.replicate 4 ' '
  String.ofList (indent ++ head ++ before.reverse ++ behind ++ tail ++ ['\n'] ++ indent ++
    List.replicate (head.length + before.length) ' ') ++
    "^ (line: " ++ toString (mark.line + 1) ++ ")"

/-- A place in a document as it is shown. -/
def Mark.shown (text : List Char) (mark : Mark) : String :=
  "  in \"" ++ documentName ++ "\", line " ++ toString (mark.line + 1) ++ ", column " ++
    toString (mark.column + 1) ++ ":\n" ++ snippet text mark

/-- A code point in at least four hexadecimal digits. -/
def codeText (code : Nat) : String := String.ofList (Text.hexChars 4 code)

/-- The message of a fault in a document. -/
def Fault.message (text : List Char) : Fault -> String
  | .character code index =>
    "unacceptable character #x" ++ codeText code ++ ": special characters are not allowed\n  in \"" ++
      documentName ++ "\", position " ++ toString index
  | .value fault => fault.message
  | .marked activity problem =>
    let began := match activity with
      | none => []
      | some (activity, start) =>
        let samePlace := match start, problem with
          | some start, some (_, place) => start.line = place.line && start.column = place.column
          | _, _ => false
        activity.text :: if samePlace then [] else start.toList.map (Mark.shown text)
    let found := match problem with
      | none => []
      | some (problem, place) => [problem.text, place.shown text] ++ problem.note?.toList
    "\n".intercalate (began ++ found)

end Yaml
end ImportCensus
