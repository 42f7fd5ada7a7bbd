import ImportCensus.Source.Expression

namespace ImportCensus
namespace Source

open Syntax (PhraseKind)

/-!
# Patterns of case clauses

The patterns of `match` statements have a grammar of their own: literals,
dotted names, classes with arguments, sequences, mappings, alternatives, and
names bound with `as`.  As with expressions, every reader takes the reader for
nested patterns as an argument.
-/

namespace Reader

/-- A name with the names behind its dots. -/
def dottedTail : Nat -> Reader (List Phrase)
  | 0 => return []
  | limit + 1 => do
    match ← symbol? "." with
    | none => return []
    | some dot =>
      let name ← identifier
      let rest ← dottedTail limit
      return dot :: name :: rest

/-- Names joined with dots. -/
def dottedName : Reader Phrase := do
  let first ← identifier
  let rest ← dottedTail (← count)
  return .build .dottedName first rest

/-- A number. -/
def number : Reader Phrase := do
  match ← peek with
  | some token =>
    if token.kind = .integer then named .integer
    else if token.kind = .float then named .float
    else fail
  | none => fail

/-- A number with its sign, and perhaps an imaginary part. -/
def numberPattern : Reader (List Phrase) := do
  let sign ← symbol? "-"
  let real ← number
  let parts := sign.toList ++ [real]
  if (← atSymbol "+") || (← atSymbol "-") then
    let link ← plain
    let imaginary ← number
    return [.over .complexPattern (parts ++ [link, imaginary])]
  else return parts

/-- Whether a token may begin a pattern. -/
def startsPattern (token : Token) : Bool :=
  match token.kind with
  | .name | .integer | .float | .stringOpen => true
  | .keyword => ["None", "True", "False"].contains token.text
  | .symbol => ["(", "[", "\x7b", "-", "*", "**"].contains token.text
  | _ => false

section Nested

-- The reader for a nested pattern.
variable (inner : Reader Phrase)

/-- Patterns up to a closing bracket. -/
def patternsUntil (closing : String) : Reader (List Phrase) := do
  let parts ← if ← next startsPattern then commaList startsPattern inner else pure []
  return parts ++ [← symbol closing]

/-- A pattern for what a star collects. -/
def splatPattern : Reader Phrase := do
  let star ← plain
  return .build .splatPattern star [← identifier]

mutual

/-- A pattern without alternatives, as the parts it puts into the tree. -/
def closedPattern : Nat -> Reader (List Phrase)
  | 0 => fail
  | limit + 1 => do
    match ← peek with
    | none => fail
    | some token =>
      match token.kind, token.text with
      | .symbol, "*" | .symbol, "**" => return [← splatPattern]
      | .symbol, "-" => numberPattern
      | .integer, _ | .float, _ => numberPattern
      | .stringOpen, _ => return [← strings expression]
      | .keyword, "None" => return [← named .noneLiteral]
      | .keyword, "True" => return [← named .trueLiteral]
      | .keyword, "False" => return [← named .falseLiteral]
      | .symbol, "(" =>
        let opening ← plain
        return [.build .tuplePattern opening (← patternsUntil inner ")")]
      | .symbol, "[" =>
        let opening ← plain
        return [.build .listPattern opening (← patternsUntil inner "]")]
      | .symbol, "\x7b" =>
        let opening ← plain
        let entries ←
          if ← next startsPattern then commaList startsPattern (entryPattern limit) else pure []
        return [.build .dictPattern opening (entries ++ [← symbol "\x7d"])]
      | .name, _ =>
        let name ← dottedName
        if ← atSymbol "(" then
          let opening ← plain
          return [.build .classPattern name (opening :: (← patternsUntil inner ")"))]
        else return [name]
      | _, _ => fail

/-- An entry of a mapping pattern: a key with the pattern of its value, or what
a double star collects. -/
def entryPattern : Nat -> Reader Phrase
  | 0 => fail
  | limit + 1 => do
    if ← atSymbol "**" then splatPattern
    else
      let key ← closedPattern limit
      let colon ← symbol ":"
      let value ← inner
      return .over .pair (key ++ [colon, value])

end

/-- Alternatives behind the first one. -/
def alternatives : Nat -> Reader (List Phrase)
  | 0 => return []
  | limit + 1 => do
    match ← symbol? "|" with
    | none => return []
    | some bar =>
      let first ← closedPattern inner 3
      let rest ← alternatives limit
      return bar :: first ++ rest

/-- Alternatives, as the parts they put into the tree. -/
def unionPattern : Reader (List Phrase) := do
  let first ← closedPattern inner 3
  match ← alternatives inner (← count) with
  | [] => return first
  | rest => return [.over .unionPattern (first ++ rest)]

/-- A whole pattern: alternatives that may be bound to a name, or the pattern
of a keyword. -/
def casePatternWith : Reader Phrase := do
  if (← next fun token => token.kind = .name) && (← isSecond .symbol "=") then
    let name ← identifier
    let equals ← plain
    let value ← unionPattern inner
    return .build .casePattern (.build .keywordPattern name (equals :: value)) []
  else
    let value ← unionPattern inner
    if ← atWord "as" then
      let link ← plain
      let name ← identifier
      return .build .casePattern (.over .asPattern (.over .casePattern value :: [link, name])) []
    else return .over .casePattern value

end Nested

/-- A pattern that is nested less deeply than the limit. -/
def nestedPattern : Nat -> Reader Phrase
  | 0 => fail
  | limit + 1 => casePatternWith (nestedPattern limit)

/-- A pattern of a case clause. -/
def casePattern : Reader Phrase := do
  nestedPattern ((← count) + 1)

end Reader

end Source
end ImportCensus
