import ImportCensus.Source.Reader

namespace ImportCensus
namespace Source

open Syntax (PhraseKind)

/-!
# Expressions

Expressions are read by binding strength: first an operand with its prefix
operators, then operators as long as they bind at least as strongly as asked
for.  Every function takes the reader for nested expressions as an argument, and
`expression` closes the circle.  A nested expression is only read behind a token
that has been taken, so the number of tokens ahead bounds the nesting.
-/

/-- Binding strength: the greater, the stronger. -/
abbrev Strength := Nat

namespace Strength

/-- Anything, including lambdas, conditionals and named expressions. -/
def whole : Strength := 0
def disjunction : Strength := 1
def conjunction : Strength := 2
def inversion : Strength := 3
def comparison : Strength := 4
def bitOr : Strength := 5
def bitXor : Strength := 6
def bitAnd : Strength := 7
def shift : Strength := 8
def sum : Strength := 9
def term : Strength := 10
def factor : Strength := 11
def power : Strength := 12

end Strength

/-- The strength of a binary operator that is no comparison. -/
def operatorStrength? (token : Token) : Option Strength :=
  match token.kind, token.text with
  | .keyword, "or" => some .disjunction
  | .keyword, "and" => some .conjunction
  | .symbol, "|" => some .bitOr
  | .symbol, "^" => some .bitXor
  | .symbol, "&" => some .bitAnd
  | .symbol, "<<" | .symbol, ">>" => some .shift
  | .symbol, "+" | .symbol, "-" => some .sum
  | .symbol, "*" | .symbol, "/" | .symbol, "%" | .symbol, "@" | .symbol, "//" => some .term
  | .symbol, "**" => some .power
  | _, _ => none

/-- The strength that the right operand must have: all operators but the power
group to the left. -/
def rightStrength (strength : Strength) : Strength :=
  if strength = .power then .factor else strength + 1

def isComparisonSymbol (text : String) : Bool :=
  ["<", "<=", "==", "!=", ">=", ">", "<>"].contains text

/-- Whether a token may begin an expression. -/
def startsExpression (token : Token) : Bool :=
  match token.kind with
  | .name | .integer | .float | .stringOpen => true
  | .keyword =>
    ["not", "lambda", "await", "async", "None", "True", "False"].contains token.text
  | .symbol => ["(", "[", "\x7b", "+", "-", "~", "."].contains token.text
  | _ => false

/-- Whether a token may begin an element of an expression list. -/
def startsElement (token : Token) : Bool :=
  startsExpression token || token.is .symbol "*"

/-- Whether a token may begin an element in brackets. -/
def startsItem (token : Token) : Bool :=
  startsElement token || token.is .symbol "**" || token.is .keyword "yield"

/-- What an assignment to an expression turns it into, if it can be assigned to. -/
def Phrase.pattern? : Phrase -> Option Phrase
  | .leaf kind token => if kind = some .identifier then some (.leaf kind token) else none
  | .inRole role phrase => (Phrase.pattern? phrase).map (.inRole role)
  | .node kind span parts =>
    match kind with
    | .attribute | .subscript => some (.node kind span parts)
    | .tuple | .parenthesizedExpression | .parenthesizedListSplat =>
      (patterns? parts).map (.node .tuplePattern span)
    | .list => (patterns? parts).map (.node .listPattern span)
    | .listSplat => (patterns? parts).map (.node .listSplatPattern span)
    | _ => none
where
  /-- The parts of a pattern: brackets, commas and stars stay as they are. -/
  patterns? : List Phrase -> Option (List Phrase)
    | [] => some []
    | .leaf none token :: rest => (patterns? rest).map (.leaf none token :: ·)
    | phrase :: rest =>
      match Phrase.pattern? phrase, patterns? rest with
      | some first, some others => some (first :: others)
      | _, _ => none

namespace Reader

section Nested

-- The reader for an expression that binds at least as strongly as asked for.
variable (inner : Strength -> Reader Phrase)

/-- A starred element. -/
def splat : Reader Phrase := do
  let star ← symbol "*"
  let value ← inner .bitOr
  return .build .listSplat star [value]

/-- Whether an expression begins with something that a star may stand before
outside brackets: a name, an attribute or a subscript. -/
def beginsWithPlace : Phrase -> Bool
  | .leaf kind _ => kind == some .identifier
  | .inRole _ phrase => beginsWithPlace phrase
  | .node kind _ parts =>
    match kind, parts with
    | .attribute, _ | .subscript, _ => true
    | .call, head :: _ | .binaryOperator, head :: _ => beginsWithPlace head
    | _, _ => false

/-- A starred element outside brackets. -/
def looseSplat : Reader Phrase := do
  let start ← get
  let star ← symbol "*"
  let value ← inner .bitOr
  if beginsWithPlace value then return .build .listSplat star [value]
  else fun _ => .error start.fault

/-- A doubly starred element. -/
def doubleSplat : Reader Phrase := do
  let stars ← symbol "**"
  let value ← inner .bitOr
  return .build .dictionarySplat stars [value]

/-- An expression or a starred element. -/
def element : Reader Phrase := do
  if ← atSymbol "*" then looseSplat inner else inner .whole

/-- Elements between commas; a single one without a comma stands for itself. -/
def elements : Reader Phrase := do
  return .group .expressionList (← commaList startsElement (element inner))

/-- A target of assignment: an element that reads as a pattern. -/
def target : Reader Phrase := do
  let start ← get
  let value ← if ← atSymbol "*" then splat inner else inner .bitOr
  match value.pattern? with
  | some pattern => return pattern
  | none => fun _ => .error start.fault

/-- Targets between commas. -/
def targets : Reader Phrase := do
  return .group .patternList (← commaList startsElement (target inner))

/-- A yield with what it hands over. -/
def yieldPhrase : Reader Phrase := do
  let head ← word "yield"
  if ← atWord "from" then
    let source ← plain
    let value ← inner .whole
    return .build .yield head [source, value]
  else if ← next startsElement then
    let value ← elements inner
    return .build .yield head [value]
  else return .build .yield head []

/-! ## Strings -/

/-- The pieces of a string between two replacement fields. -/
def isContent (token : Token) : Bool :=
  match token.kind with
  | .stringText | .escape | .doubledBrace => true
  | _ => false

/-- The part of a piece that shows in the tree. -/
def visiblePiece (token : Token) : List Phrase :=
  match token.kind with
  | .escape => [.leaf (some .escapeSequence) token]
  | .doubledBrace => [.leaf (some .escapeInterpolation) token]
  | _ => []

/-- Further pieces of one stretch of content: where it ends and what shows of it. -/
def contentTail (stop : Text.Position) : Nat -> Reader (Text.Position × List Phrase)
  | 0 => return (stop, [])
  | limit + 1 => do
    if ← next isContent then
      let token ← take
      let (stop, rest) ← contentTail token.span.stop limit
      return (stop, visiblePiece token ++ rest)
    else return (stop, [])

/-- A stretch of content. -/
def content : Reader Phrase := do
  let token ← take
  let (stop, rest) ← contentTail token.span.stop (← count)
  return .node .stringContent ⟨token.span.start, stop⟩ (visiblePiece token ++ rest)

/-- Pieces of a format specification. -/
def specTail (field : Reader Phrase) : Nat -> Reader (List Phrase)
  | 0 => return []
  | limit + 1 => do
    if ← atSymbol "\x7b" then
      let first ← field
      let rest ← specTail field limit
      return first :: rest
    else if ← next (fun token => token.kind = .formatText) then
      let _ ← take
      specTail field limit
    else return []

/-- What stands in a replacement field. -/
def fieldValue : Reader Phrase := do
  if ← atWord "yield" then yieldPhrase inner else elements inner

/-- A replacement field.  The fields within its format specification are read
by the same rule, to the given depth. -/
def field (kind : PhraseKind) : Nat -> Reader Phrase
  | 0 => fail
  | depth + 1 => do
    let opening ← symbol "\x7b"
    let value ← fieldValue inner
    let equals ← symbol? "="
    let conversion ←
      if ← next (fun token => token.kind = .conversion) then
        pure [← named .typeConversion]
      else pure []
    let spec ←
      if ← atSymbol ":" then
        let colon ← plain
        let pieces ← specTail (field .formatExpression depth) (← count)
        let stop := (← get).behind
        pure [Phrase.node .formatSpecifier ⟨colon.span.start, stop⟩ (colon :: pieces)]
      else pure []
    let closing ← symbol "\x7d"
    return .build kind opening (value :: equals.toList ++ conversion ++ spec ++ [closing])

/-- What stands between the quotes of a string. -/
def stringTail : Nat -> Reader (List Phrase)
  | 0 => return []
  | limit + 1 => do
    if ← next isContent then
      let first ← content
      let rest ← stringTail limit
      return first :: rest
    else if ← atSymbol "\x7b" then
      let first ← field inner .interpolation (← count)
      let rest ← stringTail limit
      return first :: rest
    else return []

/-- One string.  A string that never ends is reported where it begins. -/
def string : Reader Phrase := do
  let start ← get
  let opening ← named .stringStart
  let parts ← stringTail inner (← count)
  if ← next (fun token => token.kind = .stringClose) then
    let closing ← named .stringEnd
    return .build .string opening (parts ++ [closing])
  else fun feed =>
    .error (if feed.ahead.isEmpty then start.fault else feed.fault)

/-- The strings that follow a string. -/
def stringsTail : Nat -> Reader (List Phrase)
  | 0 => return []
  | limit + 1 => do
    if ← next (fun token => token.kind = .stringOpen) then
      let first ← string inner
      let rest ← stringsTail limit
      return first :: rest
    else return []

/-- Strings that stand side by side are one. -/
def strings : Reader Phrase := do
  let first ← string inner
  let rest ← stringsTail inner (← count)
  return .group .concatenatedString (first :: rest)

/-! ## Comprehensions -/

/-- Whether a comprehension's first clause begins here. -/
def atFor : Reader Bool := do
  if ← atWord "for" then return true
  else if ← atWord "async" then isSecond .keyword "for"
  else return false

/-- What a comprehension runs over: elements that are no conditionals. -/
def source : Reader Phrase := do
  if ← atSymbol "*" then looseSplat inner
  else if ← atWord "lambda" then inner .whole
  else inner .disjunction

/-- A clause that binds targets. -/
def forClause : Reader Phrase := do
  let async ← word? "async"
  let head ← word "for"
  let left ← targets inner
  let link ← word "in"
  let right ← commaList startsElement (source inner)
  return .over .forInClause (async.toList ++ head :: left :: link :: right)

/-- The clauses behind the first one. -/
def clausesTail : Nat -> Reader (List Phrase)
  | 0 => return []
  | limit + 1 => do
    if ← atFor then
      let first ← forClause inner
      let rest ← clausesTail limit
      return first :: rest
    else if ← atWord "if" then
      let head ← plain
      let condition ← source inner
      let rest ← clausesTail limit
      return .build .ifClause head [condition] :: rest
    else return []

/-- The clauses of a comprehension. -/
def clauses : Reader (List Phrase) := do
  let first ← forClause inner
  let rest ← clausesTail inner (← count)
  return first :: rest

/-! ## Brackets -/

/-- An element in brackets. -/
def item : Reader Phrase := do
  if ← atWord "yield" then yieldPhrase inner
  else if ← atSymbol "**" then doubleSplat inner
  else if ← atSymbol "*" then splat inner
  else inner .whole

/-- What stands in round brackets, and the kind of the whole. -/
def parenthesized : Reader Phrase := do
  let opening ← symbol "("
  if ← atSymbol ")" then
    let closing ← plain
    return .build .tuple opening [closing]
  else
    let first ← item inner
    if ← atFor then
      let rest ← clauses inner
      let closing ← symbol ")"
      return .build .generatorExpression opening (first :: rest ++ [closing])
    else if ← atSymbol "," then
      let rest ← commaTail startsItem (item inner) (← count)
      let closing ← symbol ")"
      return .build .tuple opening (first :: rest ++ [closing])
    else
      let closing ← symbol ")"
      let kind :=
        if first.kind? = some .listSplat then .parenthesizedListSplat else .parenthesizedExpression
      return .build kind opening [first, closing]

/-- What stands in square brackets. -/
def bracketed : Reader Phrase := do
  let opening ← symbol "["
  if ← atSymbol "]" then
    let closing ← plain
    return .build .list opening [closing]
  else
    let first ← item inner
    if ← atFor then
      let rest ← clauses inner
      let closing ← symbol "]"
      return .build .listComprehension opening (first :: rest ++ [closing])
    else
      let rest ← commaTail startsItem (item inner) (← count)
      let closing ← symbol "]"
      return .build .list opening (first :: rest ++ [closing])

/-- A key with its value. -/
def pairBehind (key : Phrase) : Reader Phrase := do
  let colon ← symbol ":"
  let value ← inner .whole
  return .build .pair key [colon, value]

/-- An entry of a dictionary. -/
def entry : Reader Phrase := do
  if ← atSymbol "**" then doubleSplat inner
  else
    let key ← inner .whole
    pairBehind inner key

/-- Whether a token may begin an entry of a dictionary. -/
def startsEntry (token : Token) : Bool :=
  startsExpression token || token.is .symbol "**"

/-- What stands in braces. -/
def braced : Reader Phrase := do
  let opening ← symbol "\x7b"
  if ← atSymbol "\x7d" then
    let closing ← plain
    return .build .dictionary opening [closing]
  else if ← atSymbol "," then
    let comma ← plain
    let closing ← symbol "\x7d"
    return .build .dictionary opening [comma, closing]
  else if ← atSymbol "**" then
    let entries ← commaList startsEntry (entry inner)
    let closing ← symbol "\x7d"
    return .build .dictionary opening (entries ++ [closing])
  else
    let first ← item inner
    if ← atSymbol ":" then
      let pair ← pairBehind inner first
      if ← atFor then
        let rest ← clauses inner
        let closing ← symbol "\x7d"
        return .build .dictionaryComprehension opening (pair :: rest ++ [closing])
      else
        let rest ← commaTail startsEntry (entry inner) (← count)
        let closing ← symbol "\x7d"
        return .build .dictionary opening (pair :: rest ++ [closing])
    else if ← atFor then
      let rest ← clauses inner
      let closing ← symbol "\x7d"
      return .build .setComprehension opening (first :: rest ++ [closing])
    else
      let rest ← commaTail startsItem (item inner) (← count)
      let closing ← symbol "\x7d"
      return .build .set opening (first :: rest ++ [closing])

/-! ## Arguments and subscripts -/

/-- An argument that gives a parameter's name. -/
def keywordArgument : Reader Phrase := do
  let name ← inRole .name identifier
  let equals ← symbol "="
  let value ← inner .whole
  return .build .keywordArgument name [equals, value]

/-- One argument. -/
def argument : Reader Phrase := do
  if ← atSymbol "*" then
    let star ← plain
    let value ← inner .whole
    return .build .listSplat star [value]
  else if ← atSymbol "**" then
    let stars ← plain
    let value ← inner .whole
    return .build .dictionarySplat stars [value]
  else if (← next fun token => token.kind = .name) && (← isSecond .symbol "=") then
    keywordArgument inner
  else inner .whole

/-- Whether a token may begin an argument. -/
def startsArgument (token : Token) : Bool :=
  startsElement token || token.is .symbol "**"

/-- The arguments of a call or of a class. -/
def arguments (generators : Bool) : Reader Phrase := do
  let opening ← symbol "("
  if ← atSymbol ")" then
    let closing ← plain
    return .build .argumentList opening [closing]
  else if ← atSymbol "," then
    let comma ← plain
    let closing ← symbol ")"
    return .build .argumentList opening [comma, closing]
  else
    let first ← argument inner
    let plainFirst := match first.kind? with
      | some .keywordArgument | some .listSplat | some .dictionarySplat => false
      | _ => true
    if generators && plainFirst && (← atFor) then
      let rest ← clauses inner
      let closing ← symbol ")"
      return .build .generatorExpression opening (first :: rest ++ [closing])
    else
      let rest ← commaTail startsArgument (argument inner) (← count)
      let closing ← symbol ")"
      return .build .argumentList opening (first :: rest ++ [closing])

/-- The part of a slice behind one of its colons. -/
def sliceBound : Reader (List Phrase) := do
  if ← next startsExpression then return [← inner .whole] else return []

/-- A slice from its first colon on, with what stands before it. -/
def sliceBehind (before : List Phrase) : Reader Phrase := do
  let colon ← symbol ":"
  let upper ← sliceBound inner
  if ← atSymbol ":" then
    let second ← plain
    let stride ← sliceBound inner
    return .over .slice (before ++ colon :: upper ++ second :: stride)
  else return .over .slice (before ++ colon :: upper)

/-- One subscript. -/
def subscriptItem : Reader Phrase := do
  if ← atSymbol "*" then looseSplat inner
  else if ← atSymbol ":" then sliceBehind inner []
  else
    let first ← inner .whole
    if ← atSymbol ":" then sliceBehind inner [first] else return first

/-- Whether a token may begin a subscript. -/
def startsSubscript (token : Token) : Bool :=
  startsElement token || token.is .symbol ":"

/-! ## Primary expressions -/

/-- Three dots side by side. -/
def ellipsis : Reader Phrase := do
  let first ← symbol "."
  let second ← symbol "."
  let third ← symbol "."
  if first.span.stop = second.span.start && second.span.stop = third.span.start then
    match first with
    | .leaf _ token =>
      return .leaf (some .ellipsis)
        { token with text := "...", span := ⟨first.span.start, third.span.stop⟩ }
    | _ => fail
  else fail

/-- An expression that no operator outside it can take apart. -/
def atom : Reader Phrase := do
  match ← peek with
  | none => fail
  | some token =>
    match token.kind, token.text with
    | .name, _ => named .identifier
    | .integer, _ => named .integer
    | .float, _ => named .float
    | .stringOpen, _ => strings inner
    | .keyword, "None" => named .noneLiteral
    | .keyword, "True" => named .trueLiteral
    | .keyword, "False" => named .falseLiteral
    | .keyword, "async" => named .identifier
    | .keyword, "await" => named .identifier
    | .symbol, "(" => parenthesized inner
    | .symbol, "[" => bracketed inner
    | .symbol, "\x7b" => braced inner
    | .symbol, "." => ellipsis
    | _, _ => fail

/-- Attributes, calls and subscripts behind an expression. -/
def trailers : Nat -> Phrase -> Reader Phrase
  | 0, left => return left
  | limit + 1, left => do
    if ← atSymbol "." then
      let dot ← plain
      let name ← identifier
      trailers limit (.build .attribute left [dot, name])
    else if ← atSymbol "(" then
      let actual ← arguments inner true
      trailers limit (.build .call left [actual])
    else if ← atSymbol "[" then
      let opening ← plain
      let keys ← commaList startsSubscript (subscriptItem inner)
      let closing ← symbol "]"
      trailers limit (.build .subscript left (opening :: keys ++ [closing]))
    else return left

/-- An atom with its trailers. -/
def primary : Reader Phrase := do
  let first ← atom inner
  trailers inner (← count) first

/-- Whether a token may begin what an await waits for. -/
def startsPrimary (token : Token) : Bool :=
  startsExpression token &&
    !(token.is .symbol "+" || token.is .symbol "-" || token.is .symbol "~" ||
      token.is .keyword "not" || token.is .keyword "lambda" || token.is .symbol ".")

/-- An awaited primary expression. -/
def awaited : Reader Phrase := do
  let head ← word "await"
  if ← next startsPrimary then
    let value ← primary inner
    return .build .await head [value]
  else match head with
    | .leaf _ token => trailers inner (← count) (.leaf (some .identifier) token)
    | phrase => return phrase

/-! ## Parameters -/

/-- An annotation. -/
def annotation : Reader Phrase := do
  if ← atSymbol "*" then
    let splat ← looseSplat inner
    return .build .type (.node .splatType splat.span splat.parts) []
  else if ← atSymbol "**" then
    let stars ← plain
    let name ← identifier
    return .build .type (.build .splatType stars [name]) []
  else
    let value ← inner .whole
    return .build .type value []

/-- A default behind a parameter that has no annotation. -/
def defaulted (parameter : Phrase) : Reader Phrase := do
  if ← atSymbol "=" then
    let equals ← plain
    let value ← inner .whole
    return .build .defaultParameter parameter [equals, value]
  else return parameter

/-- One parameter; only those of a definition may be annotated. -/
def parameter (annotated : Bool) : Reader Phrase := do
  let typed (head : Phrase) : Reader Phrase := do
    if annotated && (← atSymbol ":") then
      let colon ← plain
      let type ← annotation inner
      return .build .typedParameter head [colon, type]
    else return head
  if ← atSymbol "(" then
    let value ← parenthesized inner
    match value.pattern? with
    | some pattern => defaulted inner pattern
    | none => fail
  else if ← atSymbol "*" then
    let star ← plain
    if ← next (fun token => token.kind = .name) then
      let name ← identifier
      typed (.build .listSplatPattern star [name])
    else return .build .keywordSeparator star []
  else if ← atSymbol "**" then
    let stars ← plain
    let name ← identifier
    typed (.build .dictionarySplatPattern stars [name])
  else if ← atSymbol "/" then
    return .build .positionalSeparator (← plain) []
  else
    let name ← identifier
    if annotated && (← atSymbol ":") then
      let colon ← plain
      let type ← annotation inner
      if ← atSymbol "=" then
        let equals ← plain
        let value ← inner .whole
        return .build .typedDefaultParameter name [colon, type, equals, value]
      else return .build .typedParameter name [colon, type]
    else defaulted inner name

/-- Whether a token may begin a parameter. -/
def startsParameter (token : Token) : Bool :=
  token.kind == .name || token.is .symbol "(" || token.is .symbol "*" ||
    token.is .symbol "**" || token.is .symbol "/"

/-- A function without a name. -/
def lambda : Reader Phrase := do
  let head ← word "lambda"
  let parameters ←
    if ← atSymbol ":" then pure []
    else pure [.over .lambdaParameters (← commaList startsParameter (parameter inner false))]
  let colon ← symbol ":"
  let body ← inner .whole
  return .build .lambda head (parameters ++ [colon, body])

/-! ## Operators -/

/-- An operand with the prefix operators that bind strongly enough. -/
def operand (strength : Strength) : Reader Phrase := do
  match ← peek with
  | none => fail
  | some token =>
    match token.kind, token.text with
    | .keyword, "not" =>
      if strength ≤ .inversion then
        let head ← plain
        let value ← inner .inversion
        return .build .notOperator head [value]
      else fail
    | .keyword, "lambda" => if strength = .whole then lambda inner else fail
    | .keyword, "await" => awaited inner
    | .symbol, "+" | .symbol, "-" | .symbol, "~" =>
      let head ← plain
      let value ← inner .factor
      return .build .unaryOperator head [value]
    | _, _ => primary inner

/-- The comparison operator that comes next, if one does. -/
def comparison? : Reader (Option Phrase) := do
  match ← peek with
  | none => return none
  | some token =>
    match token.kind, token.text with
    | .keyword, "in" => return some (← plain)
    | .keyword, "is" =>
      let head ← plain
      match head, ← word? "not" with
      | .leaf kind token, some second =>
        return some (.leaf kind { token with text := "is not", span := ⟨token.span.start, second.span.stop⟩ })
      | _, _ => return some head
    | .keyword, "not" =>
      if ← isSecond .keyword "in" then
        let head ← plain
        let second ← plain
        match head with
        | .leaf kind token =>
          return some (.leaf kind { token with text := "not in", span := ⟨token.span.start, second.span.stop⟩ })
        | _ => fail
      else return none
    | .symbol, text => if isComparisonSymbol text then return some (← plain) else return none
    | _, _ => return none

/-- A chain of comparisons: operators with their right operands. -/
def comparisonTail : Nat -> Reader (List Phrase)
  | 0 => return []
  | limit + 1 => do
    match ← comparison? with
    | none => return []
    | some operator =>
      let right ← inner .bitOr
      let rest ← comparisonTail limit
      return operator :: right :: rest

/-- The binary operator that comes next and its strength, if one does. -/
def operator? : Reader (Option Strength) := do
  return (← peek).bind operatorStrength?

def operatorKind (strength : Strength) : PhraseKind :=
  if strength ≤ .conjunction then .booleanOperator else .binaryOperator

/-- Operators and their right operands behind a left operand. -/
def operators (strength : Strength) : Nat -> Phrase -> Reader Phrase
  | 0, left => return left
  | limit + 1, left => do
    match ← operator? with
    | some found =>
      if strength ≤ found then
        let sign ← plain
        let right ← inner (rightStrength found)
        operators strength limit (.build (operatorKind found) left [sign, right])
      else return left
    | none =>
      if strength ≤ .comparison then
        match ← comparisonTail inner (← count) with
        | [] => return left
        | chain => operators strength limit (.build .comparisonOperator left chain)
      else return left

/-- The branches of a conditional behind its value, if one follows. -/
def conditional (value : Phrase) : Reader Phrase := do
  if ← atWord "if" then
    let head ← plain
    let condition ← inner .disjunction
    let link ← word "else"
    let alternative ← inner .whole
    return .build .conditionalExpression value [head, condition, link, alternative]
  else return value

/-- Names bound to an expression, behind it. -/
def bindings : Nat -> Phrase -> Reader Phrase
  | 0, value => return value
  | limit + 1, value => do
    if ← atWord "as" then
      let link ← plain
      let name ← inner .disjunction
      bindings limit (.build .asPattern value [link, .build .asPatternTarget name []])
    else return value

/-- An expression that binds at least as strongly as asked for. -/
def expressionWith (strength : Strength) : Reader Phrase := do
  if strength = .whole then
    if (← next fun token => token.kind = .name) && (← isSecond .symbol ":=") then
      let name ← identifier
      let sign ← plain
      let value ← inner .whole
      return .build .namedExpression name [sign, value]
    else
      let first ← operand inner strength
      let value ← operators inner strength (← count) first
      let value ← conditional inner value
      bindings inner (← count) value
  else
    let first ← operand inner strength
    operators inner strength (← count) first

end Nested

/-- An expression that is nested less deeply than the limit. -/
def nested : Nat -> Strength -> Reader Phrase
  | 0, _ => fail
  | limit + 1, strength => expressionWith (nested limit) strength

/-- An expression of a given strength. -/
def expression (strength : Strength) : Reader Phrase := do
  nested ((← count) + 1) strength

end Reader

end Source
end ImportCensus
