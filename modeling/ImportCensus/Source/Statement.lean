import ImportCensus.Source.CasePattern

namespace ImportCensus
namespace Source

open Syntax (PhraseKind SimpleKind CompoundKind)

/-!
# Statements of one line

A logical line holds simple statements between semicolons, or opens a compound
statement or clause up to its colon, or holds a decorator.  Two statements of
an older dialect are part of the grammar, so that they can be told from mere
errors: printing without brackets and executing a string.
-/

namespace Reader

/-- A statement over the parts that a reader finds. -/
def statementOf (kind : SimpleKind) (parts : List Phrase) : Item :=
  match parts with
  | [] => .simple kind ⟨.origin, .origin⟩ []
  | head :: tail => .simple kind (Phrase.spanOver head tail) (head :: tail)

/-! ## Imports -/

/-- An imported name, perhaps under an alias. -/
def importedName : Reader Phrase := do
  let name ← dottedName
  if ← atWord "as" then
    let link ← plain
    let label ← identifier
    return .inRole .name
      (.build .aliasedImport (.inRole .name name) [link, .inRole .alias label])
  else return .inRole .name name

def isName (token : Token) : Bool := token.kind == .name

/-- Imported names, with an optional comma at the end. -/
def importedNames : Reader (List Phrase) := commaList isName importedName

/-- Imported names in brackets or without them. -/
def nameList : Reader (List Phrase) := do
  if ← atSymbol "(" then
    let opening ← plain
    let names ← importedNames
    let closing ← symbol ")"
    return opening :: names ++ [closing]
  else importedNames

def importModules : Reader Item := do
  let head ← word "import"
  let names ← importedNames
  return statementOf .importModules (head :: names)

/-- The dots before a relative module name. -/
def dots : Nat -> Reader (List Phrase)
  | 0 => return []
  | limit + 1 => do
    match ← symbol? "." with
    | none => return []
    | some dot =>
      let rest ← dots limit
      return dot :: rest

/-- The module that names are imported from. -/
def importedModule : Reader Phrase := do
  match ← dots (← count) with
  | [] => dottedName
  | dot :: more =>
    let level := Phrase.build .importPrefix dot more
    if ← next isName then
      return .build .relativeImport level [← dottedName]
    else return .build .relativeImport level []

def importFrom : Reader Item := do
  let head ← word "from"
  if ← isNext .name "__future__" then
    let module ← plain
    let link ← word "import"
    let names ← nameList
    return statementOf .futureImport (head :: module :: link :: names)
  else
    let module ← inRole .moduleName importedModule
    let link ← word "import"
    if ← atSymbol "*" then
      let star ← plain
      return statementOf .importFrom [head, module, link, .build .wildcardImport star []]
    else
      let names ← nameList
      return statementOf .importFrom (head :: module :: link :: names)

/-! ## Expressions and assignments -/

def isAugmentedAssignment (text : String) : Bool :=
  ["+=", "-=", "*=", "/=", "@=", "//=", "%=", "**=", ">>=", "<<=", "&=", "^=", "|="].contains text

/-- Whether the next token assigns to what stands before it. -/
def atAssignment : Reader Bool :=
  next fun token => token.kind == .symbol && (token.text == "=" || isAugmentedAssignment token.text)

/-- What stands before an assignment sign, as a pattern. -/
def assigned (parts : List Phrase) : Reader Phrase := do
  match parts with
  | [single] =>
    match single.pattern? with
    | some pattern => return pattern
    | none => fail
  | parts =>
    match Phrase.pattern?.patterns? parts with
    | some patterns => return .over .patternList patterns
    | none => fail

/-- The elements of an expression list, with their commas. -/
def elementList : Reader (List Phrase) :=
  commaList startsElement (element expression)

mutual

/-- An assignment behind the pattern it assigns to. -/
def assignmentTo (left : Phrase) : Nat -> Reader Phrase
  | 0 => fail
  | limit + 1 => do
    let augmented := !(← atSymbol "=")
    let sign ← plain
    let right ← assignedValue limit
    return .build (if augmented then .augmentedAssignment else .assignment) left [sign, right]

/-- What is assigned: values, or another assignment. -/
def assignedValue : Nat -> Reader Phrase
  | 0 => fail
  | limit + 1 => do
    if ← atWord "yield" then yieldPhrase expression
    else
      let parts ← elementList
      if ← atAssignment then assignmentTo (← assigned parts) limit
      else return .group .expressionList parts

end

/-- An annotation behind the pattern it belongs to, perhaps with a value. -/
def annotated (left : Phrase) : Reader Phrase := do
  let colon ← symbol ":"
  let type ← annotation expression
  if ← atSymbol "=" then
    let sign ← plain
    let right ← assignedValue ((← count) + 1)
    return .build .assignment left [colon, type, sign, right]
  else return .build .assignment left [colon, type]

/-- The parts of an expression statement. -/
def expressionParts : Reader (List Phrase) := do
  if ← atWord "yield" then return [← yieldPhrase expression]
  else
    let parts ← elementList
    if ← atAssignment then
      let left ← assigned parts
      return [← assignmentTo left ((← count) + 1)]
    else if ← atSymbol ":" then
      match parts with
      | [_] =>
        let left ← assigned parts
        return [← annotated left]
      | _ => fail
    else return parts

def expressionStatement : Reader Item := do
  return statementOf .expression (← expressionParts)

/-! ## Statements of the older dialect -/

/-- Whether a simple statement may end here. -/
def atStatementEnd : Reader Bool := do
  if ← atEnd then return true else atSymbol ";"

/-- Whether a token begins an operand and cannot go on with an expression. -/
def beginsAfresh (token : Token) (second : Option Token) : Bool :=
  match token.kind with
  | .name | .integer | .float | .stringOpen => true
  | .keyword =>
    if token.text == "not" then !(second.any fun token => token.is .keyword "in")
    else ["lambda", "await", "None", "True", "False"].contains token.text
  | .symbol =>
    token.text == "\x7b" || token.text == "~" ||
      (token.text == "." && second.any fun token => token.is .symbol ".")
  | _ => false

/-- Printing without brackets. -/
def printStatement : Reader Item := do
  let head ← plain
  if ← atSymbol ">>" then
    let arrow ← plain
    let stream ← expression .whole
    let rest ← commaTail startsElement (element expression) (← count)
    return statementOf .print (head :: .build .chevron arrow [stream] :: rest)
  else
    let arguments ← commaList startsElement (element expression)
    return statementOf .print (head :: arguments)

/-- A statement that begins with the name `print`. -/
def printOrExpression : Reader Item := do
  let feed ← get
  let second := feed.ahead.tail.head?
  let third := feed.ahead.tail.tail.head?
  if second.any fun token => token.is .symbol ">>" || beginsAfresh token third then printStatement
  else
    orElse (do
      let statement ← expressionStatement
      if ← atStatementEnd then return statement else fail) <|
      if second.any fun token => token.is .symbol "(" || token.is .symbol "[" then printStatement
      else expressionStatement

/-- A statement that begins with the name `exec`. -/
def execOrExpression : Reader Item := do
  let feed ← get
  let second := feed.ahead.tail.head?
  if second.any fun token => token.kind = .name || token.kind = .stringOpen then
    let head ← plain
    let code ←
      if ← next isName then identifier else string expression
    if ← atWord "in" then
      let link ← plain
      let scopes ← strictCommaList (expression .whole)
      return statementOf .exec (head :: code :: link :: scopes)
    else return statementOf .exec [head, code]
  else expressionStatement

/-! ## Other simple statements -/

/-- Type parameters in brackets, each perhaps with a bound. -/
def typeParameters : Reader Phrase := do
  let opening ← symbol "["
  let one : Reader Phrase := do
    let type ← annotation expression
    if ← atSymbol ":" then
      let colon ← plain
      let bound ← annotation expression
      return .build .type (.build .constrainedType type [colon, bound]) []
    else return type
  let parts ← commaList (fun token => startsElement token || token.is .symbol "**") one
  let closing ← symbol "]"
  return .build .typeParameter opening (parts ++ [closing])

def typeAlias : Reader Item := do
  let head ← plain
  let name ← identifier
  let parameters ← if ← atSymbol "[" then pure [← typeParameters] else pure []
  let sign ← symbol "="
  let value ← annotation expression
  return statementOf .typeAlias
    [head, .over .type (name :: parameters), sign, value]

def returnStatement : Reader Item := do
  let head ← plain
  let value ← if ← next startsElement then pure [← elements expression] else pure []
  return statementOf .ret (head :: value)

def deleteStatement : Reader Item := do
  let head ← plain
  return statementOf .delete [head, ← elements expression]

def raiseStatement : Reader Item := do
  let head ← plain
  let value ← if ← next startsExpression then pure [← elements expression] else pure []
  let cause ←
    if ← atWord "from" then
      let link ← plain
      pure [link, ← expression .whole]
    else pure []
  return statementOf .raise (head :: value ++ cause)

def assertStatement : Reader Item := do
  let head ← plain
  return statementOf .assert (head :: (← strictCommaList (expression .whole)))

/-- Names between commas behind a keyword. -/
def declaration (kind : SimpleKind) : Reader Item := do
  let head ← plain
  return statementOf kind (head :: (← strictCommaList identifier))

/-- One simple statement. -/
def simpleStatement : Reader Item := do
  match ← peek with
  | none => fail
  | some token =>
    match token.kind, token.text with
    | .keyword, "import" => importModules
    | .keyword, "from" => importFrom
    | .keyword, "return" => returnStatement
    | .keyword, "del" => deleteStatement
    | .keyword, "raise" => raiseStatement
    | .keyword, "assert" => assertStatement
    | .keyword, "global" => declaration .declareGlobal
    | .keyword, "nonlocal" => declaration .declareNonlocal
    | .keyword, "pass" => return statementOf .pass [← plain]
    | .keyword, "break" => return statementOf .breakLoop [← plain]
    | .keyword, "continue" => return statementOf .continueLoop [← plain]
    | .name, "print" => printOrExpression
    | .name, "exec" => execOrExpression
    | .name, "type" => do
      let feed ← get
      if feed.ahead.tail.head?.any isName then typeAlias else expressionStatement
    | _, _ => expressionStatement

/-- Simple statements between semicolons, up to the end of the line. -/
def simpleStatements : Nat -> Reader (List Item)
  | 0 => fail
  | limit + 1 => do
    let first ← simpleStatement
    if ← atEnd then return [first]
    else if ← atSymbol ";" then
      let separator ← take
      if ← atEnd then return [first, .separator separator]
      else
        let rest ← simpleStatements limit
        return first :: .separator separator :: rest
    else fail

/-- The simple statements that make up the rest of a line. -/
def statements : Reader (List Item) := do
  simpleStatements ((← count) + 1)

/-! ## Headers of compound statements -/

/-- A condition behind a keyword. -/
def conditionHeader : Reader (List Phrase) := do
  let head ← plain
  let condition ← expression .whole
  let colon ← symbol ":"
  return [head, condition, colon]

/-- A keyword alone. -/
def bareHeader : Reader (List Phrase) := do
  let head ← plain
  let colon ← symbol ":"
  return [head, colon]

def forHeader : Reader (List Phrase) := do
  let async ← word? "async"
  let head ← word "for"
  let left ← targets expression
  let link ← word "in"
  let right ← elements expression
  let colon ← symbol ":"
  return async.toList ++ [head, left, link, right, colon]

/-- The managers of a with statement.  Brackets around all of them, or around a
single one that is bound to a name, belong to the clause. -/
def withClause (managers : List Phrase) : Phrase :=
  let items (phrases : List Phrase) : List Phrase := phrases.map fun phrase =>
    match phrase.kind? with
    | some _ => .build .withItem phrase []
    | none => phrase
  match managers with
  | [.node .tuple span parts] => .node .withClause span (items parts)
  | [.node .parenthesizedExpression span parts] =>
    if parts.any fun part => part.kind? = some .asPattern then .node .withClause span (items parts)
    else .over .withClause (items managers)
  | _ => .over .withClause (items managers)

def withHeader : Reader (List Phrase) := do
  let async ← word? "async"
  let head ← word "with"
  let managers ← commaList startsExpression (expression .whole)
  let colon ← symbol ":"
  return async.toList ++ [head, withClause managers, colon]

/-- The parameters of a definition, in brackets. -/
def parameterList : Reader Phrase := do
  let opening ← symbol "("
  let parts ←
    if ← atSymbol ")" then pure []
    else commaList startsParameter (parameter expression true)
  let closing ← symbol ")"
  return .build .parameters opening (parts ++ [closing])

def functionHeader : Reader (List Phrase) := do
  let async ← word? "async"
  let head ← word "def"
  let name ← inRole .name identifier
  let types ← if ← atSymbol "[" then pure [← typeParameters] else pure []
  let parameters ← parameterList
  let result ←
    if ← atSymbol "->" then
      let arrow ← plain
      pure [arrow, ← annotation expression]
    else pure []
  let colon ← symbol ":"
  return async.toList ++ head :: name :: types ++ parameters :: result ++ [colon]

def classHeader : Reader (List Phrase) := do
  let head ← word "class"
  let name ← inRole .name identifier
  let types ← if ← atSymbol "[" then pure [← typeParameters] else pure []
  let bases ← if ← atSymbol "(" then pure [← arguments expression false] else pure []
  let colon ← symbol ":"
  return head :: name :: types ++ bases ++ [colon]

/-- What a handler catches, perhaps bound to a name. -/
def exceptHeader : Reader (CompoundKind × List Phrase) := do
  let head ← word "except"
  let star ← symbol? "*"
  let caught ←
    if ← next startsExpression then
      let value ← expression .whole
      if ← atSymbol "," then
        let comma ← plain
        pure [value, comma, ← expression .whole]
      else pure [value]
    else pure []
  let colon ← symbol ":"
  let kind := if star.isSome then .exceptGroupClause else .exceptClause
  return (kind, head :: star.toList ++ caught ++ [colon])

def matchHeader : Reader (List Phrase) := do
  let head ← plain
  let subjects ← commaList startsElement (element expression)
  let colon ← symbol ":"
  return head :: subjects ++ [colon]

def caseHeader : Reader (List Phrase) := do
  let head ← plain
  let patterns ← commaList startsPattern casePattern
  let guard ←
    if ← atWord "if" then
      let link ← plain
      pure [.build .ifClause link [← expression .whole]]
    else pure []
  let colon ← symbol ":"
  return head :: patterns ++ guard ++ [colon]

/-- Whether the line looks like the header of a match statement: nothing else
that begins with this name can end with a colon. -/
def atMatch : Reader Bool := fun feed =>
  .ok (feed.ahead.head?.any (fun token => token.is .name "match") &&
    decide (2 < feed.ahead.length) &&
    feed.ahead.getLast?.any (fun token => token.is .symbol ":"), feed)

def kindWith (kind : CompoundKind) (header : Reader (List Phrase)) :
    Reader (Option (CompoundKind × List Phrase)) := do
  return some (kind, ← header)

/-- The header of a compound statement or clause, if the line opens one. -/
def header? : Reader (Option (CompoundKind × List Phrase)) := do
  match ← peek with
  | none => return none
  | some token =>
    match token.kind, token.text with
    | .keyword, "if" => kindWith .ifStatement conditionHeader
    | .keyword, "elif" => kindWith .elifClause conditionHeader
    | .keyword, "while" => kindWith .whileStatement conditionHeader
    | .keyword, "else" => kindWith .elseClause bareHeader
    | .keyword, "try" => kindWith .tryStatement bareHeader
    | .keyword, "finally" => kindWith .finallyClause bareHeader
    | .keyword, "except" => return some (← exceptHeader)
    | .keyword, "for" => kindWith .forStatement forHeader
    | .keyword, "with" => kindWith .withStatement withHeader
    | .keyword, "def" => kindWith .functionDefinition functionHeader
    | .keyword, "class" => kindWith .classDefinition classHeader
    | .keyword, "async" =>
      if ← isSecond .keyword "for" then kindWith .forStatement forHeader
      else if ← isSecond .keyword "with" then kindWith .withStatement withHeader
      else if ← isSecond .keyword "def" then kindWith .functionDefinition functionHeader
      else return none
    | _, _ => if ← atMatch then kindWith .matchStatement matchHeader else return none

end Reader

/-- A header with what follows its colon on the same line. -/
structure Opening where
  kind : CompoundKind
  parts : List Phrase
  suite : Option (List Item)

/-- What a logical line amounts to. -/
inductive Reading where
  | statements (items : List Item)
  | opening (opening : Opening)
  | decorator (phrase : Phrase)

namespace Reader

/-- A header with the statements behind it. -/
def openingWith (kind : CompoundKind) (parts : List Phrase) : Reader Reading := do
  if ← atEnd then return .opening ⟨kind, parts, none⟩
  else return .opening ⟨kind, parts, some (← statements)⟩

/-- A whole line.  Among the cases of a match statement only cases are read. -/
def line (inMatch : Bool) : Reader Reading := do
  if inMatch then
    if ← isNext .name "case" then openingWith .caseClause (← caseHeader) else fail
  else if ← atSymbol "@" then
    let sign ← plain
    let value ← expression .whole
    finish
    return .decorator (.build .decorator sign [value])
  else
    match ← header? with
    | some (kind, parts) => openingWith kind parts
    | none => return .statements (← statements)

end Reader

/-- Read a logical line. -/
def Line.read (inMatch : Bool) (line : Line) : Except Fault Reading :=
  (Reader.line inMatch ⟨line.first.span.start, line.tokens⟩).map Prod.fst

end Source
end ImportCensus
