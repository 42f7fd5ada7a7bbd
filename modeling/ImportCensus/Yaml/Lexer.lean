import ImportCensus.Yaml.Token.Label
import ImportCensus.Yaml.Token.Scalar

namespace ImportCensus
namespace Yaml

/-!
# Tokens of a document

Tokens are read one after the other, as far ahead as is needed to know whether
the next one begins a key: a key that stands on one line in front of a colon has no
mark of its own, so its mark is put in front of it when the colon is found.
Indentation opens and closes blocks.
-/

/-- The kinds of brackets around a place. -/
inductive Bracket where
  | sequence
  | mapping
  deriving DecidableEq, Repr

/-- A token that may turn out to begin a key. -/
structure SimpleKey where
  /-- The number of the token, counted from the beginning. -/
  number : Nat
  /-- Whether there has to be a key. -/
  required : Bool
  mark : Mark
  deriving Repr

structure Lexer where
  cursor : Cursor
  /-- Whether the end has been read. -/
  isDone : Bool
  /-- The brackets around the cursor, innermost first. -/
  brackets : List Bracket
  /-- The tokens that have been read but not taken. -/
  queue : List Token
  /-- How many tokens have been taken. -/
  taken : Nat
  /-- The column of the innermost block, below zero if there is none. -/
  indent : Int
  /-- The columns of the blocks around it. -/
  indents : List Int
  keyAllowed : Bool
  /-- The possible keys, by the number of brackets around them. -/
  keys : List (Nat × SimpleKey)
  /-- The version that a directive has declared. -/
  version : Option (Nat × Nat)
  deriving Repr

abbrev Lexing := StateT Lexer (Except Fault)

namespace Lexer

/-- A lexer in front of a document. -/
def ofText (text : List Char) : Lexer where
  cursor := .ofText text
  isDone := false
  brackets := []
  queue := [⟨.streamStart, (Cursor.ofText text).mark, (Cursor.ofText text).mark⟩]
  taken := 0
  indent := -1
  indents := []
  keyAllowed := true
  keys := []
  version := none

def level (lexer : Lexer) : Nat := lexer.brackets.length

def inFlow (lexer : Lexer) : Bool := !lexer.brackets.isEmpty

/-- Whether the older version of the format is in force. -/
def isOld (lexer : Lexer) : Bool := lexer.version == some (1, 1)

def push (lexer : Lexer) (token : Token) : Lexer :=
  { lexer with queue := lexer.queue ++ [token] }

/-- A token that takes no room. -/
def pushEmpty (lexer : Lexer) (kind : TokenKind) : Lexer :=
  lexer.push ⟨kind, lexer.cursor.mark, lexer.cursor.mark⟩

/-- A token of so many characters. -/
def pushMark (lexer : Lexer) (kind : TokenKind) (size : Nat) : Lexer :=
  let behind := Cursor.advance size lexer.cursor
  { lexer.push ⟨kind, lexer.cursor.mark, behind.mark⟩ with cursor := behind }

def key? (lexer : Lexer) (level : Nat) : Option SimpleKey :=
  (lexer.keys.find? fun found => found.1 == level).map Prod.snd

def dropKey (lexer : Lexer) (level : Nat) : Lexer :=
  { lexer with keys := lexer.keys.filter fun found => found.1 != level }

/-- The column as an indentation. -/
def column (lexer : Lexer) : Int := lexer.cursor.mark.column

/-- Open a block if a column is beyond the innermost one. -/
def deepen (lexer : Lexer) (column : Int) : Lexer × Bool :=
  if lexer.indent < column then
    ({ lexer with indents := lexer.indent :: lexer.indents, indent := column }, true)
  else (lexer, false)

/-- Close the blocks that are beyond a column. -/
def closeBlocks (column : Int) : List Int -> Lexer -> Lexer
  | [], lexer => lexer
  | around :: rest, lexer =>
    if lexer.indent ≤ column then lexer
    else
      closeBlocks column rest
        { lexer.pushEmpty .blockEnd with indent := around, indents := rest }

/-- Close blocks where brackets do not hide the indentation. -/
def unwind (lexer : Lexer) (column : Int) : Lexer :=
  if lexer.inFlow then lexer else closeBlocks column lexer.indents lexer

/-- A key that has to be one but has no colon. -/
def noColon (lexer : Lexer) (key : SimpleKey) : Fault :=
  .inside .simpleKey key.mark .noColon lexer.cursor.mark

/-- The longest key, in characters. -/
def longestKey : Nat := 1024

/-- Forget the keys that cannot be one any more: they would not be on one line,
or would be too long. -/
def forgetStale (lexer : Lexer) : Except Fault Lexer :=
  let isStale (key : SimpleKey) : Bool :=
    key.mark.line != lexer.cursor.mark.line ||
      decide (longestKey < lexer.cursor.mark.index - key.mark.index)
  match lexer.keys.find? fun found => isStale found.2 && found.2.required with
  | some (_, key) => .error (lexer.noColon key)
  | none => .ok { lexer with keys := lexer.keys.filter fun found => !isStale found.2 }

/-- Forget the possible key between the innermost brackets. -/
def forgetKey (lexer : Lexer) : Except Fault Lexer :=
  match lexer.key? lexer.level with
  | some key =>
    if key.required then .error (lexer.noColon key) else .ok (lexer.dropKey lexer.level)
  | none => .ok lexer

/-- Note that the next token may begin a key. -/
def noteKey (lexer : Lexer) : Except Fault Lexer := do
  if lexer.keyAllowed then
    let required := !lexer.inFlow && lexer.indent == lexer.column
    let number := lexer.taken + lexer.queue.length
    let lexer ← lexer.forgetKey
    return { lexer with
      keys := lexer.keys ++ [(lexer.level, ⟨number, required, lexer.cursor.mark⟩)] }
  else return lexer

/-- Put a token in front of the one with a number. -/
def insert (lexer : Lexer) (number : Nat) (token : Token) : Lexer :=
  let place := number - lexer.taken
  { lexer with queue := lexer.queue.take place ++ token :: lexer.queue.drop place }

/-- Skip what is no token: blanks, comments and line ends. -/
def skipSpace (limit : Nat) (lexer : Lexer) : Lexer :=
  let isSkipped (c : Char) : Bool := c == ' ' || (lexer.inFlow && c == '\t')
  let cursor := lexer.cursor.skip isSkipped
  let cursor := if cursor.next == '#' then cursor.skip fun c => !isEnd c else cursor
  match limit, cursor.lineBreak? with
  | limit + 1, some (_, behind) =>
    skipSpace limit
      { lexer with cursor := behind, keyAllowed := lexer.keyAllowed || !lexer.inFlow }
  | _, _ => { lexer with cursor := cursor }

/-- Skip to the next token, over a byte order mark in front of all. -/
def skipToToken (lexer : Lexer) : Lexer :=
  let cursor := lexer.cursor
  let cursor := if cursor.mark.index == 0 && cursor.next == orderMark then
    Cursor.advance 1 cursor else cursor
  skipSpace cursor.rest.length { lexer with cursor := cursor }

/-! ## One kind of token each -/

/-- Leave all blocks, as the marks between documents do. -/
def leaveBlocks (lexer : Lexer) : Except Fault Lexer := do
  let lexer ← (lexer.unwind (-1)).forgetKey
  return { lexer with keyAllowed := false }

def lexEnd (lexer : Lexer) : Except Fault Lexer := do
  let lexer ← lexer.leaveBlocks
  return { lexer.pushEmpty .streamEnd with keys := [], isDone := true }

def lexDirective (lexer : Lexer) : Except Fault Lexer := do
  let lexer ← lexer.leaveBlocks
  let (token, behind) ← directive lexer.isOld lexer.cursor
  let version := match token.kind with
    | .directive (.version major minor) => some (major, minor)
    | _ => lexer.version
  return { lexer.push token with cursor := behind, version := version }

def lexSeparator (kind : TokenKind) (lexer : Lexer) : Except Fault Lexer := do
  let lexer ← lexer.leaveBlocks
  return lexer.pushMark kind 3

def lexOpening (kind : TokenKind) (bracket : Bracket) (lexer : Lexer) : Except Fault Lexer := do
  let lexer ← lexer.noteKey
  return { lexer with brackets := bracket :: lexer.brackets, keyAllowed := true }.pushMark kind 1

def lexClosing (kind : TokenKind) (lexer : Lexer) : Except Fault Lexer := do
  let lexer ← lexer.forgetKey
  return { lexer with brackets := lexer.brackets.drop 1, keyAllowed := false }.pushMark kind 1

def lexFlowItem (lexer : Lexer) : Except Fault Lexer := do
  let lexer ← { lexer with keyAllowed := true }.forgetKey
  return lexer.pushMark .flowItem 1

/-- Open a block at the cursor if it is beyond the innermost one. -/
def openBlock (kind : TokenKind) (lexer : Lexer) : Lexer :=
  let (lexer, isOpened) := lexer.deepen lexer.column
  if isOpened then lexer.pushEmpty kind else lexer

def lexBlockItem (lexer : Lexer) : Except Fault Lexer := do
  if !lexer.inFlow && !lexer.keyAllowed then
    .error (.alone (.notAllowed "sequence entries") lexer.cursor.mark)
  let lexer := if lexer.inFlow then lexer else lexer.openBlock .blockSequenceStart
  let lexer ← { lexer with keyAllowed := true }.forgetKey
  return lexer.pushMark .blockItem 1

def lexKey (lexer : Lexer) : Except Fault Lexer := do
  if !lexer.inFlow && !lexer.keyAllowed then
    .error (.alone (.notAllowed "mapping keys") lexer.cursor.mark)
  let lexer := if lexer.inFlow then lexer else lexer.openBlock .blockMappingStart
  let lexer ← { lexer with keyAllowed := !lexer.inFlow }.forgetKey
  return lexer.pushMark .key 1

def lexValue (lexer : Lexer) : Except Fault Lexer := do
  match lexer.key? lexer.level with
  | some key =>
    let lexer := (lexer.dropKey lexer.level).insert key.number ⟨.key, key.mark, key.mark⟩
    let (lexer, isOpened) := if lexer.inFlow then (lexer, false) else lexer.deepen key.mark.column
    let lexer := if isOpened then
      lexer.insert key.number ⟨.blockMappingStart, key.mark, key.mark⟩ else lexer
    return { lexer with keyAllowed := false }.pushMark .value 1
  | none =>
    if !lexer.inFlow && !lexer.keyAllowed then
      .error (.alone (.notAllowed "mapping values") lexer.cursor.mark)
    let lexer := if lexer.inFlow then lexer else lexer.openBlock .blockMappingStart
    let lexer ← { lexer with keyAllowed := !lexer.inFlow }.forgetKey
    return lexer.pushMark .value 1

/-- A token that may begin a key, read by the given function. -/
def lexKeyLike (lexer : Lexer) (read : Cursor -> Except Fault (Token × Cursor)) :
    Except Fault Lexer := do
  let lexer ← lexer.noteKey
  let (token, behind) ← read lexer.cursor
  return { lexer.push token with cursor := behind, keyAllowed := false }

def lexPlain (lexer : Lexer) : Except Fault Lexer := do
  let lexer ← lexer.noteKey
  let (token, lineEnded, behind) :=
    plainScalar ⟨lexer.inFlow, lexer.indent + 1, lexer.isOld⟩ lexer.cursor
  return { lexer.push token with cursor := behind, keyAllowed := lineEnded }

def lexBlockScalar (isFolded : Bool) (lexer : Lexer) : Except Fault Lexer := do
  let lexer ← { lexer with keyAllowed := true }.forgetKey
  let (token, behind) ← blockScalar isFolded lexer.indent lexer.cursor
  return { lexer.push token with cursor := behind }

/-! ## The next token -/

/-- Whether a colon ends a key here. -/
def atValue (lexer : Lexer) : Bool :=
  let isSpaced := isSpaceOrEnd (lexer.cursor.peek 1)
  if lexer.isOld then lexer.inFlow || isSpaced
  else match lexer.brackets with
    | [] | .sequence :: _ => isSpaced
    | .mapping :: _ =>
      match lexer.queue.getLast? with
      | some ⟨.value, _, _⟩ => isSpaced
      | _ => true

/-- Characters that no plain scalar begins with. -/
def indicators : List Char := "-?:,[]#&*!|>'\"%@\x60\x7b\x7d".toList

/-- Whether a plain scalar begins here. -/
def atPlain (lexer : Lexer) : Bool :=
  let c := lexer.cursor.next
  let next := lexer.cursor.peek 1
  if !(isBlankOrBreak c || c == '\t' || indicators.contains c) then true
  else if !lexer.isOld && c == ':' && lexer.inFlow && !isSpaceOrTab next then true
  else !isSpaceOrEnd next && (c == '-' || (!lexer.inFlow && (c == '?' || c == ':')))

/-- Read what begins at the cursor, which is no space. -/
def lexHere (lexer : Lexer) : Except Fault Lexer :=
  let cursor := lexer.cursor
  let c := cursor.next
  let isSpaced := isSpaceOrEnd (cursor.peek 1)
  if c == endMark then lexer.lexEnd
  else if c == '%' && cursor.mark.column == 0 then lexer.lexDirective
  else if cursor.atSeparator Cursor.documentStart then lexer.lexSeparator .documentStart
  else if cursor.atSeparator Cursor.documentEnd then lexer.lexSeparator .documentEnd
  else if c == '[' then lexer.lexOpening .flowSequenceStart .sequence
  else if c == '\x7b' then lexer.lexOpening .flowMappingStart .mapping
  else if c == ']' then lexer.lexClosing .flowSequenceEnd
  else if c == '\x7d' then lexer.lexClosing .flowMappingEnd
  else if c == ',' then lexer.lexFlowItem
  else if c == '-' && isSpaced then lexer.lexBlockItem
  else if c == '?' && (lexer.inFlow || isSpaced) then lexer.lexKey
  else if c == ':' && lexer.atValue then lexer.lexValue
  else if c == '*' then lexer.lexKeyLike (label true)
  else if c == '&' then lexer.lexKeyLike (label false)
  else if c == '!' then lexer.lexKeyLike (tag lexer.isOld)
  else if (c == '|' || c == '>') && !lexer.inFlow then lexer.lexBlockScalar (c == '>')
  else if c == '\'' || c == '"' then lexer.lexKeyLike (quotedScalar (c == '"'))
  else if lexer.atPlain then lexer.lexPlain
  else .error (.marked (some (.nextToken, none)) (some (.cannotStart c, cursor.mark)))

/-- Read the next token. -/
def step (lexer : Lexer) : Except Fault Lexer := do
  let lexer ← lexer.skipToToken.forgetStale
  (lexer.unwind lexer.column).lexHere

/-- The least number of a token that may begin a key. -/
def nearestKey? (lexer : Lexer) : Option Nat :=
  lexer.keys.foldl (fun least found =>
    match least with
    | none => some found.2.number
    | some number => some (min number found.2.number)) none

/-- Read on until it is certain what the next token is. -/
def settle (limit : Nat) (lexer : Lexer) : Except Fault Lexer :=
  match limit with
  | 0 => .ok lexer
  | limit + 1 =>
    if lexer.isDone then .ok lexer
    else if lexer.queue.isEmpty then do settle limit (← lexer.step)
    else do
      let lexer ← lexer.forgetStale
      if lexer.nearestKey? = some lexer.taken then settle limit (← lexer.step)
      else return lexer

/-- Read on until it is certain what the next token is; each step takes a
character or reads the end. -/
def settled (lexer : Lexer) : Except Fault Lexer := lexer.settle (lexer.cursor.rest.length + 2)

end Lexer

/-- The next token, left where it is. -/
def peekToken : Lexing Token := do
  let lexer ← (← get).settled
  set lexer
  return lexer.queue.headD ⟨.streamEnd, lexer.cursor.mark, lexer.cursor.mark⟩

/-- Take the next token. -/
def takeToken : Lexing Token := do
  let token ← peekToken
  modify fun lexer => { lexer with queue := lexer.queue.drop 1, taken := lexer.taken + 1 }
  return token

end Yaml
end ImportCensus
