import ImportCensus.Source.Phrase

namespace ImportCensus
namespace Source

open Syntax (PhraseKind)

/-!
# Reading tokens

The grammar is read from the tokens of one logical line, left to right, with at
most two tokens of look-ahead.  A failure says behind which place and at which
token it happened.  Loops run at most once for every token ahead, which is no
restriction, since each round takes a token.
-/

/-- What a reader has before it, and the place behind what it has taken. -/
structure Feed where
  behind : Text.Position
  ahead : List Token
  deriving Repr

/-- The place of a failure: behind the last token taken, before the tokens left. -/
structure Fault where
  behind : Text.Position
  ahead : List Token
  deriving Repr

/-- The failure of a reader that cannot go on from here. -/
def Feed.fault (feed : Feed) : Fault := ⟨feed.behind, feed.ahead⟩

abbrev Reader := StateT Feed (Except Fault)

namespace Reader

def fail {α : Type} : Reader α := fun feed => .error feed.fault

/-- The next token, left where it is. -/
def peek : Reader (Option Token) := fun feed => .ok (feed.ahead.head?, feed)

/-- Whether the next token is of a kind and spelled in a given way. -/
def isNext (kind : LexemeKind) (text : String) : Reader Bool := fun feed =>
  .ok (feed.ahead.head?.any fun token => token.is kind text, feed)

def atSymbol (text : String) : Reader Bool := isNext .symbol text

def atWord (text : String) : Reader Bool := isNext .keyword text

/-- Whether the token behind the next one is of a kind and spelled in a given way. -/
def isSecond (kind : LexemeKind) (text : String) : Reader Bool := fun feed =>
  .ok (feed.ahead.tail.head?.any fun token => token.is kind text, feed)

/-- How many tokens are ahead. -/
def count : Reader Nat := fun feed => .ok (feed.ahead.length, feed)

/-- Take the next token. -/
def take : Reader Token := fun feed =>
  match feed.ahead with
  | [] => .error feed.fault
  | token :: rest => .ok (token, ⟨token.span.stop, rest⟩)

/-- Take the next token as it is spelled. -/
def plain : Reader Phrase := do
  return .leaf none (← take)

/-- Take the next token under a kind of its own. -/
def named (kind : PhraseKind) : Reader Phrase := do
  return .leaf (some kind) (← take)

def expect (kind : LexemeKind) (text : String) : Reader Phrase := do
  if ← isNext kind text then plain else fail

def symbol (text : String) : Reader Phrase := expect .symbol text

def word (text : String) : Reader Phrase := expect .keyword text

/-- Take the next token if it is spelled in a given way. -/
def symbol? (text : String) : Reader (Option Phrase) := do
  if ← atSymbol text then return some (← plain) else return none

def word? (text : String) : Reader (Option Phrase) := do
  if ← atWord text then return some (← plain) else return none

/-- A name. -/
def identifier : Reader Phrase := do
  match ← peek with
  | some token => if token.kind = .name then named .identifier else fail
  | none => fail

/-- Whether the next token satisfies a test. -/
def next (test : Token -> Bool) : Reader Bool := fun feed =>
  .ok (feed.ahead.head?.any test, feed)

def atEnd : Reader Bool := fun feed => .ok (feed.ahead.isEmpty, feed)

/-- Succeed only where no token is left. -/
def finish : Reader Unit := do
  if ← atEnd then return () else fail

/-- Read elements, each behind a comma, as long as one begins there; a comma
may be the last. -/
def commaTail (starts : Token -> Bool) (element : Reader Phrase) : Nat -> Reader (List Phrase)
  | 0 => return []
  | limit + 1 => do
    match ← symbol? "," with
    | none => return []
    | some comma =>
      if ← next starts then
        let first ← element
        let rest ← commaTail starts element limit
        return comma :: first :: rest
      else return [comma]

/-- Elements between commas, with an optional comma at the end. -/
def commaList (starts : Token -> Bool) (element : Reader Phrase) : Reader (List Phrase) := do
  let first ← element
  let rest ← commaTail starts element (← count)
  return first :: rest

/-- Elements between commas, none of which may be missing. -/
def strictCommaTail (element : Reader Phrase) : Nat -> Reader (List Phrase)
  | 0 => return []
  | limit + 1 => do
    match ← symbol? "," with
    | none => return []
    | some comma =>
      let first ← element
      let rest ← strictCommaTail element limit
      return comma :: first :: rest

def strictCommaList (element : Reader Phrase) : Reader (List Phrase) := do
  let first ← element
  let rest ← strictCommaTail element (← count)
  return first :: rest

/-- Read a phrase in a role for its parent. -/
def inRole (role : Syntax.Role) (reader : Reader Phrase) : Reader Phrase := do
  return .inRole role (← reader)

/-- Try one reader and, where it fails, another from the same place.  Of two
failures the second is reported. -/
def orElse {α : Type} (first second : Reader α) : Reader α := fun feed =>
  match first feed with
  | .ok result => .ok result
  | .error _ => second feed

end Reader

/-- The node over a non-empty row of phrases; a row of one stands for itself. -/
def Phrase.group (kind : PhraseKind) : List Phrase -> Phrase
  | [single] => single
  | head :: tail => .build kind head tail
  | [] => .node kind ⟨.origin, .origin⟩ []

/-- The node over a row of phrases that is not empty. -/
def Phrase.over (kind : PhraseKind) : List Phrase -> Phrase
  | head :: tail => .build kind head tail
  | [] => .node kind ⟨.origin, .origin⟩ []

end Source
end ImportCensus
