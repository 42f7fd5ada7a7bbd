import ImportCensus.Yaml.Node

namespace ImportCensus
namespace Yaml

/-!
# Documents

A text holds at most one document.  A document may be bare, or begin with a mark
that directives may stand in front of; it may also have a mark at its end.
-/

open Composing

/-- Whether a character may stand in a document. -/
def isAllowed (c : Char) : Bool :=
  c == '\t' || c == '\n' || c == '\r' || (' ' ≤ c && c ≤ '~') || c == '\x85' ||
    ('\xa0' ≤ c && c.toNat != 0xfffe && c.toNat != 0xffff)

/-- The first character that may not stand in a document. -/
def forbidden? (text : List Char) : Option Fault :=
  match text.dropWhile isAllowed with
  | [] => none
  | c :: rest => some (.character c.toNat (text.length - rest.length - 1))

/-- Read the directives in front of a document, given the version and the handles
that have been declared so far. -/
def directives (limit : Nat) (version : Bool) (handles : List (String × String)) :
    Composing (List (String × String)) :=
  match limit with
  | 0 => return handles
  | limit + 1 => do
    let token ← peek
    match token.kind with
    | .directive (.version major _) =>
      let _ ← take
      if version then fail (.alone .repeatedVersion token.start)
      else if major ≠ 1 then fail (.alone .foreignVersion token.start)
      else directives limit true handles
    | .directive (.tag handle meant) =>
      let _ ← take
      if handles.any fun found => found.1 == handle then
        fail (.alone (.repeatedHandle handle) token.start)
      else directives limit version (handles ++ [(handle, meant)])
    | .directive .unknown =>
      let _ ← take
      directives limit version handles
    | _ => return handles

/-- Skip the marks at the ends of documents. -/
def skipEnds (limit : Nat) : Composing Unit :=
  match limit with
  | 0 => return ()
  | limit + 1 => do
    if ← isNext [.documentEnd] then
      let _ ← take
      skipEnds limit
    else return ()

/-- Where a document begins, and whether a mark tells so. -/
structure Opening where
  start : Mark
  isMarked : Bool

/-- Read the beginning of the next document, if there is one. -/
def opening? (limit : Nat) (mayBeBare : Bool) : Composing (Option Opening) := do
  let token ← peek
  let isBare := match token.kind with
    | .directive _ | .documentStart | .streamEnd => false
    | _ => mayBeBare
  if isBare then
    modify fun composer => { composer with handles := standardHandles, anchors := [] }
    return some ⟨token.start, false⟩
  else
    skipEnds limit
    if ← isNext [.streamEnd] then return none
    else
      let declared ← directives limit false []
      modify fun composer =>
        { composer with handles := declared ++ standardHandles, anchors := [] }
      let token ← peek
      if token.kind = .documentStart then
        let _ ← take
        return some ⟨token.start, true⟩
      else fail (.alone (.noDocumentStart token.kind.name) token.start)

/-- Whether a document without content ends at a token. -/
def endsDocument : TokenKind -> Bool
  | .directive _ | .documentStart | .documentEnd | .streamEnd => true
  | _ => false

/-- Read the end of a document; the answer is whether it is marked. -/
def closing : Composing Bool := do
  let token ← peek
  if token.kind = .documentEnd then
    let _ ← take
    let next ← peek
    if next.kind ≠ .streamEnd && token.stop.line == next.start.line then
      fail (.alone (.behindDocumentEnd next.kind.name) next.start)
    else return true
  else return false

/-- Read a text that holds at most one document; the answer is its root. -/
def single (limit : Nat) : Composing (Option Node) := do
  let _ ← take
  match ← opening? limit true with
  | none => return none
  | some opening =>
    let token ← peek
    let root ← if opening.isMarked && endsDocument token.kind then pure (emptyNode token.start)
      else node limit true false
    let isMarked ← closing
    match ← opening? limit (isMarked && !(← isOld)) with
    | none => return some root
    | some another => fail (.inside .singleDocument root.start .anotherDocument another.start)

/-- A bound for the number of steps: every token takes a character or opens or
closes what another one has begun. -/
def stepBound (text : List Char) : Nat := 8 * (text.length + 4)

/-- The root of the document in a text, if there is one, and whether the older
version of the format was in force. -/
def readNode (text : List Char) : Except Fault (Option Node × Bool) :=
  match forbidden? text with
  | some fault => .error fault
  | none =>
    match (single (stepBound text)).run ⟨.ofText text, [], standardHandles⟩ with
    | .ok (root, composer) => .ok (root, composer.lexer.isOld)
    | .error fault => .error fault

end Yaml
end ImportCensus
